import DocAudit.Proofs.Text.OneLine
import DocAudit.Settings
import Mathlib.Data.List.Infix

/-! # File titles — a report named after a source file

    A report without a title of its own is named after the first source.  If this is a file, its
    name is to lose the extension; what is done is that EVERY stretch of the name that reads
    like the extension is erased, wherever it stands.

    The name is the last part of the path that says something, however the path is written
    (`Path.getLast?_parts_iff`).  Erasing is told by the pieces between the erased stretches, and
    no stretch can reach into another, since the extension does not begin as it ends
    (`Unbordered`).  So the title is as it should be exactly if the rest of the name holds no
    such stretch. -/

namespace DocAudit

open Text

/-! ## Erasing -/

namespace Text

variable {pat t rest : Text} {c : Char}

/-- What is left of a stretch that is being erased is skipped. -/
theorem eraseAfter_eq (pat : Text) (skip : Nat) (t : Text) :
    eraseAfter pat skip t = eraseAll pat (t.drop skip) := by
  induction skip generalizing t with
  | zero => rfl
  | succ skip ih =>
      cases t with
      | nil => rfl
      | cons c rest =>
          rw [eraseAfter, List.drop_succ_cons]
          exact ih rest

theorem prefix_join (sep first : Text) (more : List Text) : first <+: join sep (first :: more) := by
  cases more with
  | nil => exact List.prefix_refl first
  | cons second more =>
      rw [join_cons_cons, List.append_assoc]
      exact List.prefix_append first _

theorem eraseAll_cons (h : ¬ pat <+: c :: rest) :
    eraseAll pat (c :: rest) = c :: eraseAll pat rest := by
  rw [eraseAll, eraseAfter, if_neg (fun hbegins => h (List.isPrefixOf_iff_prefix.mp hbegins))]
  rfl

section

variable (hne : pat ≠ [])

include hne

theorem eraseAll_append_left (rest : Text) : eraseAll pat (pat ++ rest) = eraseAll pat rest := by
  obtain ⟨c, more, rfl⟩ := List.exists_cons_of_ne_nil hne
  have hbegins : (c :: more).isPrefixOf (c :: (more ++ rest)) = true :=
    List.isPrefixOf_iff_prefix.mpr (List.prefix_append (c :: more) rest)
  show eraseAfter (c :: more) 0 (c :: (more ++ rest)) = _
  rw [eraseAfter, if_pos hbegins, eraseAfter_eq]
  simp

/-- **INDUCTION OVER OCCURRENCES**: a text is empty, or begins with the pattern, or goes on with a
    character at which the pattern does not stand. -/
@[elab_as_elim]
theorem occurrence_induction {motive : Text → Prop} (nil : motive [])
    (pattern : ∀ rest, motive rest → motive (pat ++ rest))
    (other : ∀ c rest, ¬ pat <+: c :: rest → motive rest → motive (c :: rest)) (t : Text) :
    motive t := by
  induction hlength : t.length using Nat.strong_induction_on generalizing t with
  | _ n ih =>
      subst hlength
      by_cases hbegins : pat <+: t
      · obtain ⟨rest, rfl⟩ := hbegins
        refine pattern rest (ih rest.length ?_ rest rfl)
        have := List.length_pos_iff.mpr hne
        rw [List.length_append]
        omega
      · cases t with
        | nil => exact nil
        | cons c rest => exact other c rest hbegins (ih rest.length (Nat.lt_succ_self _) rest rfl)

theorem length_eraseAll_le (t : Text) : (eraseAll pat t).length ≤ t.length := by
  induction t using occurrence_induction hne with
  | nil => exact Nat.le_refl 0
  | pattern rest ih =>
      rw [eraseAll_append_left hne, List.length_append]
      omega
  | other c rest hbegins ih =>
      rw [eraseAll_cons hbegins]
      exact Nat.succ_le_succ ih

/-- Erasing leaves a text alone exactly if the pattern does not stand in it. -/
theorem eraseAll_eq_self_iff : eraseAll pat t = t ↔ ¬ pat <:+: t := by
  induction t using occurrence_induction hne with
  | nil => exact iff_of_true rfl (fun h => hne (List.infix_nil.mp h))
  | pattern rest ih =>
      refine iff_of_false ?_ (fun h => h (List.prefix_append pat rest).isInfix)
      intro h
      have hlength := length_eraseAll_le hne rest
      have hpos := List.length_pos_iff.mpr hne
      rw [eraseAll_append_left hne] at h
      rw [h, List.length_append] at hlength
      omega
  | other c rest hbegins ih =>
      rw [eraseAll_cons hbegins, List.infix_cons_iff, List.cons_inj_right, ih]
      simp [hbegins]

/-- What is left after erasing are the pieces between the erased stretches. -/
theorem exists_pieces (t : Text) :
    ∃ pieces, t = join pat pieces ∧ (∀ piece ∈ pieces, ¬ pat <:+: piece) ∧
      eraseAll pat t = pieces.flatten := by
  -- the list is carried along as one that is not empty, to have a first piece to add to
  suffices h : ∃ first pieces, t = join pat (first :: pieces) ∧
      (∀ piece ∈ first :: pieces, ¬ pat <:+: piece) ∧
      eraseAll pat t = (first :: pieces).flatten by
    obtain ⟨first, pieces, h⟩ := h
    exact ⟨first :: pieces, h⟩
  induction t using occurrence_induction hne with
  | nil =>
      refine ⟨[], [], rfl, ?_, rfl⟩
      intro piece hpiece
      obtain rfl := List.mem_singleton.mp hpiece
      exact fun h => hne (List.infix_nil.mp h)
  | pattern rest ih =>
      obtain ⟨first, pieces, rfl, hfree, herased⟩ := ih
      refine ⟨[], first :: pieces, rfl, ?_, ?_⟩
      · intro piece hpiece
        rcases List.mem_cons.mp hpiece with rfl | hpiece
        · exact fun h => hne (List.infix_nil.mp h)
        · exact hfree piece hpiece
      · rw [eraseAll_append_left hne, herased]
        rfl
  | other c rest hbegins ih =>
      obtain ⟨first, pieces, rfl, hfree, herased⟩ := ih
      have hjoin : c :: join pat (first :: pieces) = join pat ((c :: first) :: pieces) :=
        (join_consHead pat c (List.cons_ne_nil first pieces)).symm
      refine ⟨c :: first, pieces, hjoin, ?_, ?_⟩
      · intro piece hpiece
        rcases List.mem_cons.mp hpiece with rfl | hpiece
        · rw [List.infix_cons_iff, not_or]
          refine ⟨fun h => hbegins (h.trans ?_), hfree first List.mem_cons_self⟩
          rw [List.cons_prefix_cons]
          exact ⟨rfl, prefix_join pat first pieces⟩
        · exact hfree piece (List.mem_cons_of_mem first hpiece)
      · rw [eraseAll_cons hbegins, herased]
        rfl

end

/-- No end of the text is a beginning of it, but for the empty one and the whole. -/
def Unbordered (pat : Text) : Prop := ∀ back ∈ pat.tails, back <+: pat → back = [] ∨ back = pat

instance (pat : Text) : Decidable (Unbordered pat) :=
  inferInstanceAs (Decidable (∀ back ∈ pat.tails, back <+: pat → back = [] ∨ back = pat))

/-- A pattern without a border is erased at the end without a trace. -/
theorem eraseAll_append_right (hne : pat ≠ []) (h : Unbordered pat) (s : Text) :
    eraseAll pat (s ++ pat) = eraseAll pat s := by
  induction s using occurrence_induction hne with
  | nil =>
      have hself := eraseAll_append_left hne []
      rwa [List.append_nil] at hself
  | pattern rest ih =>
      rw [List.append_assoc, eraseAll_append_left hne, eraseAll_append_left hne, ih]
  | other c rest hbegins ih =>
      -- the pattern does not stand here either: it would reach into the one at the end
      have hnone : ¬ pat <+: c :: (rest ++ pat) := by
        intro hlonger
        rcases List.prefix_or_prefix_of_prefix hlonger
          (show c :: rest <+: c :: (rest ++ pat) from List.prefix_append _ _)
          with hfront | ⟨back, hback⟩
        · exact hbegins hfront
        · have hpat : back <+: pat := by
            rw [← List.prefix_append_right_inj (c :: rest), hback]
            exact hlonger
          rcases h back ((List.mem_tails _ _).mpr ⟨c :: rest, hback⟩) hpat with rfl | rfl
          · exact hbegins (by rw [← hback, List.append_nil])
          · exact List.cons_ne_nil c rest (List.append_left_eq_self.mp hback)
      rw [List.cons_append, eraseAll_cons hnone, eraseAll_cons hbegins, ih]

end Text

/-! ## The last part of a path -/

namespace Path

variable {t part : Text}

/-- A part that says nothing of where the path leads: it is empty or a dot. -/
def Idle (part : Text) : Prop := part = [] ∨ part = here

instance (part : Text) : Decidable (Idle part) :=
  inferInstanceAs (Decidable (part = [] ∨ part = here))

theorem not_idle_iff : (!part.isEmpty && part != here) = true ↔ ¬ Idle part := by
  rw [Idle, not_or]
  simp

theorem Idle.slash_not_mem (h : Idle part) : '/' ∉ part := by
  rcases h with rfl | rfl
  · exact List.not_mem_nil
  · decide

/-- Written with slashes between its parts, the path has this part as the last one that is not
    idle. -/
structure EndsIn (t part : Text) : Prop where
  busy : ¬ Idle part
  whole : '/' ∉ part
  written : ∃ front back : List Text,
    t = join ['/'] (front ++ part :: back) ∧ ∀ idle ∈ back, Idle idle

/-- Cutting at slashes leaves parts without a slash alone. -/
theorem flatMap_splitOn {parts : List Text} (h : ∀ part ∈ parts, '/' ∉ part) :
    parts.flatMap (splitOn '/') = parts := by
  induction parts with
  | nil => rfl
  | cons part rest ih =>
      rw [List.flatMap_cons, splitOn_of_not_mem (h part List.mem_cons_self),
        ih fun other hother => h other (List.mem_cons_of_mem part hother)]
      rfl

/-- **HOWEVER IT IS WRITTEN**, a path keeps as its last part the last one that is not idle. -/
theorem getLast?_parts_iff : (ofText t).parts.getLast? = some part ↔ EndsIn t part := by
  show ((splitOn '/' t).filter fun part => !part.isEmpty && part != here).getLast? = some part ↔ _
  constructor
  · rw [List.getLast?_filter, List.find?_eq_some_iff_append]
    rintro ⟨hbusy, back, front, hparts, hidle⟩
    have hsplit : splitOn '/' t = front.reverse ++ part :: back.reverse := by
      rw [List.reverse_eq_iff.mp hparts]
      simp
    have hpart : part ∈ splitOn '/' t := by
      rw [hsplit]
      simp
    refine ⟨not_idle_iff.mp hbusy, not_mem_of_mem_splitOn hpart, front.reverse, back.reverse,
      ?_, ?_⟩
    · rw [← hsplit, join_splitOn]
    · intro idle hmem
      have hnot := hidle idle (List.mem_reverse.mp hmem)
      by_contra hbusy
      rw [not_idle_iff.mpr hbusy] at hnot
      exact nomatch hnot
  · rintro ⟨hbusy, hwhole, front, back, rfl, hidle⟩
    have hback : back.filter (fun part => !part.isEmpty && part != here) = [] := by
      refine List.filter_eq_nil_iff.mpr fun idle hmem h => ?_
      exact not_idle_iff.mp h (hidle idle hmem)
    rw [splitOn_join '/' (by simp), List.flatMap_append, List.flatMap_cons,
      splitOn_of_not_mem hwhole, flatMap_splitOn fun idle hmem => (hidle idle hmem).slash_not_mem,
      List.filter_append, List.filter_append, hback, List.filter_singleton,
      not_idle_iff.mpr hbusy]
    simp

end Path

/-! ## The title -/

namespace FileTree

/-- The path can be looked at, whatever it leads to. -/
def Visible (tree : FileTree) (path : Path) : Prop := ∀ fault, tree.directory? path ≠ .error fault

/-- The path leads to a directory. -/
def IsDirectory (tree : FileTree) (path : Path) : Prop :=
  ∃ place, tree.directory? path = .ok (some place)

end FileTree

namespace Settings

variable {tree : FileTree} {first component title : Text} {rest : List (Given Text)}

/-- The extension of a source file. -/
def extension : Text := ".php"

section

variable (hends : Path.EndsIn first component) (hfile : ¬ tree.IsDirectory (Path.ofText first))

include hends hfile

/-- A file gives its name without any stretch that reads like the extension, unless it cannot be
    looked at. -/
theorem defaultTitle_eq_ok_iff :
    defaultTitle tree (.value first :: rest) = .ok title ↔
      tree.Visible (Path.ofText first) ∧ titleOf (eraseAll extension component) = title := by
  have hname : (Path.ofText first).name = component := by
    rw [Path.name, Path.getLast?_parts_iff.mpr hends]
    rfl
  rw [defaultTitle, hname]
  cases hlook : tree.directory? (Path.ofText first) with
  | error fault => exact iff_of_false nofun fun h => h.1 fault hlook
  | ok place =>
      cases place with
      | some place => exact absurd ⟨place, hlook⟩ hfile
      | none =>
          have hvisible : tree.Visible (Path.ofText first) := by
            intro fault h
            exact nomatch hlook.symm.trans h
          rw [and_iff_right hvisible]
          exact ⟨fun h => Except.ok.inj h, congrArg Except.ok⟩

end

theorem titleOf_inj {name name' : Text} : titleOf name = titleOf name' ↔ name = name' :=
  List.append_left_inj _

/-- **A FILE LOSES MORE THAN ITS EXTENSION**: where the path can be looked at, the title is made of
    all pieces of the name between stretches that read like the extension.  So the name loses
    exactly its extension if the rest of it holds no such stretch, and a name with another ending
    is kept exactly if it holds none at all. -/
theorem defaultTitle_of_file (hends : Path.EndsIn first component)
    (hfile : ¬ tree.IsDirectory (Path.ofText first)) (rest : List (Given Text)) :
    (∀ stem, component = stem ++ extension →
      (defaultTitle tree (.value first :: rest) = .ok (titleOf stem) ↔
        tree.Visible (Path.ofText first) ∧ ¬ extension <:+: stem)) ∧
    (defaultTitle tree (.value first :: rest) = .ok (titleOf component) ↔
      tree.Visible (Path.ofText first) ∧ ¬ extension <:+: component) ∧
    (tree.Visible (Path.ofText first) →
      ∃ pieces, component = join extension pieces ∧
        (∀ piece ∈ pieces, ¬ extension <:+: piece) ∧
        defaultTitle tree (.value first :: rest) = .ok (titleOf pieces.flatten)) := by
  have hne : extension ≠ [] := by decide
  refine ⟨?_, ?_, ?_⟩
  · rintro stem rfl
    rw [defaultTitle_eq_ok_iff hends hfile, titleOf_inj,
      eraseAll_append_right hne (by decide), eraseAll_eq_self_iff hne]
  · rw [defaultTitle_eq_ok_iff hends hfile, titleOf_inj, eraseAll_eq_self_iff hne]
  · intro hvisible
    obtain ⟨pieces, hjoin, hfree, herased⟩ := exists_pieces hne component
    refine ⟨pieces, hjoin, hfree, ?_⟩
    rw [defaultTitle_eq_ok_iff hends hfile, herased]
    exact ⟨hvisible, rfl⟩

/-- A source file in a directory, and two files beside it. -/
def widgetTree : FileTree :=
  ⟨.dir [("src", .dir [("Widget.php", .file [])]), ("index.phpunit.php", .file []),
    ("notes.phpt", .file [])], []⟩

/-- A name that holds its extension once loses that and nothing else, through all that is idle in
    its path. -/
theorem defaultTitle_of_file_widget :
    Path.EndsIn "src//./Widget.php/./" ("Widget" ++ extension) ∧
      ¬ widgetTree.IsDirectory (Path.ofText "src//./Widget.php/./") ∧
      defaultTitle widgetTree [.value "src//./Widget.php/./"] = .ok "Widget Documentation" := by
  have hends : Path.EndsIn "src//./Widget.php/./" ("Widget" ++ extension) :=
    ⟨by decide, by decide, ["src", [], "."], [".", []], by decide, by decide⟩
  have hlook : widgetTree.directory? (Path.ofText "src//./Widget.php/./") = .ok none := rfl
  have hfile : ¬ widgetTree.IsDirectory (Path.ofText "src//./Widget.php/./") := by
    rintro ⟨place, h⟩
    exact nomatch hlook.symm.trans h
  have hvisible : widgetTree.Visible (Path.ofText "src//./Widget.php/./") := by
    intro fault h
    exact nomatch hlook.symm.trans h
  obtain ⟨hstem, -⟩ := defaultTitle_of_file hends hfile []
  exact ⟨hends, hfile, (hstem "Widget" rfl).mpr ⟨hvisible, by decide⟩⟩

/-- A name that reads like the extension before its end loses that stretch too, and so does a name
    with another ending. -/
theorem defaultTitle_tattered :
    Path.EndsIn "index.phpunit.php" ("index.phpunit" ++ extension) ∧
      ¬ widgetTree.IsDirectory (Path.ofText "index.phpunit.php") ∧
      defaultTitle widgetTree [.value "index.phpunit.php"] = .ok "indexunit Documentation" ∧
      defaultTitle widgetTree [.value "index.phpunit.php"] ≠ .ok (titleOf "index.phpunit") ∧
      Path.EndsIn "notes.phpt" "notes.phpt" ∧ ¬ extension <:+ "notes.phpt".toList ∧
      ¬ widgetTree.IsDirectory (Path.ofText "notes.phpt") ∧
      defaultTitle widgetTree [.value "notes.phpt"] = .ok "notest Documentation" ∧
      defaultTitle widgetTree [.value "notes.phpt"] ≠ .ok (titleOf "notes.phpt") := by
  have hindex : defaultTitle widgetTree [.value "index.phpunit.php"]
      = .ok "indexunit Documentation" := rfl
  have hnotes : defaultTitle widgetTree [.value "notes.phpt"] = .ok "notest Documentation" := rfl
  refine ⟨⟨by decide, by decide, [], [], by decide, nofun⟩, ?_, hindex, ?_,
    ⟨by decide, by decide, [], [], by decide, nofun⟩, by decide, ?_, hnotes, ?_⟩
  · rintro ⟨place, h⟩
    exact nomatch h
  · rw [hindex]
    exact fun h => absurd (Except.ok.inj h) (by decide)
  · rintro ⟨place, h⟩
    exact nomatch h
  · rw [hnotes]
    exact fun h => absurd (Except.ok.inj h) (by decide)

end Settings

end DocAudit
