import DocAudit.Text.Lines
import Mathlib.Data.List.Basic

/-! # Lines — cutting and joining

    Two ways to cut a text: at EVERY line break (`lines`), or at one chosen character
    (`splitOn`).  Joining undoes the second always, and the first undoes joining as
    long as no line holds a break and the last one is not empty.  Neither way loses a
    character other than breaks, so a filter that refuses breaks sees none of it. -/

namespace DocAudit.Text

variable {q : Char → Bool}

/-- The text stays on one line. -/
def Unbroken (t : Text) : Prop := ∀ c ∈ t, isLineBreak c = false

instance (t : Text) : Decidable (Unbroken t) :=
  -- given by name: the search for it may try all characters there are
  List.decidableBAll (fun c => isLineBreak c = false) t

/-! ## The first part of a list -/

/-- As many members as pass a test at the front are those that pass it. -/
theorem take_length_takeWhile {α : Type} (p : α → Bool) (l : List α) :
    l.take (l.takeWhile p).length = l.takeWhile p :=
  (List.prefix_iff_eq_take.mp (List.takeWhile_prefix p)).symm

theorem consHead_flatten (c : Char) (parts : List Text) :
    (consHead c parts).flatten = c :: parts.flatten := by
  cases parts with
  | nil => rfl
  | cons t rest => rfl

theorem join_consHead (sep : Text) (c : Char) {parts : List Text} (hne : parts ≠ []) :
    join sep (consHead c parts) = c :: join sep parts := by
  match parts, hne with
  | [t], _ => rfl
  | t :: u :: rest, _ => rfl

/-! ## Joining -/

/-- Joining puts the separator behind the first text if others follow. -/
theorem join_cons_of_ne_nil (sep t : Text) {rest : List Text} (hne : rest ≠ []) :
    join sep (t :: rest) = t ++ sep ++ join sep rest := by
  cases rest with
  | nil => exact absurd rfl hne
  | cons u more => rfl

/-- Two lists are joined with a separator between them. -/
theorem join_append (sep : Text) {front back : List Text} (hf : front ≠ []) (hb : back ≠ []) :
    join sep (front ++ back) = join sep front ++ sep ++ join sep back := by
  induction front with
  | nil => exact absurd rfl hf
  | cons t rest ih =>
      by_cases hr : rest = []
      · subst hr
        exact join_cons_of_ne_nil sep t hb
      · rw [List.cons_append, join_cons_of_ne_nil sep t (by simp [hr]), ih hr,
          join_cons_of_ne_nil sep t hr]
        simp only [List.append_assoc]

/-- What ends the last text ends the joined text. -/
theorem join_concat_append (sep : Text) (front : List Text) (t u : Text) :
    join sep (front ++ [t ++ u]) = join sep (front ++ [t]) ++ u := by
  by_cases hf : front = []
  · subst hf
    rfl
  · rw [join_append sep hf (by simp), join_append sep hf (by simp), join_singleton, join_singleton]
    simp only [List.append_assoc]

/-- A filter that refuses the separator does not see texts joined. -/
theorem filter_join {sep : Text} (hsep : sep.filter q = []) (ts : List Text) :
    (join sep ts).filter q = ts.flatten.filter q := by
  induction ts with
  | nil => rfl
  | cons t rest ih =>
      by_cases hr : rest = []
      · subst hr
        rw [join_singleton, List.flatten_singleton]
      · rw [join_cons_of_ne_nil _ t hr, List.filter_append, List.filter_append, ih, hsep,
          List.flatten_cons, List.filter_append, List.append_nil]

/-! ## Splitting at a character -/

theorem splitOn_ne_nil (sep : Char) (t : Text) : splitOn sep t ≠ [] := by
  cases t with
  | nil => exact List.cons_ne_nil _ _
  | cons c rest =>
      rw [splitOn]
      split
      · exact List.cons_ne_nil _ _
      · cases splitOn sep rest <;> exact List.cons_ne_nil _ _

/-- Joining undoes splitting. -/
theorem join_splitOn (sep : Char) (t : Text) : join [sep] (splitOn sep t) = t := by
  induction t with
  | nil => rfl
  | cons c rest ih =>
      rw [splitOn]
      by_cases hc : c = sep
      · rw [if_pos hc, join_cons_of_ne_nil _ _ (splitOn_ne_nil sep rest), ih, hc]
        rfl
      · rw [if_neg hc, join_consHead _ _ (splitOn_ne_nil sep rest), ih]

/-- Every part stands in the text as it is. -/
theorem infix_of_mem_splitOn {sep : Char} {t part : Text} (h : part ∈ splitOn sep t) :
    part <:+: t := by
  obtain ⟨front, back, hparts⟩ := List.append_of_mem h
  have ht := join_splitOn sep t
  rw [hparts] at ht
  -- the separators beside the part are there only if another part stands beyond them
  by_cases hf : front = []
  · subst hf
    by_cases hb : back = []
    · subst hb
      exact ⟨[], [], by simpa using ht⟩
    · rw [List.nil_append, join_cons_of_ne_nil _ _ hb] at ht
      exact ⟨[], [sep] ++ join [sep] back, by simpa using ht⟩
  · rw [join_append _ hf (List.cons_ne_nil _ _)] at ht
    by_cases hb : back = []
    · subst hb
      exact ⟨join [sep] front ++ [sep], [], by simpa using ht⟩
    · rw [join_cons_of_ne_nil _ _ hb] at ht
      exact ⟨join [sep] front ++ [sep], [sep] ++ join [sep] back, by simpa using ht⟩

/-- No part holds the separator. -/
theorem not_mem_of_mem_splitOn {sep : Char} {t part : Text} (h : part ∈ splitOn sep t) :
    sep ∉ part := by
  induction t generalizing part with
  | nil =>
      rw [List.mem_singleton.mp h]
      exact List.not_mem_nil
  | cons c rest ih =>
      rw [splitOn] at h
      by_cases hc : c = sep
      · rw [if_pos hc] at h
        rcases List.mem_cons.mp h with rfl | hmem
        · exact List.not_mem_nil
        · exact ih hmem
      · rw [if_neg hc] at h
        cases hs : splitOn sep rest with
        | nil => exact absurd hs (splitOn_ne_nil sep rest)
        | cons first more =>
            rw [hs, consHead] at h
            rcases List.mem_cons.mp h with rfl | hmem
            · have hfirst : sep ∉ first := ih (by simp [hs])
              simp [Ne.symm hc, hfirst]
            · exact ih (by simp [hs, hmem])

/-! ## Searching -/

/-- Searching finds exactly the stretches of the text. -/
theorem occurs_iff {pat t : Text} : occurs pat t = true ↔ pat <:+: t := by
  induction t with
  | nil => simp [occurs, List.isEmpty_iff]
  | cons c rest ih =>
      rw [occurs, Bool.or_eq_true, List.isPrefixOf_iff_prefix, ih, List.infix_cons_iff]

/-- A stretch at the end of a text stands behind every character that it does not hold. -/
theorem suffix_of_suffix_append_cons {w s r : Text} {b : Char} (hb : b ∉ w)
    (h : w <:+ s ++ b :: r) : w <:+ r := by
  rcases List.suffix_or_suffix_of_suffix h (List.suffix_append s (b :: r)) with hw | hlonger
  · rcases List.suffix_cons_iff.mp hw with rfl | hw
    · exact absurd List.mem_cons_self hb
    · exact hw
  · exact absurd (hlonger.subset List.mem_cons_self) hb

/-- A stretch does not reach over a character that it does not hold. -/
theorem infix_append_cons_iff {w s r : Text} {b : Char} (hb : b ∉ w) :
    w <:+: s ++ b :: r ↔ w <:+: s ∨ w <:+: r := by
  constructor
  · rintro ⟨front, back, h⟩
    rcases List.append_eq_append_iff.mp h with ⟨more, hs, -⟩ | ⟨more, hw, hr⟩
    · exact Or.inl ⟨front, more, hs.symm⟩
    · cases more with
      | nil =>
          rw [List.append_nil] at hw
          exact Or.inl (hw ▸ List.suffix_append front w).isInfix
      | cons c more =>
          obtain ⟨rfl, rfl⟩ := List.cons.inj hr
          have hend : w <:+ s ++ b :: more := hw ▸ List.suffix_append front w
          have hmore := suffix_of_suffix_append_cons hb hend
          exact Or.inr (hmore.isInfix.trans (List.prefix_append more back).isInfix)
  · rintro (h | h)
    · exact h.trans (List.prefix_append s (b :: r)).isInfix
    · exact h.trans ((List.suffix_cons b r).trans (List.suffix_append s (b :: r))).isInfix

/-- Texts that begin with different characters do not begin each other. -/
theorem isPrefixOf_of_head {s t : Text} {c : Char} (hs : s.head? = some c)
    (ht : t.head? ≠ some c) : s.isPrefixOf t = false := by
  obtain ⟨more, rfl⟩ := List.head?_eq_some_iff.mp hs
  cases t with
  | nil => rfl
  | cons d rest =>
      have hd : c ≠ d := fun hd => ht (congrArg some hd.symm)
      simp [List.isPrefixOf, hd]

/-! ## Cutting at every break -/

/-- What follows a break starts a new line; a carriage return takes a line feed with it. -/
theorem lines_cons_of_isLineBreak {c : Char} (hc : isLineBreak c = true) (hcr : c ≠ '\r')
    (rest : Text) : lines (c :: rest) = [] :: lines rest := by
  rw [lines, if_pos hc]
  rintro more rfl
  exact absurd rfl hcr

/-- A character that is no break begins the first line. -/
theorem lines_cons_of_not_isLineBreak {c : Char} (hc : isLineBreak c = false) (rest : Text) :
    lines (c :: rest) = consHead c (lines rest) := by
  rw [lines, if_neg (by simp [hc])]
  rintro more rfl
  exact nomatch hc

/-- A line feed ends a line that holds no break. -/
theorem lines_append_feed {line : Text} (hline : Unbroken line) (rest : Text) :
    lines (line ++ '\n' :: rest) = line :: lines rest := by
  induction line with
  | nil => exact lines_cons_of_isLineBreak (by decide) (by decide) rest
  | cons c more ih =>
      have hc : isLineBreak c = false := hline c List.mem_cons_self
      have hmore : Unbroken more := fun d hd => hline d (List.mem_cons_of_mem c hd)
      rw [List.cons_append, lines_cons_of_not_isLineBreak hc, ih hmore]
      rfl

/-- A text without breaks is one line, or none if it is empty. -/
theorem lines_of_unbroken {line : Text} (hline : Unbroken line) (hne : line ≠ []) :
    lines line = [line] := by
  induction line with
  | nil => exact absurd rfl hne
  | cons c more ih =>
      have hc : isLineBreak c = false := hline c List.mem_cons_self
      have hmore : Unbroken more := fun d hd => hline d (List.mem_cons_of_mem c hd)
      rw [lines_cons_of_not_isLineBreak hc]
      by_cases hm : more = []
      · subst hm
        rfl
      · rw [ih hmore hm]
        rfl

/-- Cutting undoes joining, as long as the last line is there to be seen. -/
theorem lines_join_feed {front : List Text} {last : Text} (hfront : ∀ l ∈ front, Unbroken l)
    (hlast : Unbroken last) (hne : last ≠ []) :
    lines (join ['\n'] (front ++ [last])) = front ++ [last] := by
  induction front with
  | nil => exact lines_of_unbroken hlast hne
  | cons l rest ih =>
      have hl : Unbroken l := hfront l List.mem_cons_self
      have hrest : ∀ l ∈ rest, Unbroken l := fun u hu => hfront u (List.mem_cons_of_mem l hu)
      rw [List.cons_append, join_cons_of_ne_nil _ l (by simp), List.append_assoc,
        List.singleton_append, lines_append_feed hl, ih hrest]

/-- No line holds a break. -/
theorem unbroken_of_mem_lines {t line : Text} (h : line ∈ lines t) : Unbroken line := by
  have hempty : Unbroken [] := fun c hc => nomatch hc
  fun_induction lines t generalizing line with
  | case1 => exact nomatch h
  | case2 rest ih =>
      rcases List.mem_cons.mp h with rfl | hmem
      · exact hempty
      · exact ih hmem
  | case3 c rest _ _ ih =>
      rcases List.mem_cons.mp h with rfl | hmem
      · exact hempty
      · exact ih hmem
  | case4 c rest _ hc ih =>
      -- the character joins the first line, or is one by itself
      have hc' : isLineBreak c = false := by simpa using hc
      have hfirst : ∀ first, Unbroken first → Unbroken (c :: first) :=
        fun first hfirst => List.forall_mem_cons.mpr ⟨hc', hfirst⟩
      cases hlines : lines rest with
      | nil =>
          rw [hlines, consHead] at h
          rw [List.mem_singleton.mp h]
          exact hfirst [] hempty
      | cons first more =>
          rw [hlines, consHead] at h
          rcases List.mem_cons.mp h with rfl | hmem
          · exact hfirst first (ih (by simp [hlines]))
          · exact ih (by simp [hlines, hmem])

/-- The first line stands at the front of the text. -/
theorem prefix_of_lines_eq_cons {t first : Text} {more : List Text} (h : lines t = first :: more) :
    first <+: t := by
  fun_induction lines t generalizing first more with
  | case1 => exact nomatch h
  | case2 rest _ =>
      obtain ⟨rfl, -⟩ := List.cons.inj h
      exact List.nil_prefix
  | case3 c rest _ _ _ =>
      obtain ⟨rfl, -⟩ := List.cons.inj h
      exact List.nil_prefix
  | case4 c rest _ _ ih =>
      cases hlines : lines rest with
      | nil =>
          rw [hlines] at h
          obtain ⟨rfl, -⟩ := List.cons.inj h
          exact List.prefix_append [c] rest
      | cons next others =>
          rw [hlines] at h
          obtain ⟨rfl, -⟩ := List.cons.inj h
          exact List.cons_prefix_cons.mpr ⟨rfl, ih hlines⟩

/-- Every line stands in the text as it is. -/
theorem infix_of_mem_lines {t line : Text} (h : line ∈ lines t) : line <:+: t := by
  fun_induction lines t with
  | case1 => exact nomatch h
  | case2 rest ih =>
      rcases List.mem_cons.mp h with rfl | hmem
      · exact List.nil_infix
      · exact (ih hmem).trans (List.suffix_append ['\r', '\n'] rest).isInfix
  | case3 c rest _ _ ih =>
      rcases List.mem_cons.mp h with rfl | hmem
      · exact List.nil_infix
      · exact (ih hmem).trans (List.suffix_cons c rest).isInfix
  | case4 c rest _ _ ih =>
      cases hlines : lines rest with
      | nil =>
          rw [hlines, consHead, List.mem_singleton] at h
          exact h ▸ (List.prefix_append [c] rest).isInfix
      | cons first more =>
          rw [hlines, consHead] at h
          rcases List.mem_cons.mp h with rfl | hmem
          · exact (List.cons_prefix_cons.mpr ⟨rfl, prefix_of_lines_eq_cons hlines⟩).isInfix
          · have hline : line <:+: rest := ih (by simp [hlines, hmem])
            exact hline.trans (List.suffix_cons c rest).isInfix

/-- What holds no break and stands in front belongs to the first line. -/
theorem lines_append_of_unbroken {front t first : Text} {more : List Text} (hfront : Unbroken front)
    (h : lines t = first :: more) : lines (front ++ t) = (front ++ first) :: more := by
  induction front with
  | nil => exact h
  | cons c front ih =>
      obtain ⟨hc, hrest⟩ := List.forall_mem_cons.mp hfront
      rw [List.cons_append, lines_cons_of_not_isLineBreak hc, ih hrest]
      rfl

/-- What holds no break and stands behind makes the last line longer or is a line of its own, so
    all lines are begun as before. -/
theorem exists_line_of_append {t back line : Text} (hback : Unbroken back) {i : Nat}
    (h : (lines t)[i]? = some line) :
    ∃ longer, (lines (t ++ back))[i]? = some longer ∧ line <+: longer := by
  fun_induction lines t generalizing i line with
  | case1 => exact nomatch h
  | case2 rest ih =>
      show ∃ longer, ([] :: lines (rest ++ back))[i]? = some longer ∧ line <+: longer
      cases i with
      | zero => exact ⟨[], rfl, Option.some.inj h ▸ List.prefix_rfl⟩
      | succ i => exact ih h
  | case3 c rest hpair hc ih =>
      -- a carriage return is not joined by a line feed from behind
      have hlines : lines (c :: rest ++ back) = [] :: lines (rest ++ back) := by
        rw [List.cons_append, lines, if_pos hc]
        intro more hcr hfeed
        cases rest with
        | nil =>
            rw [List.nil_append] at hfeed
            exact absurd (hback '\n' (hfeed ▸ List.mem_cons_self)) (by decide)
        | cons d others =>
            obtain ⟨rfl, -⟩ := List.cons.inj hfeed
            exact hpair others hcr rfl
      rw [hlines]
      cases i with
      | zero => exact ⟨[], rfl, Option.some.inj h ▸ List.prefix_rfl⟩
      | succ i => exact ih h
  | case4 c rest _ hc ih =>
      rw [List.cons_append, lines_cons_of_not_isLineBreak (by simpa using hc)]
      cases hrest : lines rest with
      | nil =>
          rw [hrest] at h
          cases i with
          | succ i => exact nomatch h
          | zero =>
              obtain rfl : [c] = line := Option.some.inj h
              cases lines (rest ++ back) with
              | nil => exact ⟨[c], rfl, List.prefix_rfl⟩
              | cons first more => exact ⟨c :: first, rfl, List.prefix_append [c] first⟩
      | cons first more =>
          rw [hrest] at h ih
          obtain ⟨longer, hlonger, hfirst⟩ := ih (i := 0) rfl
          cases hlines : lines (rest ++ back) with
          | nil =>
              rw [hlines] at hlonger
              exact nomatch hlonger
          | cons next others =>
              rw [hlines] at hlonger ih
              cases i with
              | zero =>
                  obtain rfl : c :: first = line := Option.some.inj h
                  obtain rfl : next = longer := Option.some.inj hlonger
                  exact ⟨c :: next, rfl, List.cons_prefix_cons.mpr ⟨rfl, hfirst⟩⟩
              | succ i => exact ih (i := i + 1) h

/-- Between texts without breaks every line is still a piece of the line in its place. -/
theorem exists_line_between {front t back line : Text} (hfront : Unbroken front)
    (hback : Unbroken back) {i : Nat} (h : (lines t)[i]? = some line) :
    ∃ longer, (lines (front ++ t ++ back))[i]? = some longer ∧ line <:+: longer := by
  obtain ⟨longer, hlonger, hline⟩ := exists_line_of_append hback h
  cases hlines : lines (t ++ back) with
  | nil =>
      rw [hlines] at hlonger
      exact nomatch hlonger
  | cons first more =>
      rw [List.append_assoc, lines_append_of_unbroken hfront hlines]
      rw [hlines] at hlonger
      cases i with
      | zero =>
          obtain rfl : first = longer := Option.some.inj hlonger
          exact ⟨front ++ first, rfl, hline.isInfix.trans (List.suffix_append front first).isInfix⟩
      | succ i => exact ⟨longer, hlonger, hline.isInfix⟩

/-- A filter that refuses breaks does not see a text cut into lines. -/
theorem filter_flatten_lines (hq : ∀ c, isLineBreak c = true → q c = false) (t : Text) :
    (lines t).flatten.filter q = t.filter q := by
  fun_induction lines t with
  | case1 => rfl
  | case2 rest ih =>
      rw [List.flatten_cons, List.nil_append, ih,
        List.filter_cons_of_neg (by simp [hq '\r' (by decide)]),
        List.filter_cons_of_neg (by simp [hq '\n' (by decide)])]
  | case3 c rest _ hc ih =>
      rw [List.flatten_cons, List.nil_append, ih,
        List.filter_cons_of_neg (by simp [hq c hc])]
  | case4 c rest _ hc ih =>
      rw [consHead_flatten, List.filter_cons, List.filter_cons, ih]

end DocAudit.Text
