import DocAudit.Proofs.Comment.Margin
import DocAudit.Proofs.Comment.Segmentation

/-! # Conservation of text — nothing is lost, doubled or moved

    Call a character VISIBLE if it is neither blank nor a star.  Reading a comment
    drops and inserts blanks and stars only, so the visible characters between the marks
    are, in their order, those of the summary, the description and the tags.

    Every step of the reader gets a lemma `visible_…` that says what it keeps.  The one
    with an argument in it is `visible_withoutMargin`: the margin is cut off BY COUNT, and
    what is cut must be shown to be blank. -/

namespace DocAudit.Comment

open Text

/-- The character is neither blank nor a star. -/
def isVisible (c : Char) : Bool := !isBlank c && c != '*'

/-- The visible characters of a text, in order. -/
def visible (t : Text) : Text := t.filter isVisible

theorem isVisible_of_isBlank (c : Char) (h : isBlank c = true) : isVisible c = false := by
  simp [isVisible, h]

@[simp] theorem visible_append (t u : Text) : visible (t ++ u) = visible t ++ visible u :=
  List.filter_append ..

@[simp] theorem visible_nil : visible [] = [] := rfl

/-- Only visible characters count. -/
theorem visible_eq_nil {t : Text} (h : ∀ c ∈ t, isBlank c = true ∨ c = '*') : visible t = [] := by
  refine List.filter_eq_nil_iff.mpr ?_
  intro c hc
  rcases h c hc with hblank | rfl
  · simp [isVisible, hblank]
  · decide

/-! ## Trimming and joining -/

@[simp] theorem visible_trim (t : Text) : visible (trim t) = visible t :=
  filter_trimBy isVisible_of_isBlank t

@[simp] theorem visible_trimRight (t : Text) : visible (trimRight t) = visible t :=
  filter_rdropWhile isVisible_of_isBlank t

@[simp] theorem visible_trimLeft (t : Text) : visible (trimLeft t) = visible t :=
  filter_dropWhile isVisible_of_isBlank t

@[simp] theorem visible_joinLines (ls : List Text) :
    visible (joinLines ls) = visible ls.flatten :=
  filter_join (by decide) ls

theorem visible_flatten_lines (t : Text) : visible (lines t).flatten = visible t :=
  filter_flatten_lines (fun c hc => isVisible_of_isBlank c (isBlank_of_isLineBreak hc)) t

/-- What keeps the visible characters of every line keeps those of all. -/
theorem visible_flatten_map {f : Text → Text} {ls : List Text}
    (h : ∀ line ∈ ls, visible (f line) = visible line) :
    visible (ls.map f).flatten = visible ls.flatten := by
  induction ls with
  | nil => rfl
  | cons line rest ih =>
      rw [List.map_cons, List.flatten_cons, List.flatten_cons, visible_append, visible_append,
        h line List.mem_cons_self, ih (fun l hl => h l (List.mem_cons_of_mem line hl))]

/-! ## Lines -/

/-- Decoration is invisible. -/
theorem visible_undecorate (line : Text) : visible (undecorate line) = visible line := by
  have hline : visible (trimLeft (trimRight line)) = visible line := by
    rw [visible_trimLeft, visible_trimRight]
  rw [undecorate]
  split
  · rename_i rest heq
    rw [heq] at hline
    exact hline
  · rename_i rest _ heq
    rw [heq] at hline
    exact hline
  · exact visible_trimRight line

/-- What a summary line loses is invisible. -/
theorem visible_headline (line : Text) : visible (headline line) = visible line := by
  have hclass : ∀ c, (c == ' ' || c == '\t' || c == '*') = true → isVisible c = false := by
    intro c hc
    simp only [Bool.or_eq_true, beq_iff_eq] at hc
    rcases hc with (rfl | rfl) | rfl <;> decide
  rw [headline, ← visible_trim line]
  exact filter_trimBy hclass (trim line)

/-- The name and the rest of a tag line hold all that is visible on it. -/
theorem visible_tagLine? {line name first : Text} (h : tagLine? line = some (name, first)) :
    visible line = visible name ++ visible first := by
  obtain ⟨c, run, rest, htrim, -, -, -, rfl, rfl⟩ := tagLine?_eq_some_iff.mp h
  rw [visible_trim, ← visible_append, ← visible_trim line, htrim]
  rfl

/-! ## The margin -/

/-- Taking the margin off keeps all that is visible. -/
theorem visible_withoutMargin (ls : List Text) :
    visible (withoutMargin ls) = visible ls.flatten := by
  rw [withoutMargin, visible_trim, visible_joinLines]
  refine visible_flatten_map ?_
  intro line hline
  have hcut : visible (line.take (margin ls)) = [] :=
    visible_eq_nil (fun c hc => Or.inl (isBlank_of_mem_margin hline hc))
  conv_rhs => rw [← List.take_append_drop (margin ls) line, visible_append, hcut]
  rfl

/-! ## Prose and tags -/

/-- Summary and description hold all that is visible in the prose. -/
theorem visible_splitSummary (ls : List Text) :
    visible ls.flatten
      = visible ((splitSummary ls).1.getD []) ++ visible (splitSummary ls).2.flatten := by
  induction ls with
  | nil => rfl
  | cons line rest ih =>
      rw [List.flatten_cons, visible_append]
      by_cases hline : headline line = []
      · rw [splitSummary_cons_of_nil hline, ← ih, ← visible_headline line, hline]
        rfl
      · rw [splitSummary_cons_of_ne_nil hline, ← visible_headline line]
        rfl

/-- The prose and the tags hold all that is visible in the lines. -/
theorem visible_tagsOf {ls : List Text} (hnamed : AllNamed ls) :
    visible ls.flatten
      = visible (untilTag ls).flatten
        ++ visible ((tagsOf ls).flatMap fun tag => tag.name ++ tag.value) := by
  induction ls with
  | nil => rfl
  | cons line rest ih =>
      have hrest := ih (fun l hl => hnamed l (List.mem_cons_of_mem line hl))
      rw [List.flatten_cons, visible_append, hrest]
      cases hline : isTagLine line with
      | true =>
          obtain ⟨name, first, htag⟩ := hnamed line List.mem_cons_self hline
          -- what was prose in front of the later tags is now the value of this one
          have howned : visible ((untilTag rest).map trim).flatten
              = visible (untilTag rest).flatten :=
            visible_flatten_map (fun l _ => visible_trim l)
          rw [untilTag_cons_of_tag hline, tagsOf_cons_of_some htag, visible_tagLine? htag]
          simp only [List.flatMap_cons, visible_append, visible_trim, visible_joinLines,
            List.flatten_cons, List.flatten_nil, visible_nil, List.nil_append, howned,
            List.append_assoc]
      | false =>
          rw [untilTag_cons_of_not_tag hline, tagsOf_cons_of_none (tagLine?_eq_none hline),
            List.flatten_cons, visible_append, List.append_assoc]

/-- **CONSERVATION**: between the marks of a comment that can be read stand, up to blanks and
    stars, exactly its summary, its description and its tags in this order. -/
theorem parse_conserves_visible {raw : Text} {doc : Comment} (h : parse raw = .ok doc) :
    ∃ text, trim raw = opening ++ text ++ closing ∧
      visible text
        = visible (doc.summary.getD [] ++ doc.description
            ++ doc.tags.flatMap fun tag => tag.name ++ tag.value) := by
  obtain ⟨ls, hbody, hnamed, rfl⟩ := parse_eq_ok_iff.mp h
  obtain ⟨text, htext, rfl, -⟩ := body_eq_ok_iff.mp hbody
  refine ⟨text, htext, ?_⟩
  calc visible text
      = visible ((lines text).map undecorate).flatten := by
        rw [visible_flatten_map (fun line _ => visible_undecorate line), visible_flatten_lines]
    _ = visible (untilTag ((lines text).map undecorate)).flatten
          ++ visible ((tagsOf ((lines text).map undecorate)).flatMap
            fun tag => tag.name ++ tag.value) :=
        visible_tagsOf hnamed
    _ = _ := by
        rw [visible_splitSummary, visible_append, visible_append, ofLines, visible_withoutMargin]

/-- Decoration, an outer star, a margin and a value of two lines all leave the text alone. -/
theorem parse_conserves_visible_mixed :
    parse "/** *Sum* up.\n *\n *  two\n *   one\n * @see x\n *   y */".toList
      = .ok ⟨some "Sum* up.".toList, "two\n one".toList, [⟨"@see".toList, "x\ny".toList⟩]⟩ ∧
    ∃ text, trim "/** *Sum* up.\n *\n *  two\n *   one\n * @see x\n *   y */".toList
        = opening ++ text ++ closing ∧
      visible text = visible ("Sum* up.".toList ++ "two\n one".toList
        ++ [(⟨"@see".toList, "x\ny".toList⟩ : Tag)].flatMap fun tag => tag.name ++ tag.value) := by
  have h : parse "/** *Sum* up.\n *\n *  two\n *   one\n * @see x\n *   y */".toList
      = .ok ⟨some "Sum* up.".toList, "two\n one".toList, [⟨"@see".toList, "x\ny".toList⟩]⟩ := by
    cbv
  exact ⟨h, parse_conserves_visible h⟩

end DocAudit.Comment
