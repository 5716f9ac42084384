import DocAudit.Proofs.Comment.Readable

/-! # Early closing marks — which of them are noticed

    A closing mark inside a comment would end it before its end.  No mark reaches over a line
    break, so such a mark stands on one of the lines.  The reader looks for it on lines that
    have lost their decoration, and the star of a mark that is the FIRST VISIBLE thing on its line
    is taken for decoration: what is left of the mark is a slash.

    So a comment is refused as closed early exactly if some closing mark has something visible
    before it on its line (`closing_infix_undecorate_iff`), and a mark that leads its line
    goes unnoticed. -/

namespace DocAudit.Comment

open Text

/-! ## Marks and lines -/

/-- A mark is looked for behind a character that does not begin it. -/
theorem closing_infix_of_cons {c : Char} {rest : Text} (hc : c ≠ '*')
    (h : closing <:+: c :: rest) : closing <:+: rest := by
  rcases List.infix_cons_iff.mp h with hstart | hlater
  · obtain ⟨more, hmore⟩ := hstart
    exact absurd (List.cons.inj hmore).1.symm hc
  · exact hlater

/-- A closing mark in a text stands on one of its lines. -/
theorem exists_line_of_closing {t : Text} (h : closing <:+: t) :
    ∃ line ∈ lines t, closing <:+: line := by
  fun_induction lines t with
  | case1 => exact absurd h (by decide)
  | case2 rest ih =>
      have hlater := closing_infix_of_cons (by decide) (closing_infix_of_cons (by decide) h)
      obtain ⟨line, hline, hmark⟩ := ih hlater
      exact ⟨line, List.mem_cons_of_mem _ hline, hmark⟩
  | case3 c rest _ hc ih =>
      have hstar : c ≠ '*' := by
        rintro rfl
        exact absurd hc (by decide)
      obtain ⟨line, hline, hmark⟩ := ih (closing_infix_of_cons hstar h)
      exact ⟨line, List.mem_cons_of_mem _ hline, hmark⟩
  | case4 c rest _ _ ih =>
      rcases List.infix_cons_iff.mp h with hstart | hlater
      · -- the slash is no break, so it opens the first line of the rest
        obtain ⟨more, hmore⟩ := hstart
        obtain ⟨rfl, rfl⟩ := List.cons.inj hmore
        show ∃ line ∈ consHead '*' (lines ('/' :: more)), closing <:+: line
        rw [lines_cons_of_not_isLineBreak (by decide)]
        cases lines more with
        | nil => exact ⟨closing, List.mem_cons_self, List.infix_rfl⟩
        | cons first others => exact ⟨closing ++ first, List.mem_cons_self, ⟨[], first, rfl⟩⟩
      · obtain ⟨line, hline, hmark⟩ := ih hlater
        cases hlines : lines rest with
        | nil =>
            rw [hlines] at hline
            cases hline
        | cons first others =>
            rw [hlines] at hline
            rcases List.mem_cons.mp hline with rfl | hother
            · exact ⟨c :: line, List.mem_cons_self, hmark.trans (List.suffix_cons c line).isInfix⟩
            · exact ⟨line, List.mem_cons_of_mem _ hother, hmark⟩

theorem closing_infix_iff_exists_line {t : Text} :
    closing <:+: t ↔ ∃ line ∈ lines t, closing <:+: line := by
  constructor
  · exact exists_line_of_closing
  · rintro ⟨line, hline, hmark⟩
    exact hmark.trans (infix_of_mem_lines hline)

/-! ## Marks and decoration -/

/-- A closing mark stands on the line with something visible before it. -/
def ClosedWithin (line : Text) : Prop :=
  ∃ before after, line = before ++ closing ++ after ∧ ∃ c ∈ before, isBlank c = false

/-- A mark behind a star is closed within, because the star is visible. -/
theorem closedWithin_of_star {line more : Text} (hstar : '*' :: more <:+: line)
    (h : closing <:+: more) : ClosedWithin line := by
  obtain ⟨front, back, rfl⟩ := hstar
  obtain ⟨before, after, rfl⟩ := h
  refine ⟨front ++ '*' :: before, after ++ back, by simp, '*', by simp, by decide⟩

/-- A mark that is there when the decoration is gone has something visible before it. -/
theorem closedWithin_of_undecorate {line : Text} (h : closing <:+: undecorate line) :
    ClosedWithin line := by
  have hkept : trimRight line <+: line := List.rdropWhile_prefix isBlank line
  have hleft : trimLeft (trimRight line) <:+: line :=
    (List.dropWhile_suffix isBlank).isInfix.trans hkept.isInfix
  rw [undecorate] at h
  split at h
  · rename_i rest heq
    rw [heq] at hleft
    exact closedWithin_of_star hleft (h.trans (List.suffix_cons ' ' rest).isInfix)
  · rename_i rest _ heq
    rw [heq] at hleft
    exact closedWithin_of_star hleft h
  · rename_i hspaced hstarred
    obtain ⟨before, after, hmark⟩ := h
    obtain ⟨back, hback⟩ := hkept
    refine ⟨before, after ++ back, by rw [← hback, ← hmark]; simp, ?_⟩
    -- with blanks only before it, the mark's own star would be decoration
    by_contra hblank
    have hbefore : ∀ c ∈ before, isBlank c = true := by
      intro c hc
      by_contra hvisible
      exact hblank ⟨c, hc, by simpa using hvisible⟩
    refine hstarred ('/' :: after) ?_
    rw [← hmark, trimLeft, List.append_assoc, List.dropWhile_append_of_pos hbefore]
    rfl

/-- A mark with something visible before it is still there when the decoration is gone. -/
theorem closing_infix_undecorate {line : Text} (h : ClosedWithin line) :
    closing <:+: undecorate line := by
  obtain ⟨before, after, rfl, c, hc, hvisible⟩ := h
  have hright : trimRight (before ++ closing ++ after) = before ++ closing ++ trimRight after := by
    refine trimRight_append_of_visible (trimRight_eq_self_iff.mpr ?_) after
    intro d hd
    rw [List.getLast?_append_of_ne_nil _ (by decide)] at hd
    obtain rfl : '/' = d := Option.some.inj hd
    decide
  obtain ⟨d, more, hmore⟩ : ∃ d more, trimLeft before = d :: more := by
    refine List.exists_cons_of_ne_nil ?_
    intro hnil
    have := List.dropWhile_eq_nil_iff.mp hnil c hc
    rw [hvisible] at this
    exact nomatch this
  have hleft : trimLeft (trimRight (before ++ closing ++ after))
      = d :: (more ++ (closing ++ trimRight after)) := by
    rw [hright, trimLeft, List.append_assoc, List.dropWhile_append]
    rw [trimLeft] at hmore
    rw [hmore]
    rfl
  rw [undecorate]
  split
  · rename_i rest heq
    rw [hleft] at heq
    obtain ⟨-, hrest⟩ := List.cons.inj heq
    -- the space that goes with the star is not the mark's
    cases more with
    | nil => exact absurd (List.cons.inj hrest).1 (by decide)
    | cons e more =>
        obtain ⟨-, rfl⟩ := List.cons.inj hrest
        exact ⟨more, trimRight after, by simp⟩
  · rename_i rest _ heq
    rw [hleft] at heq
    obtain ⟨-, rfl⟩ := List.cons.inj heq
    exact ⟨more, trimRight after, by simp⟩
  · exact ⟨before, trimRight after, hright.symm⟩

/-- **A MARK SURVIVES** the removal of decoration exactly if something visible stands before
    it. -/
theorem closing_infix_undecorate_iff {line : Text} :
    closing <:+: undecorate line ↔ ClosedWithin line :=
  ⟨closedWithin_of_undecorate, closing_infix_undecorate⟩

/-! ## Comments that are closed early -/

/-- A bad tag is reported as such. -/
theorem badTag?_ne_closedEarly (number line : Nat) (ls : List Text) :
    badTag? number ls ≠ some (.closedEarly line) := by
  induction ls generalizing number with
  | nil => rintro ⟨⟩
  | cons first rest ih =>
      rw [badTag?]
      split
      · rintro ⟨⟩
      · exact ih (number + 1)

/-- A comment that is marked at both ends is refused as closed early for a mark that its
    undecorated lines hold. -/
theorem parse_eq_closedEarly_iff {raw text : Text} (h : trim raw = opening ++ text ++ closing)
    {number : Nat} :
    parse raw = .error (.closedEarly number) ↔
      closedEarly? 1 ((lines text).map undecorate) = some number := by
  rw [parse, body, interior_eq_ok_iff.mpr h]
  cases hclosed : closedEarly? 1 ((lines text).map undecorate) with
  | some line => simp [hclosed]
  | none =>
      cases hopen : inlineOpen? 1 (joinLines ((lines text).map undecorate)) with
      | some line => simp [hclosed, hopen]
      | none =>
          have hbad := badTag?_ne_closedEarly 1 number ((lines text).map undecorate)
          cases htag : badTag? 1 ((lines text).map undecorate) with
          | none => simp [hclosed, hopen, htag]
          | some fault =>
              rw [htag] at hbad
              simpa [hclosed, hopen, htag] using fun hfault => hbad (congrArg some hfault)

/-- **CLOSED EARLY**: between its marks a comment holds a closing mark exactly if one of its lines
    does, and it is refused for that exactly if something visible stands before a closing mark
    on its line. -/
theorem parse_closedEarly_iff {raw text : Text} (h : trim raw = opening ++ text ++ closing) :
    (closing <:+: text ↔ ∃ line ∈ lines text, closing <:+: line) ∧
      ((∃ number, parse raw = .error (.closedEarly number)) ↔
        ∃ line ∈ lines text, ClosedWithin line) := by
  refine ⟨closing_infix_iff_exists_line, ?_⟩
  calc (∃ number, parse raw = .error (.closedEarly number))
      ↔ closedEarly? 1 ((lines text).map undecorate) ≠ none := by
        simp only [parse_eq_closedEarly_iff h, Option.ne_none_iff_exists']
    _ ↔ ∃ line ∈ lines text, closing <:+: undecorate line := by
        rw [Ne, closedEarly?_eq_none_iff]
        simp
    _ ↔ ∃ line ∈ lines text, ClosedWithin line := by
        simp only [closing_infix_undecorate_iff]

/-- A mark behind a word is noticed. -/
theorem parse_closedEarly_iff_midway :
    trim "/**\n * One. */ Two.\n */".toList
        = opening ++ "\n * One. */ Two.\n ".toList ++ closing ∧
      ∃ number, parse "/**\n * One. */ Two.\n */".toList = .error (.closedEarly number) := by
  have h : trim "/**\n * One. */ Two.\n */".toList
      = opening ++ "\n * One. */ Two.\n ".toList ++ closing := by cbv
  have hwithin : ClosedWithin " * One. */ Two.".toList :=
    ⟨" * One. ".toList, " Two.".toList, by cbv, '*', by decide, by decide⟩
  exact ⟨h, (parse_closedEarly_iff h).2.mpr ⟨_, by decide, hwithin⟩⟩

/-- Two comments glued together are read as one: the mark that ends the first leads its line. -/
theorem parse_glued :
    trim "/**\n * One.\n */\n/** Two. */".toList
        = opening ++ "\n * One.\n */\n/** Two. ".toList ++ closing ∧
      closing <:+: "\n * One.\n */\n/** Two. ".toList ∧
      parse "/**\n * One.\n */\n/** Two. */".toList
        = .ok ⟨some "One.".toList, "/\n/** Two.".toList, []⟩ := by
  refine ⟨by cbv, ?_, by cbv⟩
  exact ⟨"\n * One.\n ".toList, "\n/** Two. ".toList, by cbv⟩

end DocAudit.Comment
