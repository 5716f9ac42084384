import DocAudit.Proofs.Comment.Shape

/-! # Indentation — what a description keeps of it

    A description is to be read as it was laid out: all its lines lose the SAME margin, so that
    a line which stood further in still does, and blank lines at either end are dropped.

    The reader does so for every line BUT THE FIRST.  It trims the joined text as a whole, and
    with the blank lines in front goes whatever indentation the first line has beyond the
    margin (`withoutMargin_eq`).  So the layout is kept exactly if the first line is one of those
    that are indented least. -/

namespace DocAudit.Comment

open Text

/-- The lines between the one with the summary and the first tag line; none without a summary. -/
inductive DescriptionLines (ls : List Text) : List Text → Prop where
  | silent (h : ∀ line ∈ untilTag ls, headline line = []) : DescriptionLines ls []
  | spoken {before : List Text} {line : Text} {after : List Text}
      (hls : untilTag ls = before ++ line :: after)
      (hbefore : ∀ line ∈ before, headline line = []) (hline : headline line ≠ []) :
      DescriptionLines ls after

/-- The lines as they are to be read: without the blank ones at either end, and without the margin
    where they are not blank. -/
def dedented (ls : List Text) : List Text :=
  (trimLines ls).map fun line => if isBlankLine line then line else line.drop (margin ls)

/-- The first line that is not blank is indented least. -/
def FirstAtMargin (ls : List Text) : Prop :=
  ∀ first, (trimLines ls).head? = some first → indentation first = margin ls

/-- Between any two lines that are not blank the difference of indentation is what it was. -/
def KeepsSteps (source shown : List Text) : Prop :=
  ∀ p ∈ source.zip shown, ∀ q ∈ source.zip shown,
    isBlankLine p.1 = false → isBlankLine q.1 = false →
    (indentation p.2 : ℤ) - indentation q.2 = indentation p.1 - indentation q.1

/-! ## Blank lines at either end -/

theorem trim_ne_nil_iff {line : Text} : trim line ≠ [] ↔ isBlankLine line = false := by
  rw [isBlankLine, ← Bool.not_eq_true, List.isEmpty_iff]

/-- A line that is not blank is not dropped. -/
theorem mem_trimLines {ls : List Text} {line : Text} (hmem : line ∈ ls)
    (hline : isBlankLine line = false) : line ∈ trimLines ls := by
  have hfront : line ∈ ls.dropWhile isBlankLine := by
    rw [← List.takeWhile_append_dropWhile (p := isBlankLine) (l := ls)] at hmem
    rcases List.mem_append.mp hmem with hgone | hkept
    · exact absurd (List.mem_takeWhile_imp hgone) (by simp [hline])
    · exact hkept
  rw [← List.rdropWhile_append_rtakeWhile (p := isBlankLine) (l := ls.dropWhile isBlankLine)]
    at hfront
  rcases List.mem_append.mp hfront with hkept | hgone
  · exact hkept
  · exact absurd (List.mem_rtakeWhile_imp hgone) (by simp [hline])

/-- Of the lines that are left the first is not blank. -/
theorem not_blank_of_trimLines {ls : List Text} {first : Text} {rest : List Text}
    (h : trimLines ls = first :: rest) : isBlankLine first = false := by
  obtain ⟨back, hback⟩ := List.rdropWhile_prefix isBlankLine (ls.dropWhile isBlankLine)
  have hlines : ls.dropWhile isBlankLine = first :: (rest ++ back) := by
    rw [← hback, ← List.cons_append, ← h]
    rfl
  have hhead := List.head?_dropWhile_not isBlankLine ls
  rw [hlines] at hhead
  exact hhead

/-- What keeps blank lines blank and the others not does not change how many go in front. -/
theorem dropWhile_map_isBlankLine {f : Text → Text} {ls : List Text}
    (h : ∀ line ∈ ls, isBlankLine (f line) = isBlankLine line) :
    (ls.map f).dropWhile isBlankLine = (ls.dropWhile isBlankLine).map f := by
  induction ls with
  | nil => rfl
  | cons line rest ih =>
      obtain ⟨hline, hrest⟩ := List.forall_mem_cons.mp h
      rw [List.map_cons, List.dropWhile_cons, List.dropWhile_cons, hline]
      split
      · exact ih hrest
      · rfl

/-- So the blank lines at either end can go before or after. -/
theorem trimLines_map {f : Text → Text} {ls : List Text}
    (h : ∀ line ∈ ls, isBlankLine (f line) = isBlankLine line) :
    trimLines (ls.map f) = (trimLines ls).map f := by
  have hback : ∀ line ∈ (ls.dropWhile isBlankLine).reverse,
      isBlankLine (f line) = isBlankLine line := by
    intro line hline
    exact h line ((List.dropWhile_suffix _).subset (List.mem_reverse.mp hline))
  rw [trimLines, dropWhile_map_isBlankLine h, List.rdropWhile, ← List.map_reverse,
    dropWhile_map_isBlankLine hback, ← List.map_reverse]
  rfl

/-! ## Margin and indentation -/

/-- A line that loses no more than blanks is indented by as much less. -/
theorem indentation_drop {line : Text} {width : Nat} (h : width ≤ indentation line) :
    indentation (line.drop width) + width = indentation line := by
  induction width generalizing line with
  | zero => rfl
  | succ width ih =>
      cases line with
      | nil => exact absurd h (Nat.not_succ_le_zero width)
      | cons c rest =>
          by_cases hc : isBlank c = true
          · have hstep : indentation (c :: rest) = indentation rest + 1 := by
              rw [indentation, List.takeWhile_cons_of_pos hc]
              rfl
            rw [hstep] at h ⊢
            have hrest := ih (Nat.le_of_succ_le_succ h)
            show indentation (rest.drop width) + (width + 1) = indentation rest + 1
            omega
          · rw [indentation, List.takeWhile_cons_of_neg hc] at h
            exact absurd h (Nat.not_succ_le_zero width)

/-- A line without indentation loses nothing in front. -/
theorem trimLeft_eq_self_iff {line : Text} : trimLeft line = line ↔ indentation line = 0 := by
  have hcut : line.takeWhile isBlank ++ trimLeft line = line := List.takeWhile_append_dropWhile
  rw [indentation, List.length_eq_zero_iff]
  constructor
  · intro h
    rw [h] at hcut
    exact List.append_left_eq_self.mp hcut
  · intro h
    rw [h] at hcut
    exact hcut

theorem indentation_trimLeft (line : Text) : indentation (trimLeft line) = 0 :=
  trimLeft_eq_self_iff.mp (List.dropWhile_idempotent isBlank line)

/-- Some line that is not blank stands at the margin, if there is any that is not blank. -/
theorem exists_at_margin {ls : List Text} {line : Text} (hmem : line ∈ ls)
    (hline : isBlankLine line = false) :
    ∃ least ∈ ls, isBlankLine least = false ∧ indentation least = margin ls := by
  have hin : line ∈ ls.filter fun line => !(trim line).isEmpty :=
    List.mem_filter.mpr ⟨hmem, by simpa [isBlankLine] using hline⟩
  cases hmin : ((ls.filter fun line => !(trim line).isEmpty).map indentation).min? with
  | none =>
      rw [List.map_eq_nil_iff.mp (List.min?_eq_none_iff.mp hmin)] at hin
      exact absurd hin List.not_mem_nil
  | some width =>
      obtain ⟨least, hleast, hwidth⟩ := List.mem_map.mp (List.min?_mem hmin)
      obtain ⟨hls, hshown⟩ := List.mem_filter.mp hleast
      refine ⟨least, hls, by simpa [isBlankLine] using hshown, ?_⟩
      rw [hwidth, margin, hmin]
      rfl

/-- Without the margin a line is indented by as much less. -/
theorem indentation_drop_margin {ls : List Text} {line : Text} (hmem : line ∈ ls)
    (hline : isBlankLine line = false) :
    indentation (line.drop (margin ls)) + margin ls = indentation line :=
  indentation_drop (margin_le_indentation hmem (trim_ne_nil_iff.mpr hline))

/-- The first line is read with the indentation that it is to have exactly if it has none beyond
    the margin. -/
theorem firstAtMargin_iff {ls : List Text} {first : Text} {rest : List Text}
    (h : trimLines ls = first :: rest) :
    FirstAtMargin ls ↔ trimLeft (first.drop (margin ls)) = first.drop (margin ls) := by
  have hfirst : first ∈ ls := (infix_trimLines ls).subset (h ▸ List.mem_cons_self)
  have hdrop := indentation_drop_margin hfirst (not_blank_of_trimLines h)
  rw [trimLeft_eq_self_iff]
  constructor
  · intro hat
    have hsame := hat first (by rw [h]; rfl)
    omega
  · intro hzero first' hfirst'
    rw [h] at hfirst'
    obtain rfl : first = first' := Option.some.inj hfirst'
    omega

/-- Lines that all lose the margin keep their steps. -/
theorem keepsSteps_drop_margin {ls part : List Text} (hpart : part ⊆ ls) :
    KeepsSteps part (part.map (·.drop (margin ls))) := by
  rw [KeepsSteps, ← List.map_prod_left_eq_zip]
  intro p hp q hq hpshown hqshown
  obtain ⟨line, hline, rfl⟩ := List.mem_map.mp hp
  obtain ⟨other, hother, rfl⟩ := List.mem_map.mp hq
  have hpdrop := indentation_drop_margin (hpart hline) hpshown
  have hqdrop := indentation_drop_margin (hpart hother) hqshown
  simp only
  omega

/-! ## Lines that end visibly -/

section

variable {ls : List Text} (hls : ∀ line ∈ ls, trimRight line = line)

include hls

/-- Blank lines that end visibly are empty, so all lines can lose the margin alike. -/
theorem dedented_eq : dedented ls = (trimLines ls).map (·.drop (margin ls)) := by
  refine List.map_congr_left ?_
  intro line hline
  by_cases hblank : isBlankLine line = true
  · have hempty := eq_nil_of_isBlankLine (hls line ((infix_trimLines ls).subset hline)) hblank
    rw [if_pos hblank, hempty, List.drop_nil]
  · rw [if_neg hblank]

/-- **WHAT THE READER MAKES OF THE LINES**: what they are to be read as, but for the first line,
    which loses all of its indentation. -/
theorem withoutMargin_eq : withoutMargin ls = joinLines ((dedented ls).modifyHead trimLeft) := by
  have hparts : ∀ part ∈ ls.map (·.drop (margin ls)), trimRight part = part := by
    intro part hpart
    obtain ⟨line, hline, rfl⟩ := List.mem_map.mp hpart
    exact trimRight_of_suffix (hls line hline) (List.drop_suffix _ line)
  have hblank : ∀ line ∈ ls, isBlankLine (line.drop (margin ls)) = isBlankLine line :=
    fun line hline => isBlankLine_of_trimLeft (trimLeft_drop_margin hline)
  rw [withoutMargin, trim_joinLines hparts, trimLines_map hblank, dedented_eq hls]

/-- The description is what it is to be exactly if the first line stands at the margin. -/
theorem withoutMargin_eq_dedented_iff :
    withoutMargin ls = joinLines (dedented ls) ↔ FirstAtMargin ls := by
  rw [withoutMargin_eq hls, dedented_eq hls]
  cases htrim : trimLines ls with
  | nil =>
      have hat : FirstAtMargin ls := by
        intro first hfirst
        rw [htrim] at hfirst
        exact nomatch hfirst
      exact iff_of_true rfl hat
  | cons first rest =>
      rw [firstAtMargin_iff htrim]
      show joinLines (trimLeft (first.drop (margin ls)) :: rest.map (·.drop (margin ls)))
        = joinLines (first.drop (margin ls) :: rest.map (·.drop (margin ls))) ↔ _
      by_cases hr : rest = []
      · subst hr
        exact Iff.rfl
      · have hr' : rest.map (·.drop (margin ls)) ≠ [] := by simpa using hr
        rw [joinLines_cons _ hr', joinLines_cons _ hr', List.append_left_inj]

/-- **STEPS ARE KEPT** exactly if the first line stands at the margin: beside a line that does, a
    first line further in is seen to move. -/
theorem keepsSteps_iff :
    KeepsSteps (trimLines ls) ((dedented ls).modifyHead trimLeft) ↔ FirstAtMargin ls := by
  rw [dedented_eq hls]
  cases htrim : trimLines ls with
  | nil =>
      have hat : FirstAtMargin ls := by
        intro first hfirst
        rw [htrim] at hfirst
        exact nomatch hfirst
      exact iff_of_true (fun p hp => nomatch hp) hat
  | cons first rest =>
      have hsub : first :: rest ⊆ ls := htrim ▸ (infix_trimLines ls).subset
      have hnotBlank := not_blank_of_trimLines htrim
      rw [firstAtMargin_iff htrim, List.map_cons, List.modifyHead_cons]
      constructor
      · intro hkeeps
        obtain ⟨least, hleast, hshown, hmargin⟩ := exists_at_margin (hsub List.mem_cons_self) hnotBlank
        have hin := mem_trimLines hleast hshown
        rw [htrim] at hin
        have hfirst := indentation_drop_margin (hsub List.mem_cons_self) hnotBlank
        rcases List.mem_cons.mp hin with rfl | hlater
        · exact trimLeft_eq_self_iff.mpr (by omega)
        · -- both lines are shown without indentation, so they were level
          have hpair : (least, least.drop (margin ls))
              ∈ rest.zip (rest.map (·.drop (margin ls))) := by
            rw [← List.map_prod_left_eq_zip]
            exact List.mem_map_of_mem hlater
          have hstep := hkeeps (first, trimLeft (first.drop (margin ls))) List.mem_cons_self
            (least, least.drop (margin ls)) (List.mem_cons_of_mem _ hpair) hnotBlank hshown
          have hlow := indentation_drop_margin hleast hshown
          have hzero := indentation_trimLeft (first.drop (margin ls))
          simp only at hstep
          exact trimLeft_eq_self_iff.mpr (by omega)
      · intro hfirst
        rw [hfirst]
        exact keepsSteps_drop_margin hsub

end

/-- A description that is not empty has one line for each line that is not dropped. -/
theorem fieldLines_withoutMargin {ls : List Text} (h : ∀ line ∈ ls, Plain line)
    (hne : trimLines ls ≠ []) :
    fieldLines (withoutMargin ls) = (dedented ls).modifyHead trimLeft := by
  have htrimmed : ∀ line ∈ ls, trimRight line = line := fun line hline => (h line hline).trimmed
  rw [withoutMargin_eq htrimmed, dedented_eq htrimmed]
  have hparts := plain_drop (fun line hline => h line ((infix_trimLines ls).subset hline)) (margin ls)
  cases hkept : trimLines ls with
  | nil => exact absurd hkept hne
  | cons first rest =>
      rw [hkept] at hparts
      refine fieldLines_joinLines (List.cons_ne_nil _ _) ?_
      intro part hpart
      rcases List.mem_cons.mp hpart with rfl | hmem
      · have hfirst := hparts _ List.mem_cons_self
        exact (hfirst.of_suffix (List.dropWhile_suffix isBlank)).oneLine
      · exact (hparts part (List.mem_cons_of_mem _ hmem)).oneLine

/-! ## The whole comment -/

/-- The lines of a description are cut out of the lines of the comment. -/
theorem exists_descriptionLines (ls : List Text) :
    ∃ between, DescriptionLines ls between ∧ between ⊆ ls ∧
      (ofLines ls).description = withoutMargin between := by
  have hprose := prose_splitSummary (untilTag ls)
  have hsub : untilTag ls ⊆ ls := (List.takeWhile_prefix _).subset
  show ∃ between, DescriptionLines ls between ∧ between ⊆ ls ∧
    withoutMargin (splitSummary (untilTag ls)).2 = withoutMargin between
  generalize (splitSummary (untilTag ls)).1 = summary,
    withoutMargin (splitSummary (untilTag ls)).2 = description at hprose ⊢
  generalize huntil : untilTag ls = prose at hprose hsub
  cases hprose with
  | silent h =>
      exact ⟨[], .silent (huntil ▸ h), List.nil_subset ls, rfl⟩
  | @spoken before line after hbefore hline =>
      refine ⟨after, .spoken huntil hbefore hline, ?_, rfl⟩
      intro l hl
      exact hsub (List.mem_append_right before (List.mem_cons_of_mem line hl))

/-- **RELATIVE INDENTATION**: a description is made of the lines between the summary and the first
    tag line without their margin, the first of them without any indentation.  Differences of
    indentation are kept among all lines but the first.  With the first they are kept, and the
    description is what it is to be, exactly if that line stands at the margin. -/
theorem parse_description {raw : Text} {doc : Comment} (h : parse raw = .ok doc) :
    ∃ text between, trim raw = opening ++ text ++ closing ∧
      DescriptionLines ((lines text).map undecorate) between ∧
      doc.description = joinLines ((dedented between).modifyHead trimLeft) ∧
      KeepsSteps (trimLines between).tail (fieldLines doc.description).tail ∧
      (doc.description = joinLines (dedented between) ↔ FirstAtMargin between) ∧
      (KeepsSteps (trimLines between) (fieldLines doc.description) ↔ FirstAtMargin between) := by
  obtain ⟨ls, hbody, -, rfl⟩ := parse_eq_ok_iff.mp h
  obtain ⟨text, htext, rfl, -⟩ := body_eq_ok_iff.mp hbody
  obtain ⟨between, hbetween, hsub, hdescription⟩ :=
    exists_descriptionLines ((lines text).map undecorate)
  have hplain : ∀ line ∈ between, Plain line := fun line hline => plain_of_body hbody line (hsub hline)
  have htrimmed : ∀ line ∈ between, trimRight line = line := fun line hline =>
    (hplain line hline).trimmed
  refine ⟨text, between, htext, hbetween, hdescription.trans (withoutMargin_eq htrimmed), ?_⟩
  have hsteps : KeepsSteps (trimLines between).tail (fieldLines (withoutMargin between)).tail ∧
      (KeepsSteps (trimLines between) (fieldLines (withoutMargin between)) ↔
        FirstAtMargin between) := by
    rw [← keepsSteps_iff htrimmed]
    by_cases hne : trimLines between = []
    · rw [hne]
      have hnone : ∀ shown, KeepsSteps [] shown := fun shown p hp => nomatch hp
      exact ⟨hnone _, iff_of_true (hnone _) (hnone _)⟩
    · rw [fieldLines_withoutMargin hplain hne, dedented_eq htrimmed, List.tail_modifyHead,
        ← List.map_tail]
      refine ⟨keepsSteps_drop_margin ?_, Iff.rfl⟩
      intro line hline
      exact (infix_trimLines between).subset (List.mem_of_mem_tail hline)
  rw [hdescription]
  exact ⟨hsteps.1, withoutMargin_eq_dedented_iff htrimmed, hsteps.2⟩

/-- A first line that stands at the margin, a blank line, and a line further in. -/
theorem parse_description_level :
    parse "/**\n * Sum.\n *\n *   Example:\n *\n *      total();\n */".toList
      = .ok ⟨some "Sum.".toList, "Example:\n\n   total();".toList, []⟩ ∧
    ∃ text between, trim "/**\n * Sum.\n *\n *   Example:\n *\n *      total();\n */".toList
        = opening ++ text ++ closing ∧
      DescriptionLines ((lines text).map undecorate) between ∧
      "Example:\n\n   total();".toList = joinLines ((dedented between).modifyHead trimLeft) := by
  have h : parse "/**\n * Sum.\n *\n *   Example:\n *\n *      total();\n */".toList
      = .ok ⟨some "Sum.".toList, "Example:\n\n   total();".toList, []⟩ := by cbv
  obtain ⟨text, between, htext, hbetween, hmade, -⟩ := parse_description h
  exact ⟨h, text, between, htext, hbetween, hmade⟩

/-- A first line that stands further in than the second: it is moved to the margin, and the two
    lines come out level. -/
theorem parse_stepped :
    parse "/**\n * Sum.\n *\n *     total();\n * Example.\n */".toList
      = .ok ⟨some "Sum.".toList, "total();\nExample.".toList, []⟩ ∧
    DescriptionLines ((lines "\n * Sum.\n *\n *     total();\n * Example.\n ".toList).map undecorate)
      ["".toList, "    total();".toList, "Example.".toList, "".toList] ∧
    joinLines (dedented ["".toList, "    total();".toList, "Example.".toList, "".toList])
      = "    total();\nExample.".toList ∧
    ¬ KeepsSteps (trimLines ["".toList, "    total();".toList, "Example.".toList, "".toList])
      (fieldLines "total();\nExample.".toList) := by
  refine ⟨by cbv, ?_, by cbv, ?_⟩
  · exact @DescriptionLines.spoken _ [[]] "Sum.".toList _ (by cbv) (by decide) (by decide)
  · intro hkeeps
    have hstep := hkeeps ("    total();".toList, "total();".toList) (by decide)
      ("Example.".toList, "Example.".toList) (by decide) (by decide) (by decide)
    exact absurd hstep (by decide)

end DocAudit.Comment
