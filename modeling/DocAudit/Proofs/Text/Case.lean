import DocAudit.Proofs.Text.Words
import DocAudit.Text.Case

/-! # Lower case — word by word

    The lower case of a text is not made letter by letter: one letter may become two, and a sigma
    looks at its neighbours.  But it looks no further than the next blank, and a blank is lowered
    to itself and nothing else is lowered to a blank.  So a text is lowered WORD BY WORD
    (`words_lower`).

    What holds of blanks is read off the tables of letter case. -/

namespace DocAudit.Text

variable {s t : Text} {b c : Char}

/-! ## Single characters -/

/-- A blank is lowered to itself and ends the context of a sigma. -/
theorem lowerChar_of_isBlank (hb : isBlank b = true) :
    lowerChar b = [b] ∧ isCaseIgnorable b = false ∧ isCased b = false ∧ b ≠ 'Σ' := by
  have hall : (blanks.all fun d => lowerChar d = [d] ∧ isCaseIgnorable d = false ∧
      isCased d = false ∧ d ≠ 'Σ') = true := by decide +kernel
  exact of_isBlank hall hb

/-- No run of the table leads to a blank. -/
theorem lowerRuns_blanks {run : CaseRun} (hrun : run ∈ lowerRuns) (hb : isBlank b = true) :
    (b.toNat : Int) < run.first + run.shift ∨ run.last + run.shift < (b.toNat : Int) := by
  have htable : (lowerRuns.all fun run => blanks.all fun d =>
      (d.toNat : Int) < run.first + run.shift ∨ run.last + run.shift < (d.toNat : Int)) = true := by
    decide +kernel
  exact of_isBlank (List.all_eq_true.mp htable run hrun) hb

/-- A code point that gives a blank is valid, since the invalid ones give the null character. -/
theorem toNat_ofNat_of_isBlank {n : Nat} (h : isBlank (Char.ofNat n) = true) :
    (Char.ofNat n).toNat = n := by
  by_cases hn : n.isValidChar
  · rw [Char.ofNat, dif_pos hn]
    rfl
  · rw [Char.ofNat, dif_neg hn] at h
    exact absurd h (by decide)

theorem isBlank_shift {run : CaseRun} (hrun : run ∈ lowerRuns) {n : Nat}
    (hn : run.holds n = true) : isBlank (Char.ofNat (n + run.shift).toNat) = false := by
  by_contra hblank
  have hblank : isBlank (Char.ofNat (n + run.shift).toNat) = true := by simpa using hblank
  have hcodes : (blanks.all fun d => d.toNat ≠ 0) = true := by decide
  have hcode := of_isBlank hcodes hblank
  have hvalid := toNat_ofNat_of_isBlank hblank
  have hrange := lowerRuns_blanks hrun hblank
  simp only [CaseRun.holds, Bool.and_eq_true, decide_eq_true_eq] at hn
  omega

theorem isBlank_shiftCase (hc : isBlank c = false) :
    isBlank (shiftCase lowerRuns c.toNat) = false := by
  rw [shiftCase]
  split
  · rename_i run hfind
    have hholds := List.find?_some hfind
    exact isBlank_shift (List.mem_of_find?_eq_some hfind) hholds
  · rw [Char.ofNat_toNat]
    exact hc

theorem isBlank_toLower_ascii :
    ∀ n < 0x80, isBlank (Char.ofNat n) = false → isBlank (Char.ofNat n).toLower = false := by
  decide

/-- Nothing but a blank is lowered to a blank. -/
theorem solid_lowerChar (hc : isBlank c = false) : Solid (lowerChar c) := by
  rw [lowerChar]
  split
  · rename_i hascii
    have hlower := isBlank_toLower_ascii c.toNat hascii
    rw [Char.ofNat_toNat] at hlower
    simpa using hlower hc
  · split
    · exact (show Solid ['i', Char.ofNat 0x307] by decide)
    · simpa using isBlank_shiftCase hc

theorem lowerChar_ne_nil (c : Char) : lowerChar c ≠ [] := by
  rw [lowerChar]
  split
  · exact List.cons_ne_nil _ _
  · split
    · exact List.cons_ne_nil _ _
    · exact List.cons_ne_nil _ _

/-! ## Texts -/

theorem lowerFrom_ne_nil (before : Bool) (hne : t ≠ []) : lowerFrom before t ≠ [] := by
  obtain ⟨c, rest, rfl⟩ := List.exists_cons_of_ne_nil hne
  rw [lowerFrom]
  split
  · exact List.cons_ne_nil _ _
  · exact List.append_ne_nil_of_left_ne_nil (lowerChar_ne_nil c) _

theorem Solid.lowerFrom (h : Solid t) (before : Bool) : Solid (lowerFrom before t) := by
  induction t generalizing before with
  | nil => exact solid_nil
  | cons c rest ih =>
      obtain ⟨hc, hrest⟩ := solid_cons.mp h
      rw [Text.lowerFrom]
      split
      · refine solid_cons.mpr ⟨?_, ih hrest _⟩
        split <;> decide
      · exact solid_append.mpr ⟨solid_lowerChar hc, ih hrest _⟩

/-- A sigma does not look past a blank. -/
theorem casedAhead_append_blank (s : Text) (hb : isBlank b = true) (r : Text) :
    casedAhead (s ++ b :: r) = casedAhead s := by
  obtain ⟨-, hignorable, hcased, -⟩ := lowerChar_of_isBlank hb
  induction s with
  | nil => simp [casedAhead, hignorable, hcased]
  | cons c s ih => rw [List.cons_append, casedAhead, casedAhead, ih]

/-- **LOWERING STARTS ANEW AT A BLANK**. -/
theorem lowerFrom_append_blank (before : Bool) (s : Text) (hb : isBlank b = true) (r : Text) :
    lowerFrom before (s ++ b :: r) = lowerFrom before s ++ b :: lower r := by
  obtain ⟨hlower, hignorable, hcased, hsigma⟩ := lowerChar_of_isBlank hb
  induction s generalizing before with
  | nil => simp [lowerFrom, hlower, hignorable, hcased, hsigma, lower]
  | cons c s ih =>
      simp only [List.cons_append, lowerFrom, ih, casedAhead_append_blank s hb]
      split
      · rfl
      · rw [List.append_assoc]

theorem lower_append_blank (s : Text) (hb : isBlank b = true) (r : Text) :
    lower (s ++ b :: r) = lower s ++ b :: lower r := lowerFrom_append_blank false s hb r

theorem Solid.words_lower (h : Solid s) : Text.words (lower s) = (Text.words s).map lower := by
  by_cases hne : s = []
  · subst hne
    rfl
  · rw [h.words hne]
    exact (h.lowerFrom false).words (lowerFrom_ne_nil false hne)

/-- **WORDS ARE LOWERED ONE BY ONE**. -/
theorem words_lower (t : Text) : words (lower t) = (words t).map lower := by
  induction t using blank_induction with
  | solid s hs => exact hs.words_lower
  | blank s b r hs hb ih =>
      rw [lower_append_blank s hb, words_append_blank _ hb, words_append_blank s hb,
        List.map_append, hs.words_lower, ih]

/-- The blanks of a text in lower case are blanks of the text. -/
theorem mem_of_mem_lower (hb : isBlank b = true) (h : b ∈ lower t) : b ∈ t := by
  induction t using blank_induction with
  | solid s hs => exact absurd h ((hs.lowerFrom false).not_mem hb)
  | blank s d r hs hd ih =>
      rw [lower_append_blank s hd, List.mem_append, List.mem_cons] at h
      rcases h with h | rfl | h
      · exact absurd h ((hs.lowerFrom false).not_mem hb)
      · simp
      · simp [ih h]

/-- A text that ends visibly does so in lower case. -/
theorem trimRight_lower (h : trimRight t = t) : trimRight (lower t) = lower t := by
  induction t using blank_induction with
  | solid s hs => exact (hs.lowerFrom false).trimRight
  | blank s b r hs hb ih =>
      obtain ⟨hr, hback⟩ := visible_after_blank hb h
      rw [lower_append_blank s hb, List.append_cons]
      exact trimRight_append _ (lowerFrom_ne_nil false hr) (ih hback)

end DocAudit.Text
