import DocAudit.Proofs.Text.Case

/-! # Sigma — lower case between neighbours

    The lower case of a stretch of a text depends on what stands around it, but only through two
    bits: whether the nearest letter BEFORE it is cased, and whether the nearest one AFTER it is
    (`lowerWithin_append`).  And only a sigma at an edge looks at them.

    So a stretch is lowered by itself as it is within the text, but for two cases: it closes with
    a sigma and a cased letter follows (`lower_prefix_iff`), or it opens with a sigma and a cased
    letter comes before (`lower_suffix_iff`). -/

namespace DocAudit.Text

variable {s t : Text} {before after : Bool}

/-! ## Neighbours -/

/-- Whether the first letter that is not skipped is cased, `after` saying so of what follows. -/
def casedAheadOf (after : Bool) : Text → Bool
  | [] => after
  | c :: rest => if isCaseIgnorable c then casedAheadOf after rest else isCased c

/-- Whether the last letter that is not skipped is cased, `before` saying so of what came
    before. -/
def casedBehind (before : Bool) : Text → Bool
  | [] => before
  | c :: rest => casedBehind (if isCaseIgnorable c then before else isCased c) rest

theorem casedAheadOf_false (t : Text) : casedAheadOf false t = casedAhead t := by
  induction t with
  | nil => rfl
  | cons c rest ih => rw [casedAheadOf, casedAhead, ih]

theorem casedAheadOf_append (after : Bool) (s t : Text) :
    casedAheadOf after (s ++ t) = casedAheadOf (casedAheadOf after t) s := by
  induction s with
  | nil => rfl
  | cons c rest ih => rw [List.cons_append, casedAheadOf, casedAheadOf, ih]

/-- All characters are skipped. -/
def Skipped (t : Text) : Prop := ∀ c ∈ t, isCaseIgnorable c = true

theorem skipped_cons {c : Char} : Skipped (c :: t) ↔ isCaseIgnorable c = true ∧ Skipped t :=
  List.forall_mem_cons

theorem not_ignorable_sigma : isCaseIgnorable 'Σ' = false := by decide +kernel

/-- What follows is looked at only behind a text that is skipped as a whole. -/
theorem casedAheadOf_eq_iff (t : Text) :
    casedAheadOf true t = casedAheadOf false t ↔ ¬ Skipped t := by
  induction t with
  | nil => simp [casedAheadOf, Skipped]
  | cons c rest ih =>
      rw [casedAheadOf, casedAheadOf, skipped_cons]
      by_cases hc : isCaseIgnorable c = true
      · simp [hc, ih]
      · simp [hc]

/-! ## Lower case between neighbours -/

/-- The lower case of a stretch with these neighbours. -/
def lowerWithin (before after : Bool) : Text → Text
  | [] => []
  | c :: rest =>
      let next := if isCaseIgnorable c then before else isCased c
      if c = 'Σ' then
        (if before && !casedAheadOf after rest then 'ς' else 'σ') :: lowerWithin next after rest
      else lowerChar c ++ lowerWithin next after rest

theorem lowerWithin_false (before : Bool) (t : Text) :
    lowerWithin before false t = lowerFrom before t := by
  induction t generalizing before with
  | nil => rfl
  | cons c rest ih => simp only [lowerWithin, lowerFrom, ih, casedAheadOf_false]

/-- **TWO BITS OF CONTEXT**: of a text in two parts, each is lowered with the other as its
    neighbour. -/
theorem lowerWithin_append (before after : Bool) (s t : Text) :
    lowerWithin before after (s ++ t)
      = lowerWithin before (casedAheadOf after t) s
        ++ lowerWithin (casedBehind before s) after t := by
  induction s generalizing before with
  | nil => rfl
  | cons c rest ih =>
      simp only [List.cons_append, lowerWithin, ih, casedAheadOf_append, casedBehind]
      split
      · rfl
      · rw [List.append_assoc]

/-- The neighbours do not change the length. -/
theorem length_lowerWithin (before after : Bool) (t : Text) :
    (lowerWithin before after t).length = (lower t).length := by
  suffices h : ∀ before', (lowerWithin before after t).length = (lowerFrom before' t).length from
    h false
  induction t generalizing before with
  | nil => exact fun _ => rfl
  | cons c rest ih =>
      intro before'
      rw [lowerWithin, lowerFrom]
      by_cases hc : c = 'Σ'
      · simp only [if_pos hc, List.length_cons]
        rw [ih]
      · simp only [if_neg hc, List.length_append]
        rw [ih]

/-! ## Sigmas at the edges -/

/-- The stretch closes with a sigma behind a cased letter, up to characters that are skipped. -/
def ClosesWithSigma (before : Bool) (t : Text) : Prop :=
  ∃ front skipped, t = front ++ 'Σ' :: skipped ∧ casedBehind before front = true ∧ Skipped skipped

/-- The stretch opens with a sigma that no cased letter follows, up to characters that are
    skipped. -/
def OpensWithSigma (t : Text) : Prop :=
  ∃ skipped back, t = skipped ++ 'Σ' :: back ∧ Skipped skipped ∧ casedAhead back = false

theorem not_closesWithSigma (h : 'Σ' ∉ t) (before : Bool) : ¬ ClosesWithSigma before t := by
  rintro ⟨front, skipped, rfl, -⟩
  exact h (by simp)

theorem not_opensWithSigma (h : 'Σ' ∉ t) : ¬ OpensWithSigma t := by
  rintro ⟨skipped, back, rfl, -⟩
  exact h (by simp)

theorem closesWithSigma_cons {c : Char} :
    ClosesWithSigma before (c :: t) ↔
      (c = 'Σ' ∧ before = true ∧ Skipped t) ∨
        ClosesWithSigma (if isCaseIgnorable c then before else isCased c) t := by
  constructor
  · rintro ⟨front, skipped, h, hbehind, hskipped⟩
    cases front with
    | nil =>
        obtain ⟨rfl, rfl⟩ := List.cons.inj h
        exact Or.inl ⟨rfl, hbehind, hskipped⟩
    | cons d front =>
        obtain ⟨rfl, rfl⟩ := List.cons.inj h
        exact Or.inr ⟨front, skipped, rfl, hbehind, hskipped⟩
  · rintro (⟨rfl, rfl, hskipped⟩ | ⟨front, skipped, rfl, hbehind, hskipped⟩)
    · exact ⟨[], t, rfl, rfl, hskipped⟩
    · exact ⟨c :: front, skipped, rfl, hbehind, hskipped⟩

theorem opensWithSigma_cons {c : Char} :
    OpensWithSigma (c :: t) ↔
      (c = 'Σ' ∧ casedAhead t = false) ∨ (isCaseIgnorable c = true ∧ OpensWithSigma t) := by
  constructor
  · rintro ⟨skipped, back, h, hskipped, hahead⟩
    cases skipped with
    | nil =>
        obtain ⟨rfl, rfl⟩ := List.cons.inj h
        exact Or.inl ⟨rfl, hahead⟩
    | cons d skipped =>
        obtain ⟨rfl, rfl⟩ := List.cons.inj h
        obtain ⟨hd, hrest⟩ := skipped_cons.mp hskipped
        exact Or.inr ⟨hd, skipped, back, rfl, hrest, hahead⟩
  · rintro (⟨rfl, hahead⟩ | ⟨hc, skipped, back, rfl, hskipped, hahead⟩)
    · exact ⟨[], t, rfl, fun _ hc => (nomatch hc), hahead⟩
    · exact ⟨c :: skipped, back, rfl, skipped_cons.mpr ⟨hc, hskipped⟩, hahead⟩

/-- The letter after a stretch matters exactly to a sigma that closes it. -/
theorem lowerWithin_after_iff (before : Bool) (t : Text) :
    lowerWithin before true t = lowerWithin before false t ↔ ¬ ClosesWithSigma before t := by
  induction t generalizing before with
  | nil => exact iff_of_true rfl (not_closesWithSigma List.not_mem_nil before)
  | cons c rest ih =>
      rw [closesWithSigma_cons, lowerWithin, lowerWithin]
      by_cases hc : c = 'Σ'
      · subst hc
        simp only [if_true, List.cons.injEq, ih, true_and, not_or]
        refine and_congr_left fun _ => ?_
        -- the two forms of the letter tell what it saw ahead
        have hform : ∀ a b : Bool, ((if (before && !a) = true then 'ς' else 'σ')
            = if (before && !b) = true then 'ς' else 'σ') ↔ (before = true → a = b) := by
          cases before <;> decide
        rw [hform, casedAheadOf_eq_iff, not_and]
      · rw [if_neg hc, if_neg hc, List.append_cancel_left_eq, ih]
        simp [hc]

/-- The letter before a stretch matters exactly to a sigma that opens it. -/
theorem lowerFrom_before_iff (t : Text) :
    lowerFrom true t = lowerFrom false t ↔ ¬ OpensWithSigma t := by
  induction t with
  | nil => exact iff_of_true rfl (not_opensWithSigma List.not_mem_nil)
  | cons c rest ih =>
      rw [opensWithSigma_cons, lowerFrom, lowerFrom]
      by_cases hc : c = 'Σ'
      · subst hc
        cases casedAhead rest <;> simp [not_ignorable_sigma]
      · by_cases hignorable : isCaseIgnorable c = true
        · simp [hc, hignorable, ih]
        · simp [hc, hignorable]

/-! ## Stretches of a text -/

theorem lower_append (s t : Text) :
    lower (s ++ t) = lowerWithin false (casedAhead t) s ++ lowerFrom (casedBehind false s) t := by
  rw [← casedAheadOf_false t, ← lowerWithin_false, ← lowerWithin_append, lowerWithin_false]
  rfl

/-- **A BEGINNING IS LOWERED BY ITSELF**, unless it closes with a sigma and a cased letter
    follows. -/
theorem lower_prefix_iff (s t : Text) :
    lower s <+: lower (s ++ t) ↔ ¬ (ClosesWithSigma false s ∧ casedAhead t = true) := by
  have hsame : lower s <+: lower (s ++ t) ↔ lowerWithin false (casedAhead t) s = lower s := by
    rw [lower_append]
    constructor
    · intro h
      have hlength := length_lowerWithin false (casedAhead t) s
      exact ((List.prefix_of_prefix_length_le h (List.prefix_append _ _) hlength.ge).eq_of_length
        hlength.symm).symm
    · intro h
      rw [h]
      exact List.prefix_append _ _
  rw [hsame]
  cases casedAhead t with
  | false => exact iff_of_true (lowerWithin_false false s) (by simp)
  | true =>
      rw [lower, ← lowerWithin_false, lowerWithin_after_iff]
      simp

example : lower "ΟΔΟΣ" = "οδος".toList ∧ lower "ΟΔΟΣ's" = "οδοσ's".toList := by decide +kernel

/-- **AN END IS LOWERED BY ITSELF**, unless it opens with a sigma and a cased letter comes
    before. -/
theorem lower_suffix_iff (s t : Text) :
    lower t <:+ lower (s ++ t) ↔ ¬ (OpensWithSigma t ∧ casedBehind false s = true) := by
  have hsame : lower t <:+ lower (s ++ t) ↔ lowerFrom (casedBehind false s) t = lower t := by
    rw [lower_append]
    constructor
    · intro h
      have hlength := length_lowerWithin (casedBehind false s) false t
      rw [lowerWithin_false] at hlength
      exact ((List.suffix_of_suffix_length_le h (List.suffix_append _ _) hlength.ge).eq_of_length
        hlength.symm).symm
    · intro h
      rw [h]
      exact List.suffix_append _ _
  rw [hsame]
  cases casedBehind false s with
  | false => exact iff_of_true rfl (by simp)
  | true =>
      rw [lower, lowerFrom_before_iff]
      simp

/-- A text that is lowered to two parts with a blank between them has such parts itself. -/
theorem exists_cut_of_lower {b : Char} (hb : isBlank b = true) {u v : Text}
    (h : lower t = u ++ b :: v) :
    ∃ front back, t = front ++ b :: back ∧ lower front = u ∧ lower back = v := by
  induction t using blank_induction generalizing u with
  | solid s hs =>
      have hmem : b ∈ lower s := by simp [h]
      exact absurd hmem ((hs.lowerFrom false).not_mem hb)
  | blank s d r hs hd ih =>
      rw [lower_append_blank s hd] at h
      rcases List.append_eq_append_iff.mp h with ⟨more, rfl, hmore⟩ | ⟨more, hu, hmore⟩
      · cases more with
        | nil =>
            obtain ⟨rfl, rfl⟩ := List.cons.inj hmore
            exact ⟨s, r, rfl, (List.append_nil _).symm, rfl⟩
        | cons e more =>
            obtain ⟨rfl, hr⟩ := List.cons.inj hmore
            obtain ⟨front, back, rfl, hfront, hback⟩ := ih hr
            refine ⟨s ++ d :: front, back, by simp, ?_, hback⟩
            rw [lower_append_blank s hd, hfront]
      · cases more with
        | nil =>
            obtain ⟨rfl, rfl⟩ := List.cons.inj hmore
            exact ⟨s, r, rfl, hu.trans (List.append_nil _), rfl⟩
        | cons e more =>
            -- the blank would stand in the part before the first blank
            obtain ⟨rfl, -⟩ := List.cons.inj hmore
            have hmem : b ∈ lower s := by simp [hu]
            exact absurd hmem ((hs.lowerFrom false).not_mem hb)

end DocAudit.Text
