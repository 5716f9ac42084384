import DocAudit.Proofs.Text.OneLine
import DocAudit.Proofs.Text.Trim
import DocAudit.Proofs.Text.Words
import Mathlib.Data.Nat.Digits.Defs

/-! # Numerals — what denotes an integer

    Digits may be set in groups with an underscore between neighbours.  Cut at its
    underscores, a text of digits falls into groups none of which is EMPTY, and this is all
    that the reader asks of it (`places?_eq_some_iff`).

    An integer is denoted by digits behind a sign or none, as long as they are not too many.
    `Denotes` says so without the reader, and `readInt?_eq_some_iff` that the reader finds
    exactly these integers. -/

namespace DocAudit.Text.Numeral

variable {place? : Char → Option Nat} {c : Char} {t digits : Text}

/-! ## Groups of digits -/

/-- Where no underscore follows, the first digit is read by itself. -/
theorem places?_cons_cons {e : Char} (he : e ≠ '_') (c : Char) (more : Text) :
    places? place? (c :: e :: more)
      = (place? c).bind fun d => (places? place? (e :: more)).map (d :: ·) := by
  rw [places?]
  · cases place? c with
    | none => rfl
    | some d => cases places? place? (e :: more) <;> rfl
  · exact List.cons_ne_nil e more
  · rintro rest ⟨rfl, -⟩
    exact he rfl

/-- An underscore behind the first digit is passed over. -/
theorem places?_cons_line (c : Char) (rest : Text) :
    places? place? (c :: '_' :: rest)
      = (place? c).bind fun d => (places? place? rest).map (d :: ·) := by
  rw [places?]
  cases place? c with
  | none => rfl
  | some d => cases places? place? rest <;> rfl

/-- Cut at its underscores, the text falls into groups of digits, none of them empty. -/
def Grouped (place? : Char → Option Nat) (t : Text) : Prop :=
  ∀ group ∈ splitOn '_' t, group ≠ [] ∧ ∀ c ∈ group, (place? c).isSome = true

theorem not_grouped_nil : ¬ Grouped place? [] := fun h => (h [] List.mem_cons_self).1 rfl

theorem grouped_append_line (s r : Text) :
    Grouped place? (s ++ '_' :: r) ↔ Grouped place? s ∧ Grouped place? r := by
  rw [Grouped, splitOn_append_sep]
  exact List.forall_mem_append

/-- Without an underscore there is one group. -/
theorem grouped_of_not_mem (hline : '_' ∉ t) :
    Grouped place? t ↔ t ≠ [] ∧ ∀ c ∈ t, (place? c).isSome = true := by
  rw [Grouped, splitOn_of_not_mem hline]
  exact List.forall_mem_singleton

section

variable (hline : place? '_' = none)

include hline

theorem grouped_singleton : Grouped place? [c] ↔ (place? c).isSome = true := by
  by_cases hc : c = '_'
  · subst hc
    simp [Grouped, splitOn, hline]
  · simp [Grouped, splitOn, hc, consHead]

/-- A digit in front of a group belongs to the group. -/
theorem grouped_cons_cons {e : Char} (he : e ≠ '_') (c : Char) (more : Text) :
    Grouped place? (c :: e :: more) ↔ (place? c).isSome = true ∧ Grouped place? (e :: more) := by
  by_cases hc : c = '_'
  · subst hc
    refine iff_of_false ?_ (by simp [hline])
    intro h
    exact not_grouped_nil ((grouped_append_line [] (e :: more)).mp h).1
  · obtain ⟨first, others, hmore⟩ := List.exists_cons_of_ne_nil (splitOn_ne_nil '_' more)
    have hsplit : splitOn '_' (e :: more) = (e :: first) :: others := by
      rw [splitOn, if_neg he, hmore, consHead]
    rw [Grouped, Grouped, splitOn, if_neg hc, hsplit, consHead]
    simp [and_assoc]

omit hline in
/-- One digit more is read as soon as the rest is. -/
theorem eq_some_iff_of_digit {rest : Text}
    (hread : places? place? t = (place? c).bind fun d => (places? place? rest).map (d :: ·))
    (hgrouped : Grouped place? t ↔ (place? c).isSome = true ∧ Grouped place? rest)
    (hplaces : t.filterMap place? = (c :: rest).filterMap place?)
    (ih : ∀ places, places? place? rest = some places ↔
      Grouped place? rest ∧ rest.filterMap place? = places) (places : List Nat) :
    places? place? t = some places ↔ Grouped place? t ∧ t.filterMap place? = places := by
  rw [hread, hgrouped, hplaces]
  cases hc : place? c with
  | none => simp
  | some d =>
      rw [List.filterMap_cons_some hc]
      simp only [Option.bind_some, Option.map_eq_some_iff, ih, Option.isSome_some, true_and]
      constructor
      · rintro ⟨_, ⟨hrest, rfl⟩, rfl⟩
        exact ⟨hrest, rfl⟩
      · rintro ⟨hrest, rfl⟩
        exact ⟨_, ⟨hrest, rfl⟩, rfl⟩

/-- **DIGITS ARE READ IN GROUPS**: the places of a text are found exactly if its groups are in
    order, and are then those of its digits. -/
theorem places?_eq_some_iff : ∀ (t : Text) (places : List Nat),
    places? place? t = some places ↔ Grouped place? t ∧ t.filterMap place? = places
  | [], places => by simp [places?, not_grouped_nil]
  | [c], places => by
      cases hc : place? c with
      | none => simp [places?, grouped_singleton hline, hc]
      | some d => simp [places?, grouped_singleton hline, hc]
  | c :: e :: more, places => by
      by_cases he : e = '_'
      · subst he
        refine eq_some_iff_of_digit (places?_cons_line c more) ?_ ?_
          (places?_eq_some_iff more) places
        · rw [← grouped_singleton hline]
          exact grouped_append_line [c] more
        · simp [List.filterMap_cons, hline]
      · exact eq_some_iff_of_digit (places?_cons_cons he c more)
          (grouped_cons_cons hline he c more) rfl (places?_eq_some_iff (e :: more)) places

/-- A text of digits is read digit by digit. -/
theorem places?_of_all (hne : t ≠ []) (hnone : '_' ∉ t)
    (hall : ∀ c ∈ t, (place? c).isSome = true) :
    places? place? t = some (t.filterMap place?) :=
  (places?_eq_some_iff hline t _).mpr ⟨(grouped_of_not_mem hnone).mpr ⟨hne, hall⟩, rfl⟩

/-- One character that is no digit spoils the numeral. -/
theorem places?_of_mem (hnone : '_' ∉ t) (hc : c ∈ t) (hspoils : place? c = none) :
    places? place? t = none := by
  refine Option.eq_none_iff_forall_ne_some.mpr fun places h => ?_
  obtain ⟨hgrouped, -⟩ := (places?_eq_some_iff hline t places).mp h
  have hdigit := ((grouped_of_not_mem hnone).mp hgrouped).2 c hc
  rw [hspoils] at hdigit
  exact nomatch hdigit

end

/-! ## Integers -/

/-- Digits in groups, and not too many of them. -/
structure Readable (digits : Text) : Prop where
  grouped : Grouped decimalValue? digits
  short : (digits.filterMap decimalValue?).length ≤ digitLimit

/-- The number that digits stand for, the first one in the highest place. -/
def size (digits : Text) : Nat := Nat.ofDigits 10 (digits.filterMap decimalValue?).reverse

/-- The text denotes the integer: digits behind a sign or none. -/
inductive Denotes : Text → Int → Prop where
  | bare {digits : Text} (h : Readable digits) : Denotes digits (size digits)
  | plus {digits : Text} (h : Readable digits) : Denotes ('+' :: digits) (size digits)
  | minus {digits : Text} (h : Readable digits) : Denotes ('-' :: digits) (-size digits)

theorem value_filterMap (digits : Text) :
    value (digits.filterMap decimalValue?) = size digits := by
  rw [size, Nat.ofDigits_eq_foldr, List.foldr_reverse, value]
  simp only [Nat.cast_id, Nat.add_comm]

/-- Readable digits hold nothing but digits and underscores. -/
theorem Readable.isSome_of_mem (h : Readable digits) (hc : c ∈ digits) (hline : c ≠ '_') :
    (decimalValue? c).isSome = true := by
  rw [← join_splitOn '_' digits] at hc
  rcases mem_join hc with hsep | ⟨group, hgroup, hmem⟩
  · exact absurd (List.mem_singleton.mp hsep) hline
  · exact (h.grouped group hgroup).2 c hmem

/-- A sign is no digit. -/
theorem not_readable_of_sign (hc : c = '+' ∨ c = '-') : ¬ Readable (c :: digits) := by
  intro h
  rcases hc with rfl | rfl
  · exact absurd (h.isSome_of_mem List.mem_cons_self (by decide)) (by decide)
  · exact absurd (h.isSome_of_mem List.mem_cons_self (by decide)) (by decide)

theorem Denotes.ne_nil {n : Int} (h : Denotes t n) : t ≠ [] := by
  rintro rfl
  cases h with
  | bare h => exact not_grouped_nil h.grouped

/-- What a text denotes is told by its sign and by what is left without it. -/
theorem denotes_iff {n : Int} : Denotes t n ↔
    Readable (splitSign t).2 ∧ signed (splitSign t).1 (size (splitSign t).2) = n := by
  rw [splitSign.eq_def]
  split
  · constructor
    · intro h
      cases h with
      | bare h => exact absurd h (not_readable_of_sign (Or.inr rfl))
      | minus h => exact ⟨h, rfl⟩
    · rintro ⟨h, rfl⟩
      exact .minus h
  · constructor
    · intro h
      cases h with
      | bare h => exact absurd h (not_readable_of_sign (Or.inl rfl))
      | plus h => exact ⟨h, rfl⟩
    · rintro ⟨h, rfl⟩
      exact .plus h
  · rename_i hminus hplus
    constructor
    · intro h
      cases h with
      | bare h => exact ⟨h, rfl⟩
      | plus h => exact absurd rfl (hplus _)
      | minus h => exact absurd rfl (hminus _)
    · rintro ⟨h, rfl⟩
      exact .bare h

/-- **INTEGERS ARE READ AS THEY ARE WRITTEN**: the reader finds an integer exactly if the text
    denotes it, white space around it apart. -/
theorem readInt?_eq_some_iff {n : Int} : readInt? t = some n ↔ Denotes (trimBy isWhite t) n := by
  rw [denotes_iff, readInt?]
  obtain ⟨negative, digits⟩ := splitSign (trimBy isWhite t)
  cases hplaces : places? decimalValue? digits with
  | none =>
      refine iff_of_false (by simp only [hplaces, reduceCtorEq, not_false_eq_true]) ?_
      rintro ⟨h, -⟩
      rw [(places?_eq_some_iff (by decide) _ _).mpr ⟨h.grouped, rfl⟩] at hplaces
      exact nomatch hplaces
  | some places =>
      obtain ⟨hgrouped, rfl⟩ := (places?_eq_some_iff (by decide) _ _).mp hplaces
      simp only [hplaces, value_filterMap]
      by_cases hshort : (digits.filterMap decimalValue?).length ≤ digitLimit
      · rw [if_pos hshort, Option.some.injEq]
        exact (and_iff_right ⟨hgrouped, hshort⟩).symm
      · rw [if_neg hshort]
        exact iff_of_false nofun fun h => hshort h.1.short

/-- A text that is trimmed already is read as it stands. -/
theorem readInt?_trim {n : Int} : readInt? (trim t) = some n ↔ Denotes (trim t) n := by
  have hends := trimBy_eq_self_iff.mp (trimBy_trimBy isBlank t)
  have hwhite : trimBy isWhite (trim t) = trim t := by
    refine trimBy_eq_self_iff.mpr ⟨fun c hc => ?_, fun c hc => ?_⟩
    · rw [isWhite, hends.1 c hc, Bool.false_and]
    · rw [isWhite, hends.2 c hc, Bool.false_and]
  rw [readInt?_eq_some_iff, hwhite]

end DocAudit.Text.Numeral
