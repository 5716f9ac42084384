import DocAudit.Proofs.Finding.Order
import DocAudit.Proofs.Text.Numeral
import Mathlib

/-! # Any rule — numbers before words

    The rule of a finding can be any text.  Its segments are numbers and words, and it is listed
    by the LEXICOGRAPHIC order of their list, in which every number comes before every word
    (`Finding.position`).  What has no place in this order is a segment of digits that is no
    numeral, and findings are refused exactly if one of them has such a segment.

    The keys are compared without ever setting a number against a word: a FLAG is looked at first,
    and what stands under different flags is not compared any further (`precedes?_eq`). -/

namespace DocAudit

open Text

/-! ## Digits -/

namespace Text

variable {c : Char}

theorem isBlank_of_isDigitLike (h : isDigitLike c = true) : isBlank c = false := by
  by_contra hblank
  have hall : (blanks.all fun d => isDigitLike d = false) = true := by decide +kernel
  rw [of_isBlank hall (by simpa using hblank)] at h
  exact nomatch h

theorem isWhite_of_isDigitLike (h : isDigitLike c = true) : isWhite c = false := by
  rw [isWhite, isBlank_of_isDigitLike h, Bool.false_and]

end Text

/-! ## Segments -/

namespace Segment

variable {part : Text}

/-- Every character of the text has a place value. -/
def AllDecimal (t : Text) : Prop := ∀ c ∈ t, (decimalValue? c).isSome = true

instance (t : Text) : Decidable (AllDecimal t) :=
  inferInstanceAs (Decidable (∀ c ∈ t, (decimalValue? c).isSome = true))

/-- What is made of digits has no white space to trim, no sign and no underscore. -/
theorem readInt?_of_isDigits (h : isDigits part = true) :
    Numeral.readInt? part
      = if AllDecimal part ∧ part.length ≤ Numeral.digitLimit then
          some (Numeral.value (part.filterMap decimalValue?) : Int)
        else none := by
  obtain ⟨hne, hdigits⟩ : part ≠ [] ∧ ∀ c ∈ part, isDigitLike c = true := by
    simpa [isDigits] using h
  have htrim : trimBy isWhite part = part :=
    trimBy_eq_self_iff.mpr
      ⟨fun c hc => isWhite_of_isDigitLike (hdigits c (List.mem_of_mem_head? hc)),
        fun c hc => isWhite_of_isDigitLike (hdigits c (List.mem_of_getLast? hc))⟩
  have hsign : Numeral.splitSign part = (false, part) := by
    rw [Numeral.splitSign.eq_def]
    split
    · exact absurd (hdigits '-' List.mem_cons_self) (by decide)
    · exact absurd (hdigits '+' List.mem_cons_self) (by decide)
    · rfl
  have hline : '_' ∉ part := fun hmem => absurd (hdigits '_' hmem) (by decide)
  rw [Numeral.readInt?, htrim, hsign]
  by_cases hall : AllDecimal part
  · have hlength : (part.filterMap decimalValue?).length = part.length :=
      List.filterMap_length_eq_length.mpr hall
    simp only [Numeral.places?_of_all (by decide) hne hline hall, hlength, hall, true_and]
    rfl
  · obtain ⟨c, hc, hnone⟩ : ∃ c ∈ part, decimalValue? c = none := by
      simpa [AllDecimal] using hall
    simp only [Numeral.places?_of_mem (by decide) hline hc hnone, hall, false_and, if_false]

/-- The segment is made of digits and is no numeral all the same. -/
def Unreadable (part : Text) : Prop := isDigits part = true ∧ Numeral.readInt? part = none

theorem unreadable_iff_not : Unreadable part ↔ isDigits part = true ∧
    ¬ (AllDecimal part ∧ part.length ≤ Numeral.digitLimit) := by
  refine and_congr_right fun h => ?_
  rw [readInt?_of_isDigits h]
  simp

/-- A segment of digits is no numeral if one of them is a digit by shape only, or if they are
    too many. -/
theorem unreadable_iff : Unreadable part ↔ isDigits part = true ∧
    ((∃ c ∈ part, decimalValue? c = none) ∨ Numeral.digitLimit < part.length) := by
  rw [unreadable_iff_not, not_and_or, Nat.not_le]
  simp [AllDecimal]

/-- What a segment counts as: a numeral of digits as a number, all else as a word. -/
def ofPart (part : Text) : Segment :=
  if isDigits part then .number ((Numeral.readInt? part).getD 0).toNat else .word part

theorem leadingPlaces_of_allDecimal (h : AllDecimal part) :
    leadingPlaces part = part.filterMap decimalValue? := by
  rw [leadingPlaces, List.takeWhile_eq_self_iff.mpr h]

theorem length_leadingPlaces_lt (h : ¬ AllDecimal part) :
    (leadingPlaces part).length < part.length := by
  refine Nat.lt_of_le_of_lt (List.length_filterMap_le _ _) ?_
  refine Nat.lt_of_le_of_ne (List.takeWhile_prefix _).length_le ?_
  intro hlength
  exact h (List.takeWhile_eq_self_iff.mp ((List.takeWhile_prefix _).eq_of_length hlength))

theorem read_of_numeral (hdigits : isDigits part = true)
    (hfit : AllDecimal part ∧ part.length ≤ Numeral.digitLimit) :
    read part = .ok (ofPart part) := by
  have hlength : (part.filterMap decimalValue?).length = part.length :=
    List.filterMap_length_eq_length.mpr hfit.1
  rw [read, ofPart, if_pos hdigits, if_pos hdigits, readInt?_of_isDigits hdigits, if_pos hfit]
  simp [leadingPlaces_of_allDecimal hfit.1, hlength, Nat.not_lt.mpr hfit.2]

theorem read_of_unreadable (h : Unreadable part) : ∃ fault, read part = .error fault := by
  obtain ⟨hdigits, hfit⟩ := unreadable_iff_not.mp h
  rw [read, if_pos hdigits]
  by_cases hlong : Numeral.digitLimit < (leadingPlaces part).length
  · exact ⟨_, if_pos hlong⟩
  · -- not too long as far as it is decimal, so it is not decimal as a whole
    have hshort : (leadingPlaces part).length < part.length := by
      refine length_leadingPlaces_lt fun hall => hfit ⟨hall, ?_⟩
      rwa [leadingPlaces_of_allDecimal hall, List.filterMap_length_eq_length.mpr hall,
        Nat.not_lt] at hlong
    exact ⟨_, (if_neg hlong).trans (if_pos hshort)⟩

/-- **READING A SEGMENT** fails exactly on digits that are no numeral. -/
theorem read_eq_ok_iff {segment : Segment} :
    read part = .ok segment ↔ ¬ Unreadable part ∧ segment = ofPart part := by
  by_cases h : Unreadable part
  · obtain ⟨fault, hfault⟩ := read_of_unreadable h
    simp [hfault, h]
  · have hread : read part = .ok (ofPart part) := by
      by_cases hdigits : isDigits part = true
      · exact read_of_numeral hdigits
          (not_not.mp fun hfit => h (unreadable_iff_not.mpr ⟨hdigits, hfit⟩))
      · rw [read, ofPart, if_neg hdigits, if_neg hdigits]
    simp [hread, h, eq_comm]

/-! ## The order of segments -/

/-- The place of a segment: numbers by size, and behind them words by code points. -/
def rank : Segment → ℕ ⊕ₗ List Char
  | .number n => toLex (Sum.inl n)
  | .word t => toLex (Sum.inr t)

theorem rank_injective : Function.Injective rank := by
  rintro (m | t) (n | u) h
  · exact congrArg number (Sum.inl.inj (toLex_inj.mp h))
  · exact nomatch toLex_inj.mp h
  · exact nomatch toLex_inj.mp h
  · exact congrArg word (Sum.inr.inj (toLex_inj.mp h))

/-- Texts compare as lists of code points. -/
theorem text_le_eq (t u : Text) : Text.le t u = decide (t ≤ u) := by
  induction t generalizing u with
  | nil => exact (decide_eq_true (not_lt.mp (List.not_lt_nil u))).symm
  | cons c t ih =>
      cases u with
      | nil => exact (decide_eq_false (not_le.mpr (List.nil_lt_cons c t))).symm
      | cons d u =>
          rw [Text.le]
          by_cases hcd : c = d
          · subst hcd
            simp [ih, Finding.cons_le_cons_iff_lex]
          · have hlt : c < d ↔ c.toNat ≤ d.toNat := by
              rw [lt_iff_le_and_ne, and_iff_left hcd]
              exact Iff.rfl
            simp [Finding.cons_le_cons_iff_lex, hcd, hlt]

theorem le_eq (s s' : Segment) : s.le s' = decide (s.rank ≤ s'.rank) := by
  cases s with
  | number m =>
      cases s' with
      | number n => simp [le, rank]
      | word u => simp [le, rank]
  | word t =>
      cases s' with
      | number n => simp [le, rank]
      | word u => simp [le, rank, text_le_eq]

end Segment

namespace RuleNumber

/-- Keys compare as the lists of their segments' places. -/
theorem le_eq (k k' : RuleNumber) :
    k.le k' = decide (k.map Segment.rank ≤ k'.map Segment.rank) := by
  induction k generalizing k' with
  | nil => exact (decide_eq_true (not_lt.mp (List.not_lt_nil _))).symm
  | cons s rest ih =>
      cases k' with
      | nil => exact (decide_eq_false (not_le.mpr (List.nil_lt_cons _ _))).symm
      | cons s' rest' =>
          rw [le, List.map_cons, List.map_cons]
          by_cases hsame : s = s'
          · subst hsame
            simp [ih, Finding.cons_le_cons_iff_lex]
          · have hne : s.rank ≠ s'.rank := fun h => hsame (Segment.rank_injective h)
            simp [Segment.le_eq, Finding.cons_le_cons_iff_lex, hsame, hne, lt_iff_le_and_ne]

end RuleNumber

/-! ## Comparing without mixing -/

namespace Segment

/-- Numbers compare with numbers and words with words; a number and a word do NOT compare. -/
def precedes? : Segment → Segment → Option Bool
  | .number m, .number n => some (m < n)
  | .word t, .word u => some (t < u)
  | _, _ => none

/-- The flag that a segment is filed under. -/
def flag : Segment → Nat
  | .number _ => 0
  | .word _ => 1

/-- Flags are compared first, and segments only under the same flag. -/
def filedBefore? (s s' : Segment) : Option Bool :=
  if s.flag = s'.flag then s.precedes? s' else some (s.flag < s'.flag)

theorem filedBefore?_eq (s s' : Segment) : s.filedBefore? s' = some (!s'.le s) := by
  rw [le_eq]
  cases s with
  | number m =>
      cases s' with
      | number n => simp [filedBefore?, flag, precedes?, rank, ← decide_not]
      | word u => simp [filedBefore?, flag, rank]
  | word t =>
      cases s' with
      | number n => simp [filedBefore?, flag, rank]
      | word u => simp [filedBefore?, flag, precedes?, rank, ← decide_not]

end Segment

namespace RuleNumber

/-- Whether a key comes before another, found by looking for the first segments that differ;
    there is no answer if these do not compare. -/
def precedes? : RuleNumber → RuleNumber → Option Bool
  | _, [] => some false
  | [], _ :: _ => some true
  | s :: rest, s' :: rest' => if s = s' then precedes? rest rest' else s.filedBefore? s'

/-- **THERE IS ALWAYS AN ANSWER**, and it is the order of keys: no number is set against a word. -/
theorem precedes?_eq (k k' : RuleNumber) : precedes? k k' = some (!k'.le k) := by
  induction k generalizing k' with
  | nil => cases k' <;> rfl
  | cons s rest ih =>
      cases k' with
      | nil => rfl
      | cons s' rest' =>
          rw [precedes?, le]
          by_cases hsame : s = s'
          · rw [if_pos hsame, if_pos hsame.symm]
            exact ih rest'
          · rw [if_neg hsame, if_neg (Ne.symm hsame)]
            exact s.filedBefore?_eq s'

/-- The rule has a segment of digits that is no numeral. -/
def Refused (rule : Text) : Prop := ∃ part ∈ splitOn '.' rule, Segment.Unreadable part

end RuleNumber

/-! ## Findings -/

/-- Where every step is known when it succeeds, so is the whole. -/
theorem mapM_eq_ok_iff {α β ε : Type} {f : α → Except ε β} {p : α → Prop} {g : α → β}
    (h : ∀ a b, f a = .ok b ↔ p a ∧ b = g a) {xs : List α} {ys : List β} :
    xs.mapM f = .ok ys ↔ (∀ x ∈ xs, p x) ∧ ys = xs.map g := by
  induction xs generalizing ys with
  | nil =>
      show Except.ok [] = Except.ok ys ↔ _
      simp [eq_comm]
  | cons x rest ih =>
      have hstep : (x :: rest).mapM f = .ok ys ↔
          ∃ y, f x = .ok y ∧ ∃ more, rest.mapM f = .ok more ∧ y :: more = ys := by
        rw [List.mapM_cons]
        cases f x with
        | error fault => simp [bind, Except.bind]
        | ok y =>
            cases rest.mapM f with
            | error fault => simp [bind, Except.bind]
            | ok more => simp [bind, Except.bind, pure, Except.pure]
      rw [hstep]
      simp only [h, ih, List.forall_mem_cons, List.map_cons]
      constructor
      · rintro ⟨_, ⟨hx, rfl⟩, _, ⟨hrest, rfl⟩, rfl⟩
        exact ⟨⟨hx, hrest⟩, rfl⟩
      · rintro ⟨⟨hx, hrest⟩, rfl⟩
        exact ⟨_, ⟨hx, rfl⟩, _, ⟨hrest, rfl⟩, rfl⟩

namespace Finding

/-- The place of a finding in the listing: by severity, then by the segments of its rule. -/
def position (finding : Finding) : ℕ ×ₗ List (ℕ ⊕ₗ List Char) :=
  toLex (finding.severity.order,
    (splitOn '.' finding.rule).map fun part => (Segment.ofPart part).rank)

/-- The finding under the segments of its rule. -/
def filed (finding : Finding) : Keyed :=
  ⟨(splitOn '.' finding.rule).map Segment.ofPart, finding⟩

theorem ofRule_eq_ok_iff {rule : Text} {key : RuleNumber} :
    RuleNumber.ofRule rule = .ok key ↔
      ¬ RuleNumber.Refused rule ∧ key = (splitOn '.' rule).map Segment.ofPart := by
  rw [RuleNumber.ofRule, mapM_eq_ok_iff fun part segment => Segment.read_eq_ok_iff]
  simp [RuleNumber.Refused]

theorem keyed_eq_ok_iff (finding : Finding) (key : Keyed) :
    finding.keyed = .ok key ↔ ¬ RuleNumber.Refused finding.rule ∧ key = finding.filed := by
  rw [keyed]
  cases hrule : RuleNumber.ofRule finding.rule with
  | error fault =>
      have hrefused : RuleNumber.Refused finding.rule := by
        by_contra h
        rw [ofRule_eq_ok_iff.mpr ⟨h, rfl⟩] at hrule
        cases hrule
      simp [Except.map, hrefused]
  | ok number =>
      obtain ⟨hnot, rfl⟩ := ofRule_eq_ok_iff.mp hrule
      simp [Except.map, hnot, filed, eq_comm]

theorem le_filed (a b : Finding) :
    Keyed.le a.filed b.filed = decide (a.position ≤ b.position) := by
  have hkeys := RuleNumber.le_eq a.filed.key b.filed.key
  rw [filed, filed, List.map_map, List.map_map] at hkeys
  exact Keyed.le_eq hkeys

theorem mapM_keyed_eq_ok_iff {findings : List Finding} {keys : List Keyed} :
    findings.mapM keyed = .ok keys ↔
      (∀ finding ∈ findings, ¬ RuleNumber.Refused finding.rule) ∧ keys = findings.map filed :=
  mapM_eq_ok_iff keyed_eq_ok_iff

/-- Findings can be listed or one of them has a rule that is refused. -/
theorem exists_sort_eq_error_iff {findings : List Finding} :
    (∃ fault, sort findings = .error fault) ↔
      ∃ finding ∈ findings, RuleNumber.Refused finding.rule := by
  rw [sort]
  cases hmap : findings.mapM keyed with
  | error fault =>
      refine iff_of_true ⟨fault, rfl⟩ ?_
      by_contra hnone
      push Not at hnone
      rw [mapM_keyed_eq_ok_iff.mpr ⟨hnone, rfl⟩] at hmap
      cases hmap
  | ok keys =>
      refine iff_of_false (by rintro ⟨fault, ⟨⟩⟩) ?_
      rintro ⟨finding, hmem, hrefused⟩
      exact (mapM_keyed_eq_ok_iff.mp hmap).1 finding hmem hrefused

theorem stableSort_position {findings : List Finding}
    (h : ∀ finding ∈ findings, ¬ RuleNumber.Refused finding.rule) :
    ∃ sorted, sort findings = .ok sorted ∧ StableSort position findings sorted :=
  stableSort_sort_of_keys (mapM_keyed_eq_ok_iff.mpr ⟨h, rfl⟩) (fun _ => rfl) le_filed

namespace Keyed

/-- The place of a finding under its key. -/
def rank (keyed : Keyed) : ℕ ×ₗ List (ℕ ⊕ₗ List Char) :=
  toLex (keyed.finding.severity.order, keyed.key.map Segment.rank)

theorem le_iff (a b : Keyed) : a.le b = true ↔ a.rank ≤ b.rank := by
  rw [Keyed.le_eq (RuleNumber.le_eq a.key b.key), decide_eq_true_iff]
  exact Iff.rfl

end Keyed

/-- **LISTING UNDER ANY RULES**: it is refused exactly if a rule has a segment of digits that is no
    numeral, one of them being a digit by shape only or all of them too many, and otherwise it is
    the stable sort by position.  The keys are in a total preorder that never sets a number
    against a word. -/
theorem sort_any_rules (findings : List Finding) :
    ((∃ fault, sort findings = .error fault) ↔
      ∃ finding ∈ findings, ∃ part ∈ splitOn '.' finding.rule, Segment.Unreadable part) ∧
    (∀ part, Segment.Unreadable part ↔ Segment.isDigits part = true ∧
      ((∃ c ∈ part, decimalValue? c = none) ∨ 4300 < part.length)) ∧
    ((∃ finding ∈ findings, ∃ part ∈ splitOn '.' finding.rule, Segment.Unreadable part) ∨
      ∃ sorted, sort findings = .ok sorted ∧ StableSort position findings sorted) ∧
    (∀ a b : Keyed, a.le b = true ∨ b.le a = true) ∧
    (∀ a b c : Keyed, a.le b = true → b.le c = true → a.le c = true) ∧
    ∀ k k' : RuleNumber, k.precedes? k' = some (!k'.le k) := by
  refine ⟨exists_sort_eq_error_iff, fun part => Segment.unreadable_iff, ?_, ?_, ?_,
    RuleNumber.precedes?_eq⟩
  · by_cases h : ∃ finding ∈ findings, RuleNumber.Refused finding.rule
    · exact Or.inl h
    · push Not at h
      exact Or.inr (stableSort_position h)
  · intro a b
    rw [Keyed.le_iff, Keyed.le_iff]
    exact le_total a.rank b.rank
  · intro a b c hab hbc
    rw [Keyed.le_iff] at *
    exact le_trans hab hbc

/-- Findings under rules of numbers, one in another script, and of words. -/
def motley : List Finding :=
  [⟨.should, "2.x", "a.php:1", []⟩, ⟨.should, "10", "a.php:2", []⟩, ⟨.should, "2.1", "a.php:3", []⟩,
    ⟨.must, "z", "a.php:4", []⟩, ⟨.should, "2", "a.php:5", []⟩, ⟨.should, "٢.01", "a.php:6", []⟩]

/-- The same findings as they are listed. -/
def motleySorted : List Finding :=
  [⟨.must, "z", "a.php:4", []⟩, ⟨.should, "2", "a.php:5", []⟩, ⟨.should, "2.1", "a.php:3", []⟩,
    ⟨.should, "٢.01", "a.php:6", []⟩, ⟨.should, "2.x", "a.php:1", []⟩,
    ⟨.should, "10", "a.php:2", []⟩]

/-- A number of two scripts keeps its place among equals, and a superscript is refused. -/
theorem sort_any_rules_motley :
    sort motley = .ok motleySorted ∧ StableSort position motley motleySorted ∧
      ∃ fault, sort [⟨.may, "1.²", "a.php:1", []⟩] = .error fault := by
  have hsort : sort motley = .ok motleySorted := by cbv
  obtain ⟨hrefused, -, hlisted, -⟩ := sort_any_rules motley
  refine ⟨hsort, ?_, ?_⟩
  · rcases hlisted with hrefusal | ⟨sorted, hok, hstable⟩
    · obtain ⟨fault, herror⟩ := hrefused.mpr hrefusal
      cases hsort.symm.trans herror
    · obtain rfl := Except.ok.inj (hsort.symm.trans hok)
      exact hstable
  · obtain ⟨hrefused, hunreadable, -⟩ := sort_any_rules [⟨.may, "1.²", "a.php:1", []⟩]
    refine hrefused.mpr ⟨_, List.mem_singleton.mpr rfl, ['²'], by decide, ?_⟩
    exact (hunreadable ['²']).mpr ⟨by decide, Or.inl ⟨'²', by simp, by decide⟩⟩

end Finding

end DocAudit
