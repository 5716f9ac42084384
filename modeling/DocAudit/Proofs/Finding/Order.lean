import DocAudit.Finding.Order
import DocAudit.Proofs.Finding.Clauses
import Mathlib.Data.List.Lex
import Mathlib.Data.Prod.Lex

/-! # The order of findings — a stable sort

    The clauses of the standard are numbered with decimal numbers, so every finding about an
    element can be listed: its RANK is the severity and then the number of the clause, compared
    part by part.  On such findings the keys of the listing are ranks, and the listing
    is the stable sort by rank. -/

namespace DocAudit

open Text

/-- The list `after` is the list `before` in the order of a key, and what has the same key
    comes in the same order as before. -/
structure StableSort {α β : Type} [LinearOrder β] (key : α → β) (before after : List α) : Prop where
  perm : after.Perm before
  ordered : after.Pairwise fun a b => key a ≤ key b
  stable : ∀ k, after.filter (key · = k) = before.filter (key · = k)

/-- Merging sorts by a key of any linear order. -/
theorem stableSort_mergeSort {α β : Type} [LinearOrder β] (key : α → β) (xs : List α) :
    StableSort key xs (xs.mergeSort fun a b => key a ≤ key b) := by
  have htrans : ∀ a b c, decide (key a ≤ key b) = true → decide (key b ≤ key c) = true →
      decide (key a ≤ key c) = true := by
    intro a b c hab hbc
    exact decide_eq_true (le_trans (of_decide_eq_true hab) (of_decide_eq_true hbc))
  have htotal : ∀ a b, (decide (key a ≤ key b) || decide (key b ≤ key a)) = true := by
    intro a b
    simpa using le_total (key a) (key b)
  have hperm := List.mergeSort_perm xs fun a b => decide (key a ≤ key b)
  refine ⟨hperm, ?_, ?_⟩
  · exact (List.pairwise_mergeSort htrans htotal xs).imp of_decide_eq_true
  · intro k
    -- the findings of one key are in order already, so they survive as a subsequence
    have hclass : (xs.filter (key · = k)).Pairwise fun a b => decide (key a ≤ key b) = true := by
      refine List.pairwise_of_forall_mem_list ?_
      intro a ha b hb
      have hak : key a = k := of_decide_eq_true (List.mem_filter.mp ha).2
      have hbk : key b = k := of_decide_eq_true (List.mem_filter.mp hb).2
      exact decide_eq_true (le_of_eq (hak.trans hbk.symm))
    have hsub := List.sublist_mergeSort htrans htotal hclass List.filter_sublist
    have hfiltered := hsub.filter (key · = k)
    rw [List.filter_filter] at hfiltered
    simp only [Bool.and_self] at hfiltered
    exact (hfiltered.eq_of_length (hperm.filter _).length_eq.symm).symm

/-! ## Ranks -/

/-- The number of a clause, part by part. -/
def clauseNumber (rule : Text) : List Nat :=
  (splitOn '.' rule).map fun part => Numeral.value (part.map fun c => c.toNat - 48)

namespace Finding

/-- The position of a finding in the listing: by severity, then by the number of its clause. -/
def rank (finding : Finding) : ℕ ×ₗ List ℕ :=
  toLex (finding.severity.order, clauseNumber finding.rule)

theorem ofRule_of_mem {rule : Text} (h : rule ∈ clauseNumbers) :
    RuleNumber.ofRule rule = .ok ((clauseNumber rule).map .number) := by
  simp only [clauseNumbers, List.mem_cons, List.not_mem_nil, or_false] at h
  rcases h with rfl | rfl | rfl | rfl | rfl <;> rfl

/-- The finding under its rank. -/
def ranked (finding : Finding) : Keyed := ⟨(clauseNumber finding.rule).map .number, finding⟩

theorem keyed_of_mem {finding : Finding} (h : finding.rule ∈ clauseNumbers) :
    finding.keyed = .ok finding.ranked := by
  rw [keyed, ofRule_of_mem h]
  rfl

theorem cons_le_cons_iff_lex {α : Type} [LinearOrder α] (m n : α) (ms ns : List α) :
    m :: ms ≤ n :: ns ↔ m < n ∨ m = n ∧ ms ≤ ns := by
  rw [← not_lt, ← not_lt, List.cons_lt_cons_iff]
  constructor
  · intro h
    rcases lt_trichotomy m n with hmn | rfl | hnm
    · exact Or.inl hmn
    · exact Or.inr ⟨rfl, fun hlt => h (Or.inr ⟨rfl, hlt⟩)⟩
    · exact absurd (Or.inl hnm) h
  · rintro (hlt | ⟨rfl, hle⟩) (hgt | ⟨heq, hgt⟩)
    · exact lt_asymm hlt hgt
    · exact hlt.ne heq.symm
    · exact lt_irrefl _ hgt
    · exact hle hgt

/-- Numbers compare as keys as they do as lists of numbers. -/
theorem le_map_number (ms ns : List Nat) :
    RuleNumber.le (ms.map .number) (ns.map .number) = decide (ms ≤ ns) := by
  induction ms generalizing ns with
  | nil =>
      have hnil : [] ≤ ns := not_lt.mp (List.not_lt_nil ns)
      simp [RuleNumber.le, hnil]
  | cons m ms ih =>
      cases ns with
      | nil =>
          have hcons : ¬ m :: ms ≤ [] := not_le.mpr (List.nil_lt_cons m ms)
          simp [RuleNumber.le, hcons]
      | cons n ns =>
          rw [List.map_cons, List.map_cons, RuleNumber.le]
          by_cases hmn : m = n
          · subst hmn
            simp [ih, cons_le_cons_iff_lex]
          · have hle : m ≤ n ↔ m < n := ⟨fun h => lt_of_le_of_ne h hmn, le_of_lt⟩
            simp [Segment.le, cons_le_cons_iff_lex, hmn, hle]

/-- Findings are compared by severity, and then as their keys are. -/
theorem Keyed.le_eq {β : Type} [LinearOrder β] {a b : Keyed} {p q : β}
    (h : a.key.le b.key = decide (p ≤ q)) :
    Keyed.le a b = decide (toLex (a.finding.severity.order, p)
      ≤ toLex (b.finding.severity.order, q)) := by
  have horder : a.finding.severity.order = b.finding.severity.order ↔
      a.finding.severity = b.finding.severity := by
    cases a.finding.severity <;> cases b.finding.severity <;> decide
  rw [Keyed.le]
  by_cases hsame : a.finding.severity = b.finding.severity
  · rw [if_pos hsame, h]
    simp [Prod.Lex.toLex_le_toLex, hsame]
  · rw [if_neg hsame]
    have hne : a.finding.severity.order ≠ b.finding.severity.order := fun h => hsame (horder.mp h)
    simp only [Prod.Lex.toLex_le_toLex, hne, false_and, or_false, decide_eq_decide]
    omega

theorem le_ranked (a b : Finding) : Keyed.le a.ranked b.ranked = decide (a.rank ≤ b.rank) :=
  Keyed.le_eq (le_map_number _ _)

theorem mapM_keyed {findings : List Finding}
    (h : ∀ finding ∈ findings, finding.rule ∈ clauseNumbers) :
    findings.mapM keyed = .ok (findings.map ranked) := by
  induction findings with
  | nil => rfl
  | cons finding rest ih =>
      rw [List.mapM_cons, keyed_of_mem (h finding List.mem_cons_self),
        ih fun f hf => h f (List.mem_cons_of_mem finding hf)]
      rfl

theorem map_finding_of_mapM_keyed {findings : List Finding} {keys : List Keyed}
    (h : findings.mapM keyed = .ok keys) : keys.map (·.finding) = findings := by
  induction findings generalizing keys with
  | nil =>
      obtain rfl := Except.ok.inj h
      rfl
  | cons finding rest ih =>
      rw [List.mapM_cons] at h
      cases hfirst : finding.keyed with
      | error fault =>
          rw [hfirst] at h
          exact nomatch h
      | ok key =>
          cases hrest : rest.mapM keyed with
          | error fault =>
              rw [hfirst, hrest] at h
              exact nomatch h
          | ok more =>
              rw [hfirst, hrest] at h
              obtain rfl := Except.ok.inj h
              have hkey : key.finding = finding := by
                rw [keyed] at hfirst
                cases hrule : RuleNumber.ofRule finding.rule with
                | error fault =>
                    rw [hrule] at hfirst
                    exact nomatch hfirst
                | ok number =>
                    rw [hrule] at hfirst
                    exact congrArg Keyed.finding (Except.ok.inj hfirst).symm
              rw [List.map_cons, hkey, ih hrest]

/-- Whatever the rules, listing loses and invents no finding. -/
theorem perm_of_sort {findings sorted : List Finding} (h : sort findings = .ok sorted) :
    sorted.Perm findings := by
  rw [sort] at h
  cases hkeys : findings.mapM keyed with
  | error fault =>
      rw [hkeys] at h
      exact nomatch h
  | ok keys =>
      rw [hkeys] at h
      obtain rfl := Except.ok.inj h
      have hperm := (List.mergeSort_perm keys Keyed.le).map (·.finding)
      rw [map_finding_of_mapM_keyed hkeys] at hperm
      exact hperm

theorem sort_nil : sort [] = .ok [] := by
  rw [sort, List.mapM_nil]
  show Except.ok (([] : List Keyed).mergeSort Keyed.le |>.map (·.finding)) = .ok []
  rw [List.mergeSort_nil]
  rfl

/-- Findings whose keys compare as their ranks do are listed by rank. -/
theorem stableSort_sort_of_keys {β : Type} [LinearOrder β] {findings : List Finding}
    {file : Finding → Keyed} {rank : Finding → β} (hkeys : findings.mapM keyed = .ok (findings.map file))
    (hfile : ∀ finding, (file finding).finding = finding)
    (hle : ∀ a b, Keyed.le (file a) (file b) = decide (rank a ≤ rank b)) :
    ∃ sorted, sort findings = .ok sorted ∧ StableSort rank findings sorted := by
  refine ⟨findings.mergeSort fun a b => rank a ≤ rank b, ?_, stableSort_mergeSort rank findings⟩
  have hmerge : ((findings.map file).mergeSort Keyed.le).map (·.finding)
      = findings.mergeSort fun a b => rank a ≤ rank b := by
    have hback : (findings.map file).map (·.finding) = findings := by
      simp [hfile, Function.comp_def]
    rw [List.map_mergeSort (s := fun a b => decide (rank a ≤ rank b)), hback]
    intro a ha b hb
    obtain ⟨x, -, rfl⟩ := List.mem_map.mp ha
    obtain ⟨y, -, rfl⟩ := List.mem_map.mp hb
    rw [hle, hfile, hfile]
  rw [sort, hkeys]
  exact congrArg Except.ok hmerge

/-- **LISTING IS A STABLE SORT BY RANK** and never fails on findings under the clauses of
    the standard. -/
theorem stableSort_sort {findings : List Finding}
    (h : ∀ finding ∈ findings, finding.rule ∈ clauseNumbers) :
    ∃ sorted, sort findings = .ok sorted ∧ StableSort rank findings sorted :=
  stableSort_sort_of_keys (mapM_keyed h) (fun _ => rfl) le_ranked

end Finding

end DocAudit
