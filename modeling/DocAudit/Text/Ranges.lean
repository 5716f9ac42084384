import DocAudit.Text.Basic

/-! # Ranges of code points

    A character class of the Unicode standard is a list of inclusive ranges of
    code points.  The class modules below state the ASCII part as a condition and
    leave the rest to such a list, so that a fact about ASCII characters never
    has to look into a table. -/

namespace DocAudit.Text

/-- Inclusive ranges of code points. -/
abbrev Ranges := List (Nat × Nat)

namespace Ranges

/-- Some range of the list holds the code point. -/
def holds (ranges : Ranges) (n : Nat) : Bool :=
  ranges.any fun r => r.1 ≤ n && n ≤ r.2

theorem holds_iff {ranges : Ranges} {n : Nat} :
    ranges.holds n = true ↔ ∃ r ∈ ranges, r.1 ≤ n ∧ n ≤ r.2 := by
  simp [holds]

end Ranges

end DocAudit.Text
