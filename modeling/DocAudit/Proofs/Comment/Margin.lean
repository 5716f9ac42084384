import DocAudit.Comment.Parser
import DocAudit.Proofs.Text.Lines
import DocAudit.Proofs.Text.Trim

/-! # The margin — what a description loses on its left

    The margin of a list of lines is a NUMBER, and it is cut off by count.  That is
    harmless because no line that is not blank is indented less, so only blanks
    are ever cut off. -/

namespace DocAudit.Comment

open Text

/-- A line that is not blank is indented at least as far as the margin. -/
theorem margin_le_indentation {ls : List Text} {line : Text} (hmem : line ∈ ls)
    (hline : trim line ≠ []) : margin ls ≤ indentation line := by
  have hin : indentation line
      ∈ (ls.filter fun line => !(trim line).isEmpty).map indentation := by
    refine List.mem_map_of_mem (List.mem_filter.mpr ⟨hmem, ?_⟩)
    simpa using hline
  rw [margin]
  cases hmin : ((ls.filter fun line => !(trim line).isEmpty).map indentation).min? with
  | none =>
      rw [List.min?_eq_none_iff.mp hmin] at hin
      exact nomatch hin
  | some width => exact (List.min?_eq_some_iff.mp hmin).2 _ hin

/-- Only blanks stand in the margin. -/
theorem isBlank_of_mem_margin {ls : List Text} {line : Text} (hmem : line ∈ ls) {c : Char}
    (hc : c ∈ line.take (margin ls)) : isBlank c = true := by
  by_cases hline : trim line = []
  · exact trim_eq_nil_iff.mp hline c (List.mem_of_mem_take hc)
  · have hle := margin_le_indentation hmem hline
    -- the margin ends inside the leading blanks
    have hblanks : line.take (indentation line) = line.takeWhile isBlank :=
      take_length_takeWhile isBlank line
    have hsub : c ∈ line.takeWhile isBlank := by
      rw [← hblanks]
      exact (List.take_subset_take_left line hle) hc
    exact List.mem_takeWhile_imp hsub

/-- One line that is not blank and not indented is enough: there is no margin then. -/
theorem margin_eq_zero {ls : List Text} {c : Char} {rest : Text} (hmem : (c :: rest) ∈ ls)
    (hc : isBlank c = false) : margin ls = 0 := by
  have hline : trim (c :: rest) ≠ [] := by
    intro hnil
    have := trim_eq_nil_iff.mp hnil c List.mem_cons_self
    rw [hc] at this
    exact nomatch this
  have hle := margin_le_indentation hmem hline
  have hzero : indentation (c :: rest) = 0 := by
    rw [indentation, List.takeWhile_cons_of_neg (by simp [hc])]
    rfl
  omega

/-- Without a margin the lines are joined as they are. -/
theorem withoutMargin_of_margin_eq_zero {ls : List Text} (h : margin ls = 0) :
    withoutMargin ls = trim (joinLines ls) := by
  have hsame : ls.map (fun line => line.drop 0) = ls := by simp
  show trim (joinLines (ls.map (fun line => line.drop (margin ls)))) = trim (joinLines ls)
  rw [h, hsame]

end DocAudit.Comment
