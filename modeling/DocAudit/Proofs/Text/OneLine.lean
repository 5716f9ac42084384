import DocAudit.Proofs.Text.Lines
import DocAudit.Text.Numeral

/-! # One line — texts without a line feed

    A report is a list of lines joined by line feeds.  It can be cut back into them
    as far as they hold no line feed of their own (`splitOn_join`); a
    text that does is cut further.

    Everything that the report writes outside fences stays on ONE LINE; of numerals this is
    shown here. -/

namespace DocAudit.Text

variable {s t : Text}

/-- The text holds no line feed. -/
def OneLine (t : Text) : Prop := '\n' ∉ t

instance (t : Text) : Decidable (OneLine t) := inferInstanceAs (Decidable ('\n' ∉ t))

@[simp] theorem oneLine_nil : OneLine [] := List.not_mem_nil

@[simp] theorem oneLine_cons {c : Char} : OneLine (c :: t) ↔ c ≠ '\n' ∧ OneLine t := by
  rw [OneLine, OneLine, List.mem_cons, not_or, ne_comm]

@[simp] theorem oneLine_append : OneLine (s ++ t) ↔ OneLine s ∧ OneLine t := by
  rw [OneLine, OneLine, OneLine, List.mem_append, not_or]

/-! ## Cutting at line feeds -/

theorem splitOn_append_sep (sep : Char) (s t : Text) :
    splitOn sep (s ++ sep :: t) = splitOn sep s ++ splitOn sep t := by
  induction s with
  | nil =>
      show splitOn sep (sep :: t) = [[]] ++ splitOn sep t
      rw [splitOn, if_pos rfl]
      rfl
  | cons c rest ih =>
      rw [List.cons_append, splitOn, splitOn]
      by_cases hc : c = sep
      · rw [if_pos hc, if_pos hc, ih]
        rfl
      · rw [if_neg hc, if_neg hc, ih]
        cases hrest : splitOn sep rest with
        | nil => exact absurd hrest (splitOn_ne_nil sep rest)
        | cons first more => rfl

/-- Cutting a joined text gives the parts of its texts. -/
theorem splitOn_join (sep : Char) {ts : List Text} (hne : ts ≠ []) :
    splitOn sep (join [sep] ts) = ts.flatMap (splitOn sep) := by
  induction ts with
  | nil => exact absurd rfl hne
  | cons t rest ih =>
      by_cases hr : rest = []
      · subst hr
        simp
      · rw [join_cons_of_ne_nil _ t hr, List.append_assoc, List.singleton_append,
          splitOn_append_sep, ih hr, List.flatMap_cons]

/-- A text without the separator is its only part. -/
theorem splitOn_of_not_mem {sep : Char} (h : sep ∉ t) : splitOn sep t = [t] := by
  induction t with
  | nil => rfl
  | cons c rest ih =>
      rw [List.mem_cons, not_or] at h
      obtain ⟨hc, hrest⟩ := h
      rw [splitOn, if_neg (Ne.symm hc), ih hrest]
      rfl

/-- A text on one line is its only line. -/
theorem OneLine.splitOn (h : OneLine t) : Text.splitOn '\n' t = [t] := splitOn_of_not_mem h

/-- Only a text on one line is its only line. -/
theorem splitOn_eq_singleton_iff {line : Text} :
    Text.splitOn '\n' t = [line] ↔ OneLine t ∧ line = t := by
  constructor
  · intro h
    have hjoin := join_splitOn '\n' t
    rw [h, join_singleton] at hjoin
    have hline : OneLine line := not_mem_of_mem_splitOn (h ▸ List.mem_singleton_self line)
    exact ⟨hjoin ▸ hline, hjoin⟩
  · rintro ⟨h, rfl⟩
    exact h.splitOn

/-! ## Numerals -/

theorem isDigit_of_mem_ofNat {n : Nat} {c : Char} (h : c ∈ Numeral.ofNat n) : c.isDigit = true :=
  Nat.isDigit_of_mem_toDigits (by decide) (by decide) h

theorem oneLine_ofNat (n : Nat) : OneLine (Numeral.ofNat n) := fun hfeed =>
  absurd (isDigit_of_mem_ofNat hfeed) (by decide)

theorem oneLine_ofInt (n : Int) : OneLine (Numeral.ofInt n) := by
  cases n with
  | ofNat n => exact oneLine_ofNat n
  | negSucc n => exact oneLine_cons.mpr ⟨by decide, oneLine_ofNat (n + 1)⟩

end DocAudit.Text
