import DocAudit.Text.Blank
import DocAudit.Text.Lines
import DocAudit.Text.WordChar
import Mathlib.Data.List.DropRight

/-! # Trimming — what goes and what stays

    Trimming takes characters of ONE class off the ends of a text.  So a filter that
    refuses the class sees no difference, a text whose ends lie outside the class
    is left alone, and the first character that survives is the first one outside
    the class.

    The last section compares classes: every line break is blank, and no blank
    is a word character. -/

namespace DocAudit.Text

variable {p q : Char → Bool}

theorem trimBy_eq_rdropWhile (p : Char → Bool) (t : Text) :
    trimBy p t = (t.dropWhile p).rdropWhile p := rfl

theorem trimRight_eq_rdropWhile (t : Text) : trimRight t = t.rdropWhile isBlank := rfl

/-! ## Filters look through trimming -/

/-- A filter that refuses a class does not see its leading characters go. -/
theorem filter_dropWhile (hpq : ∀ c, p c = true → q c = false) (t : Text) :
    (t.dropWhile p).filter q = t.filter q := by
  induction t with
  | nil => rfl
  | cons c rest ih =>
      by_cases hc : p c = true
      · rw [List.dropWhile_cons_of_pos hc, ih, List.filter_cons_of_neg (by simp [hpq c hc])]
      · rw [List.dropWhile_cons_of_neg hc]

/-- A filter that refuses a class does not see its trailing characters go. -/
theorem filter_rdropWhile (hpq : ∀ c, p c = true → q c = false) (t : Text) :
    (t.rdropWhile p).filter q = t.filter q := by
  rw [List.rdropWhile, List.filter_reverse, filter_dropWhile hpq, List.filter_reverse,
    List.reverse_reverse]

/-- A filter that refuses a class does not see the class trimmed off. -/
theorem filter_trimBy (hpq : ∀ c, p c = true → q c = false) (t : Text) :
    (trimBy p t).filter q = t.filter q := by
  rw [trimBy_eq_rdropWhile, filter_rdropWhile hpq, filter_dropWhile hpq]

/-! ## Texts that trimming leaves alone -/

/-- The back is left alone exactly if the last character lies outside the class. -/
theorem rdropWhile_eq_self_iff_getLast? {t : Text} :
    t.rdropWhile p = t ↔ ∀ c, t.getLast? = some c → p c = false := by
  rw [List.rdropWhile_eq_self_iff]
  constructor
  · intro h c hc
    have hne : t ≠ [] := by
      rintro rfl
      exact nomatch hc
    have hlast : t.getLast hne = c := by
      rw [List.getLast?_eq_some_getLast hne] at hc
      exact Option.some.inj hc
    rw [← hlast]
    simpa using h hne
  · intro h hne
    simp [h _ (List.getLast?_eq_some_getLast hne)]

/-- What trimming leaves alone keeps its front. -/
theorem dropWhile_eq_self_of_trimBy {t : Text} (h : trimBy p t = t) : t.dropWhile p = t := by
  refine (List.dropWhile_suffix p).eq_of_length_le ?_
  calc t.length = ((t.dropWhile p).rdropWhile p).length := by rw [← trimBy_eq_rdropWhile, h]
    _ ≤ (t.dropWhile p).length := (List.rdropWhile_prefix p _).length_le

/-- Trimming leaves a text alone exactly if its two ends lie outside the class. -/
theorem trimBy_eq_self_iff {t : Text} :
    trimBy p t = t ↔
      (∀ c, t.head? = some c → p c = false) ∧ ∀ c, t.getLast? = some c → p c = false := by
  constructor
  · intro h
    have hfront := dropWhile_eq_self_of_trimBy h
    refine ⟨?_, ?_⟩
    · intro c hc
      have := List.head?_dropWhile_not p t
      rw [hfront, hc] at this
      exact this
    · rw [trimBy_eq_rdropWhile, hfront] at h
      exact rdropWhile_eq_self_iff_getLast?.mp h
  · rintro ⟨hhead, hlast⟩
    have hfront : t.dropWhile p = t := by
      cases t with
      | nil => rfl
      | cons c rest => exact List.dropWhile_cons_of_neg (by simp [hhead c rfl])
    rw [trimBy_eq_rdropWhile, hfront]
    exact rdropWhile_eq_self_iff_getLast?.mpr hlast

/-- Trailing blanks are dropped from none exactly if the last character is not blank. -/
theorem trimRight_eq_self_iff {t : Text} :
    trimRight t = t ↔ ∀ c, t.getLast? = some c → isBlank c = false := by
  rw [trimRight_eq_rdropWhile]
  exact rdropWhile_eq_self_iff_getLast?

/-- What is left after trimming stands in the text as it is. -/
theorem infix_trimBy (p : Char → Bool) (t : Text) : trimBy p t <:+: t :=
  (List.rdropWhile_prefix p _).isInfix.trans (List.dropWhile_suffix p).isInfix

/-- Trimming keeps the first character outside the class. -/
theorem head?_trimBy (p : Char → Bool) (t : Text) :
    (trimBy p t).head? = (t.dropWhile p).head? := by
  rw [trimBy_eq_rdropWhile]
  cases hd : t.dropWhile p with
  | nil => rfl
  | cons c rest =>
      have hc := List.head?_dropWhile_not p t
      rw [hd] at hc
      obtain ⟨post, hpost⟩ := List.rdropWhile_prefix p (c :: rest)
      cases hr : (c :: rest).rdropWhile p with
      | nil =>
          have hb := List.rdropWhile_eq_nil_iff.mp hr c List.mem_cons_self
          exact absurd hb (by rw [show p c = false from hc]; simp)
      | cons d more =>
          rw [hr] at hpost
          exact congrArg some (List.cons.inj hpost).1

/-- Trimming twice is trimming once. -/
theorem trimBy_trimBy (p : Char → Bool) (t : Text) : trimBy p (trimBy p t) = trimBy p t := by
  refine trimBy_eq_self_iff.mpr ⟨?_, ?_⟩
  · intro c hc
    have hfront := List.head?_dropWhile_not p t
    rw [← head?_trimBy, hc] at hfront
    exact hfront
  · exact rdropWhile_eq_self_iff_getLast?.mp (List.rdropWhile_idempotent p _)

/-- The back of a text that ends visibly ends visibly. -/
theorem trimRight_of_suffix {t back : Text} (h : trimRight t = t) (hback : back <:+ t) :
    trimRight back = back := by
  obtain ⟨front, rfl⟩ := hback
  refine trimRight_eq_self_iff.mpr ?_
  intro c hc
  have hne : back ≠ [] := by
    rintro rfl
    exact nomatch hc
  refine trimRight_eq_self_iff.mp h c ?_
  rw [List.getLast?_append_of_ne_nil _ hne]
  exact hc

/-- A front that ends visibly stays as it is. -/
theorem trimRight_append_of_visible {front : Text} (h : trimRight front = front) (back : Text) :
    trimRight (front ++ back) = front ++ trimRight back := by
  have hfront : front.reverse.dropWhile isBlank = front.reverse :=
    List.reverse_eq_iff.mp h
  rw [trimRight, trimRight, List.reverse_append, List.dropWhile_append]
  by_cases hback : (back.reverse.dropWhile isBlank).isEmpty = true
  · rw [if_pos hback, hfront, List.isEmpty_iff.mp hback]
    simp
  · rw [if_neg hback]
    simp

/-- Trailing blanks do not matter to where the first word ends. -/
theorem takeWhile_trimRight (t : Text) :
    (trimRight t).takeWhile (fun c => !isBlank c) = t.takeWhile fun c => !isBlank c := by
  have hcut : trimRight t ++ t.rtakeWhile isBlank = t := List.rdropWhile_append_rtakeWhile
  have hback : (t.rtakeWhile isBlank).takeWhile (fun c => !isBlank c) = [] := by
    refine List.takeWhile_eq_nil_iff.mpr ?_
    intro hpos
    have hblank : isBlank (t.rtakeWhile isBlank)[0] = true :=
      List.mem_rtakeWhile_imp (List.getElem_mem hpos)
    simp [hblank]
  conv_rhs => rw [← hcut, List.takeWhile_append, hback, List.append_nil]
  split
  · rename_i hall
    exact (List.takeWhile_prefix _).eq_of_length hall
  · rfl

/-! ## Blanks around a text -/

/-- Characters of the class in front do not matter. -/
theorem trimBy_append_left {pre : Text} (hpre : ∀ c ∈ pre, p c = true) (t : Text) :
    trimBy p (pre ++ t) = trimBy p t := by
  rw [trimBy_eq_rdropWhile, trimBy_eq_rdropWhile, List.dropWhile_append_of_pos hpre]

/-- Characters of the class behind do not matter. -/
theorem trimBy_append_right {post : Text} (hpost : ∀ c ∈ post, p c = true) (t : Text) :
    trimBy p (t ++ post) = trimBy p t := by
  rw [trimBy_eq_rdropWhile, trimBy_eq_rdropWhile]
  have hnil : post.dropWhile p = [] := List.dropWhile_eq_nil_iff.mpr hpost
  rw [List.dropWhile_append]
  by_cases h : (t.dropWhile p).isEmpty = true
  · rw [if_pos h, hnil, List.isEmpty_iff.mp h]
  · rw [if_neg h, List.rdropWhile, List.reverse_append, List.dropWhile_append_of_pos]
    · rfl
    · intro c hc
      exact hpost c (List.mem_reverse.mp hc)

/-- Blanks in front do not matter. -/
theorem trim_append_of_blank {pre : Text} (hpre : ∀ c ∈ pre, isBlank c = true) (t : Text) :
    trim (pre ++ t) = trim t := trimBy_append_left hpre t

/-- Blanks behind do not matter. -/
theorem trim_blank_after {post : Text} (hpost : ∀ c ∈ post, isBlank c = true) (t : Text) :
    trim (t ++ post) = trim t := trimBy_append_right hpost t

/-- A text is trimmed away exactly if it lies in the class. -/
theorem trimBy_eq_nil_iff {t : Text} : trimBy p t = [] ↔ ∀ c ∈ t, p c = true := by
  rw [trimBy_eq_rdropWhile, List.rdropWhile_eq_nil_iff]
  constructor
  · intro h
    rw [← List.dropWhile_eq_nil_iff]
    cases hd : t.dropWhile p with
    | nil => rfl
    | cons c rest =>
        -- the first character that is left lies outside the class
        have hc := List.head?_dropWhile_not p t
        rw [hd] at hc h
        exact absurd (h c List.mem_cons_self) (by rw [show p c = false from hc]; simp)
  · intro h c hc
    rw [List.dropWhile_eq_nil_iff.mpr h] at hc
    exact nomatch hc

theorem trim_eq_nil_iff {t : Text} : trim t = [] ↔ ∀ c ∈ t, isBlank c = true := trimBy_eq_nil_iff

/-- Trimming by a class and then by a larger one is trimming by the larger one. -/
theorem trimBy_trimBy_of_imp (hpq : ∀ c, p c = true → q c = true) (t : Text) :
    trimBy q (trimBy p t) = trimBy q t := by
  have hfront : ∀ c ∈ t.takeWhile p, q c = true := fun c hc => hpq c (List.mem_takeWhile_imp hc)
  have hback : ∀ c ∈ (t.dropWhile p).rtakeWhile p, q c = true :=
    fun c hc => hpq c (List.mem_rtakeWhile_imp hc)
  calc trimBy q (trimBy p t)
      = trimBy q (trimBy p t ++ (t.dropWhile p).rtakeWhile p) := (trimBy_append_right hback _).symm
    _ = trimBy q (t.dropWhile p) := by
        rw [trimBy_eq_rdropWhile p, List.rdropWhile_append_rtakeWhile]
    _ = trimBy q (t.takeWhile p ++ t.dropWhile p) := (trimBy_append_left hfront _).symm
    _ = trimBy q t := by rw [List.takeWhile_append_dropWhile]

/-- Trimming keeps the first character that is not blank. -/
theorem head?_trim (t : Text) : (trim t).head? = (trimLeft t).head? := head?_trimBy isBlank t

/-! ## Classes compared -/

/-- Every line break is blank. -/
theorem isBlank_of_isLineBreak {c : Char} (h : isLineBreak c = true) : isBlank c = true := by
  simp only [isLineBreak, Bool.or_eq_true, Bool.and_eq_true, decide_eq_true_eq, beq_iff_eq] at h
  simp only [isBlank, Bool.or_eq_true, Bool.and_eq_true, decide_eq_true_eq, beq_iff_eq]
  omega

/-- All blanks. -/
def blanks : Text :=
  [9, 10, 11, 12, 13, 28, 29, 30, 31, 32, 0x85, 0xA0, 0x1680, 0x2000, 0x2001, 0x2002, 0x2003,
    0x2004, 0x2005, 0x2006, 0x2007, 0x2008, 0x2009, 0x200A, 0x2028, 0x2029, 0x202F, 0x205F,
    0x3000].map Char.ofNat

theorem isBlank_iff_mem_blanks {c : Char} : isBlank c = true ↔ c ∈ blanks := by
  constructor
  · intro h
    refine List.mem_map.mpr ⟨c.toNat, ?_, Char.ofNat_toNat c⟩
    simp only [isBlank, Bool.or_eq_true, Bool.and_eq_true, decide_eq_true_eq, beq_iff_eq] at h
    simp only [List.mem_cons, List.not_mem_nil, or_false]
    omega
  · exact List.all_eq_true.mp (show blanks.all isBlank = true by decide) c

/-- What holds of all blanks is checked by going through them. -/
theorem of_isBlank {P : Char → Prop} [DecidablePred P] (h : (blanks.all fun c => P c) = true)
    {c : Char} (hc : isBlank c = true) : P c :=
  of_decide_eq_true (List.all_eq_true.mp h c (isBlank_iff_mem_blanks.mp hc))

/-- No blank is a word character. -/
theorem isWordChar_of_isBlank {c : Char} (h : isBlank c = true) : isWordChar c = false := by
  have hall : (blanks.all fun d => isWordChar d = false) = true := by decide +kernel
  exact of_isBlank hall h

end DocAudit.Text
