import DocAudit.Comment.Parser
import DocAudit.Proofs.Text.Lines
import DocAudit.Proofs.Text.Trim
import Mathlib

/-! # Readable comments — when `parse` succeeds, and on what

    Each check of the reader is restated without the reader's own recursion: the marks
    as an equation on the trimmed text, the closing mark as a stretch of a line, inline
    tags as a cut of the text, tag names as the LONGEST run after the at sign.  The file
    ends with `parse_eq_ok_iff`, which every later statement about comments that
    can be read goes through. -/

namespace DocAudit.Comment

open Text

/-! ## Marks -/

/-- A comment has an interior exactly if it is marked at both ends, the marks apart. -/
theorem interior_eq_ok_iff {raw text : Text} :
    interior raw = .ok text ↔ trim raw = opening ++ text ++ closing := by
  rw [interior]
  constructor
  · intro h
    by_cases hopen : opening.isPrefixOf (trim raw) = true
    · by_cases hclose : (trim raw).length < opening.length + closing.length
          || !closing.isSuffixOf (trim raw)
      · simp [hopen, hclose] at h
      · simp only [hopen, Bool.not_true, Bool.false_eq_true, if_false, hclose] at h
        have htext := Except.ok.inj h
        simp only [Bool.or_eq_true, decide_eq_true_eq, Bool.not_eq_true', not_or, not_lt,
          Bool.not_eq_false] at hclose
        obtain ⟨rest, hrest⟩ := List.isPrefixOf_iff_prefix.mp hopen
        obtain ⟨front, hfront⟩ := List.isSuffixOf_iff_suffix.mp hclose.2
        -- the marks do not overlap, so the closing mark ends what follows the opening one
        have hlen : closing.length ≤ rest.length := by
          have := congrArg List.length hrest
          rw [List.length_append] at this
          omega
        have hsuffix : closing <:+ rest :=
          List.suffix_of_suffix_length_le ⟨front, hfront⟩ ⟨opening, hrest⟩ hlen
        obtain ⟨mid, rfl⟩ := hsuffix
        rw [← hrest, ← htext, ← hrest]
        simp [List.length_append]
    · simp [hopen] at h
  · intro h
    have hopen : opening.isPrefixOf (trim raw) = true :=
      List.isPrefixOf_iff_prefix.mpr ⟨text ++ closing, by rw [h, List.append_assoc]⟩
    have hclose : closing.isSuffixOf (trim raw) = true :=
      List.isSuffixOf_iff_suffix.mpr ⟨opening ++ text, h.symm⟩
    have hlen : (trim raw).length = opening.length + text.length + closing.length := by
      rw [h, List.length_append, List.length_append]
    have hlong : ¬ (trim raw).length < opening.length + closing.length := by omega
    simp only [hopen, hclose, hlong, decide_false, Bool.not_true, Bool.or_false,
      Bool.false_eq_true, if_false]
    have hmid : opening.length + text.length + closing.length - opening.length
        - closing.length = text.length := by omega
    rw [hlen, hmid, h]
    simp

/-- There is only one text between the marks. -/
theorem interior_unique {raw t u : Text} (ht : trim raw = opening ++ t ++ closing)
    (hu : trim raw = opening ++ u ++ closing) : t = u := by
  have hsame := ht.symm.trans hu
  rw [List.append_assoc, List.append_assoc] at hsame
  exact List.append_cancel_right (List.append_cancel_left hsame)

/-- A text between marks is trimmed already. -/
theorem trim_marked (text : Text) : trim (opening ++ text ++ closing) = opening ++ text ++ closing := by
  refine trimBy_eq_self_iff.mpr ⟨?_, ?_⟩
  · intro c hc
    obtain rfl : '/' = c := Option.some.inj hc
    decide
  · intro c hc
    rw [List.getLast?_append] at hc
    obtain rfl : '/' = c := Option.some.inj hc
    decide

/-! ## One piece -/

/-- No line holds a closing mark. -/
theorem closedEarly?_eq_none_iff {number : Nat} {ls : List Text} :
    closedEarly? number ls = none ↔ ∀ line ∈ ls, ¬ closing <:+: line := by
  induction ls generalizing number with
  | nil => simp [closedEarly?]
  | cons line rest ih =>
      rw [closedEarly?, List.forall_mem_cons, ← occurs_iff]
      by_cases h : occurs closing line = true
      · rw [if_pos h]
        simp [h]
      · rw [if_neg h, ih]
        simp [h]

/-- Behind every inline tag there is a closing brace. -/
def InlineClosed (t : Text) : Prop :=
  ∀ before after, t = before ++ '{' :: '@' :: after → '}' ∈ after

/-- One more character in front opens an inline tag only if it is a brace and an at sign
    follows it. -/
theorem inlineClosed_cons {c : Char} {rest : Text} :
    InlineClosed (c :: rest) ↔
      (c = '{' → rest.head? = some '@' → '}' ∈ rest) ∧ InlineClosed rest := by
  constructor
  · intro h
    refine ⟨?_, ?_⟩
    · rintro rfl hat
      obtain ⟨after, rfl⟩ := List.head?_eq_some_iff.mp hat
      exact List.mem_cons_of_mem _ (h [] after rfl)
    · rintro before after rfl
      exact h (c :: before) after rfl
  · rintro ⟨hhead, hrest⟩ before after heq
    cases before with
    | nil =>
        obtain ⟨rfl, rfl⟩ := List.cons.inj heq
        rcases List.mem_cons.mp (hhead rfl rfl) with hbad | hmem
        · exact absurd hbad (by decide)
        · exact hmem
    | cons b more => exact hrest more after (List.cons.inj heq).2

theorem inlineOpen?_eq_none_iff {number : Nat} {t : Text} :
    inlineOpen? number t = none ↔ InlineClosed t := by
  induction t generalizing number with
  | nil => simp [inlineOpen?, InlineClosed]
  | cons c rest ih =>
      rw [inlineOpen?, inlineClosed_cons]
      by_cases hc : c = '{'
      · rw [if_pos hc]
        by_cases hopen : rest.head? = some '@' ∧ '}' ∉ rest
        · rw [if_pos hopen]
          simp [hc, hopen.1, hopen.2]
        · rw [if_neg hopen, ih]
          have hshut : rest.head? = some '@' → '}' ∈ rest := by
            intro hat
            by_contra hno
            exact hopen ⟨hat, hno⟩
          exact ⟨fun hrest => ⟨fun _ => hshut, hrest⟩, fun h => h.2⟩
      · rw [if_neg hc, ih]
        simp [hc]

instance (t : Text) : Decidable (InlineClosed t) :=
  decidable_of_iff (inlineOpen? 1 t = none) inlineOpen?_eq_none_iff

/-! ## Tag lines -/

/-- On a tag line the trimmed text begins with an at sign. -/
theorem isTagLine_iff {line : Text} : isTagLine line = true ↔ (trim line).head? = some '@' := by
  rw [isTagLine, beq_iff_eq, head?_trim]

/-- The tag name on a line is the LONGEST run of name characters after the at sign, and the
    rest of the line is trimmed. -/
theorem tagLine?_eq_some_iff {line name first : Text} :
    tagLine? line = some (name, first) ↔
      ∃ c run rest, trim line = '@' :: c :: (run ++ rest) ∧ isNameStart c = true ∧
        (∀ x ∈ run, isNameChar x = true) ∧ (∀ x, rest.head? = some x → isNameChar x = false) ∧
        name = '@' :: c :: run ∧ first = trim rest := by
  constructor
  · intro h
    rw [tagLine?] at h
    split at h
    · rename_i c more heq
      by_cases hc : isNameStart c = true
      · rw [if_pos hc] at h
        obtain ⟨rfl, rfl⟩ := Prod.mk.inj (Option.some.inj h)
        refine ⟨c, more.takeWhile isNameChar, more.dropWhile isNameChar, ?_, hc, ?_, ?_, rfl, rfl⟩
        · rw [List.takeWhile_append_dropWhile, heq]
        · intro x hx
          exact List.mem_takeWhile_imp hx
        · intro x hx
          have := List.head?_dropWhile_not isNameChar more
          rw [hx] at this
          exact this
      · rw [if_neg hc] at h
        exact nomatch h
    · exact nomatch h
  · rintro ⟨c, run, rest, htrim, hc, hrun, hrest, rfl, rfl⟩
    have hstop : rest.takeWhile isNameChar = [] ∧ rest.dropWhile isNameChar = rest := by
      cases rest with
      | nil => exact ⟨rfl, rfl⟩
      | cons x more =>
          have hx : ¬ isNameChar x = true := by simp [hrest x rfl]
          exact ⟨List.takeWhile_cons_of_neg hx, List.dropWhile_cons_of_neg hx⟩
    rw [tagLine?]
    rw [htrim]
    show (if isNameStart c = true then _ else none) = _
    rw [if_pos hc, List.takeWhile_append_of_pos hrun, List.dropWhile_append_of_pos hrun,
      hstop.1, hstop.2, List.append_nil]

/-- A line with a tag name is a tag line. -/
theorem isTagLine_of_tagLine? {line name first : Text} (h : tagLine? line = some (name, first)) :
    isTagLine line = true := by
  obtain ⟨c, run, rest, htrim, -⟩ := tagLine?_eq_some_iff.mp h
  rw [isTagLine_iff, htrim]
  rfl

/-- A line that is no tag line has no tag name. -/
theorem tagLine?_eq_none {line : Text} (h : isTagLine line = false) : tagLine? line = none := by
  cases ht : tagLine? line with
  | none => rfl
  | some pair =>
      obtain ⟨name, first⟩ := pair
      have htag := isTagLine_of_tagLine? ht
      rw [h] at htag
      exact nomatch htag

/-- What can begin a tag name can also go on with it. -/
theorem isNameChar_of_isNameStart {c : Char} (h : isNameStart c = true) : isNameChar c = true := by
  simp only [isNameStart, Bool.or_eq_true, beq_iff_eq] at h
  rcases h with (halpha | rfl) | rfl
  · have hascii : c.toNat < 0x80 := by
      simp only [Char.isAlpha, Char.isUpper, Char.isLower, Bool.or_eq_true, Bool.and_eq_true,
        decide_eq_true_eq, UInt32.le_iff_toNat_le] at halpha
      have hZ : 'Z'.val.toNat = 0x5A := rfl
      have hz : 'z'.val.toNat = 0x7A := rfl
      show c.val.toNat < 0x80
      omega
    simp [isNameChar, isWordChar, hascii, Char.isAlphanum, halpha]
  · decide
  · decide

/-- No character of a tag name is blank. -/
theorem isBlank_of_isNameChar {c : Char} (h : isNameChar c = true) : isBlank c = false := by
  cases hblank : isBlank c with
  | false => rfl
  | true =>
      simp only [isNameChar, isWordChar_of_isBlank hblank, Bool.false_or, Bool.or_eq_true,
        beq_iff_eq] at h
      rcases h with (rfl | rfl) | rfl
      · exact absurd hblank (by decide)
      · exact absurd hblank (by decide)
      · exact absurd hblank (by decide)

/-- Every tag line has a tag name. -/
def AllNamed (ls : List Text) : Prop :=
  ∀ line ∈ ls, isTagLine line = true → ∃ name first, tagLine? line = some (name, first)

theorem badTag?_eq_none_iff {number : Nat} {ls : List Text} :
    badTag? number ls = none ↔ AllNamed ls := by
  induction ls generalizing number with
  | nil => simp [badTag?, AllNamed]
  | cons line rest ih =>
      rw [badTag?, AllNamed, List.forall_mem_cons]
      by_cases h : (isTagLine line && (tagLine? line).isNone) = true
      · rw [if_pos h]
        rw [Bool.and_eq_true, Option.isNone_iff_eq_none] at h
        simp [h.1, h.2]
      · rw [if_neg h, ih]
        have hnamed : isTagLine line = true → ∃ name first, tagLine? line = some (name, first) := by
          intro ht
          cases hl : tagLine? line with
          | none => simp [ht, hl] at h
          | some pair => exact ⟨pair.1, pair.2, rfl⟩
        exact ⟨fun hrest => ⟨hnamed, hrest⟩, fun hboth => hboth.2⟩

/-! ## The whole comment -/

/-- A comment has a body exactly if it is marked at both ends and is one piece. -/
theorem body_eq_ok_iff {raw : Text} {ls : List Text} :
    body raw = .ok ls ↔
      ∃ text, trim raw = opening ++ text ++ closing ∧ ls = (lines text).map undecorate ∧
        (∀ line ∈ ls, ¬ closing <:+: line) ∧ InlineClosed (joinLines ls) := by
  rw [body]
  cases hi : interior raw with
  | error fault =>
      constructor
      · intro h
        exact nomatch h
      · rintro ⟨text, htext, -⟩
        rw [interior_eq_ok_iff.mpr htext] at hi
        exact nomatch hi
  | ok text =>
      have htext := interior_eq_ok_iff.mp hi
      constructor
      · intro h
        refine ⟨text, htext, ?_⟩
        cases hc : closedEarly? 1 ((lines text).map undecorate) with
        | some line => simp [hc] at h
        | none =>
            cases ho : inlineOpen? 1 (joinLines ((lines text).map undecorate)) with
            | some line => simp [hc, ho] at h
            | none =>
                simp only [hc, ho] at h
                obtain rfl := Except.ok.inj h
                exact ⟨rfl, closedEarly?_eq_none_iff.mp hc, inlineOpen?_eq_none_iff.mp ho⟩
      · rintro ⟨text', htext', rfl, hclosed, hinline⟩
        obtain rfl := interior_unique htext htext'
        simp only [closedEarly?_eq_none_iff.mpr hclosed, inlineOpen?_eq_none_iff.mpr hinline]

/-- **WHAT CAN BE READ**: a comment with a body whose tag lines all have a name, and
    nothing else. -/
theorem parse_eq_ok_iff {raw : Text} {doc : Comment} :
    parse raw = .ok doc ↔ ∃ ls, body raw = .ok ls ∧ AllNamed ls ∧ doc = ofLines ls := by
  rw [parse]
  cases hb : body raw with
  | error fault =>
      constructor
      · intro h
        exact nomatch h
      · rintro ⟨ls, hls, -⟩
        exact nomatch hls
  | ok ls =>
      constructor
      · intro h
        cases ht : badTag? 1 ls with
        | some fault => simp [ht] at h
        | none =>
            simp only [ht] at h
            exact ⟨ls, rfl, badTag?_eq_none_iff.mp ht, (Except.ok.inj h).symm⟩
      · rintro ⟨ls', hls', hnamed, rfl⟩
        obtain rfl := Except.ok.inj hls'
        simp only [badTag?_eq_none_iff.mpr hnamed]

/-- What the reader says of the undecorated lines between the marks. -/
def readLines (ls : List Text) : Except Fault Comment :=
  match closedEarly? 1 ls with
  | some line => .error (.closedEarly line)
  | none =>
      match inlineOpen? 1 (joinLines ls) with
      | some line => .error (.inlineOpen line)
      | none =>
          match badTag? 1 ls with
          | some fault => .error fault
          | none => .ok (ofLines ls)

/-- Between the marks only the undecorated lines count. -/
theorem parse_eq_readLines {raw text : Text} (h : trim raw = opening ++ text ++ closing) :
    parse raw = readLines ((lines text).map undecorate) := by
  rw [parse, body, interior_eq_ok_iff.mpr h, readLines]
  cases hclosed : closedEarly? 1 ((lines text).map undecorate) with
  | some line => simp only [hclosed]
  | none =>
      cases hopen : inlineOpen? 1 (joinLines ((lines text).map undecorate)) with
      | some line => simp only [hclosed, hopen]
      | none =>
          cases hbad : badTag? 1 ((lines text).map undecorate) with
          | some fault => simp only [hclosed, hopen, hbad]
          | none => simp only [hclosed, hopen, hbad]

end DocAudit.Comment
