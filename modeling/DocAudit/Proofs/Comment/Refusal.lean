import DocAudit.Proofs.Comment.Shape
import DocAudit.Proofs.Text.Words

/-! # Refusals — which fault is reported, and on which line

    A text can be wrong in five ways, and in several of them at once.  `Fault.Holds` says each way by
    itself, as a condition on the text or its undecorated lines; the reader reports the FIRST
    that holds in the order of their ranks (`parse_refuses_first`), and reads the comment if none does.

    Three of the checks look for a line.  They search in different forms: line by line, or
    character by character over the joined lines.  All three are the same search,
    for the least number of a line that has a property (`isLeast_onLine_cons`), and a number found so
    is a number of a line of the text as written. -/

namespace DocAudit.Comment

open Text

/-- The line with this number, counted from `start`, has the property together with the lines
    behind it. -/
def OnLine (start : Nat) (ls : List Text) (P : Text → List Text → Prop) (number : Nat) : Prop :=
  ∃ before line after, ls = before ++ line :: after ∧ number = start + before.length ∧ P line after

/-- A closing mark stands on the line. -/
def HoldsClosing (line : Text) (_ : List Text) : Prop := closing <:+: line

/-- An inline tag stands on the line with no closing brace behind it. -/
def OpensInline (line : Text) : Prop :=
  ∃ front back, line = front ++ '{' :: '@' :: back ∧ '}' ∉ back

/-- An inline tag on the line is closed neither there nor on a later line, so that it stands behind
    the last closing brace of all. -/
def LeavesOpen (line : Text) (after : List Text) : Prop :=
  OpensInline line ∧ ∀ later ∈ after, '}' ∉ later

/-- The line begins with an at sign that no beginning of a name follows. -/
def Misnamed (line : Text) (_ : List Text) : Prop :=
  ∃ rest, trim line = '@' :: rest ∧ ∀ c, rest.head? = some c → isNameStart c = false

/-- The first word of the line is the given one. -/
def BeginsWith (token line : Text) (_ : List Text) : Prop := (words line).head? = some token

namespace Fault

/-- What the fault says of a text, whatever else is wrong with it. -/
def Holds (raw : Text) : Fault → Prop
  | .notOpened => ¬ opening <+: trim raw
  | .notClosed => (trim raw).length < 5 ∨ ¬ closing <:+ trim raw
  | .closedEarly number => ∃ text, trim raw = opening ++ text ++ closing ∧
      IsLeast {n | OnLine 1 ((lines text).map undecorate) HoldsClosing n} number
  | .inlineOpen number => ∃ text, trim raw = opening ++ text ++ closing ∧
      IsLeast {n | OnLine 1 ((lines text).map undecorate) LeavesOpen n} number
  | .badTag token number => ∃ text, trim raw = opening ++ text ++ closing ∧
      IsLeast {n | OnLine 1 ((lines text).map undecorate) Misnamed n} number ∧
      OnLine 1 ((lines text).map undecorate) (BeginsWith token) number

/-- The order in which faults are looked for. -/
def rank : Fault → Nat
  | .notOpened => 1
  | .notClosed => 2
  | .closedEarly _ => 3
  | .inlineOpen _ => 4
  | .badTag _ _ => 5

/-- What is to be seen on the line that the fault names. -/
def evidence : Fault → Text
  | .notOpened | .notClosed => []
  | .closedEarly _ => closing
  | .inlineOpen _ => ['{', '@']
  | .badTag token _ => token

end Fault

/-! ## Searching for a line -/

section

variable {start number : Nat} {line : Text} {rest : List Text} {P Q : Text → List Text → Prop}

theorem not_onLine_nil : ¬ OnLine start [] P number := by
  rintro ⟨before, line, after, hls, -⟩
  exact absurd hls (by simp)

theorem OnLine.start_le {ls : List Text} (h : OnLine start ls P number) : start ≤ number := by
  obtain ⟨before, -, -, -, rfl, -⟩ := h
  exact Nat.le_add_right _ _

theorem onLine_cons :
    OnLine start (line :: rest) P number ↔
      P line rest ∧ number = start ∨ OnLine (start + 1) rest P number := by
  constructor
  · rintro ⟨before, found, after, hls, hnumber, hfound⟩
    cases before with
    | nil =>
        obtain ⟨rfl, rfl⟩ := List.cons.inj hls
        exact Or.inl ⟨hfound, hnumber⟩
    | cons first before =>
        obtain ⟨rfl, rfl⟩ := List.cons.inj hls
        refine Or.inr ⟨before, found, after, rfl, ?_, hfound⟩
        rw [hnumber, List.length_cons]
        omega
  · rintro (⟨hline, hnumber⟩ | ⟨before, found, after, rfl, hnumber, hfound⟩)
    · exact ⟨[], line, rest, rfl, hnumber, hline⟩
    · refine ⟨line :: before, found, after, rfl, ?_, hfound⟩
      rw [hnumber, List.length_cons]
      omega

/-- **ONE STEP OF A SEARCH**: the first line has the property, or the search goes on behind it. -/
theorem isLeast_onLine_cons :
    IsLeast {n | OnLine start (line :: rest) P n} number ↔
      P line rest ∧ number = start ∨
        ¬ P line rest ∧ IsLeast {n | OnLine (start + 1) rest P n} number := by
  have hset : ∀ n, n ∈ {n | OnLine start (line :: rest) P n} ↔
      P line rest ∧ n = start ∨ OnLine (start + 1) rest P n := fun n => onLine_cons
  constructor
  · rintro ⟨hmem, hleast⟩
    by_cases hline : P line rest
    · have hle := hleast ((hset start).mpr (Or.inl ⟨hline, rfl⟩))
      exact Or.inl ⟨hline, le_antisymm hle (OnLine.start_le hmem)⟩
    · refine Or.inr ⟨hline, ?_, fun n hn => hleast ((hset n).mpr (Or.inr hn))⟩
      rcases (hset number).mp hmem with ⟨hbad, -⟩ | hlater
      · exact absurd hbad hline
      · exact hlater
  · rintro (⟨hline, rfl⟩ | ⟨hline, hmem, hleast⟩)
    · exact ⟨(hset number).mpr (Or.inl ⟨hline, rfl⟩), fun n hn => OnLine.start_le hn⟩
    · refine ⟨(hset number).mpr (Or.inr hmem), ?_⟩
      intro n hn
      rcases (hset n).mp hn with ⟨hbad, -⟩ | hlater
      · exact absurd hbad hline
      · exact hleast hlater

theorem not_isLeast_onLine_nil : ¬ IsLeast {n | OnLine start [] P n} number :=
  fun h => not_onLine_nil h.1

/-- A line has only one number, so two properties at one number are of one line. -/
theorem OnLine.and {ls : List Text} (hP : OnLine start ls P number) (hQ : OnLine start ls Q number) :
    OnLine start ls (fun line after => P line after ∧ Q line after) number := by
  obtain ⟨before, line, after, rfl, rfl, hline⟩ := hP
  obtain ⟨before', line', after', hls, hlength, hline'⟩ := hQ
  obtain ⟨rfl, hrest⟩ := List.append_inj hls (by omega)
  obtain ⟨rfl, rfl⟩ := List.cons.inj hrest
  exact ⟨before, line, after, rfl, rfl, hline, hline'⟩

end

/-! ## The three searches -/

theorem closedEarly?_eq_some_iff {start number : Nat} {ls : List Text} :
    closedEarly? start ls = some number ↔ IsLeast {n | OnLine start ls HoldsClosing n} number := by
  induction ls generalizing start with
  | nil => exact iff_of_false nofun not_isLeast_onLine_nil
  | cons line rest ih =>
      have hline : occurs closing line = true ↔ HoldsClosing line rest := occurs_iff
      rw [closedEarly?, isLeast_onLine_cons, ← ih, ← hline]
      by_cases h : occurs closing line = true
      · simp [h, eq_comm]
      · simp [h]

/-- An inline tag is opened by the first two characters or further on. -/
theorem opensInline_cons {c : Char} {rest : Text} :
    OpensInline (c :: rest) ↔
      (c = '{' ∧ rest.head? = some '@' ∧ '}' ∉ rest) ∨ OpensInline rest := by
  constructor
  · rintro ⟨front, back, heq, hback⟩
    cases front with
    | nil =>
        obtain ⟨rfl, rfl⟩ := List.cons.inj heq
        exact Or.inl ⟨rfl, rfl, by simpa using hback⟩
    | cons d front =>
        obtain ⟨-, rfl⟩ := List.cons.inj heq
        exact Or.inr ⟨front, back, rfl, hback⟩
  · rintro (⟨rfl, hat, hback⟩ | ⟨front, back, rfl, hback⟩)
    · obtain ⟨back, rfl⟩ := List.head?_eq_some_iff.mp hat
      exact ⟨[], back, rfl, fun hbrace => hback (List.mem_cons_of_mem _ hbrace)⟩
    · exact ⟨c :: front, back, rfl, hback⟩

/-- Within a line the search stays at its number: the line leaves a tag open that the rest does not
    close, or the search goes on with the rest. -/
theorem inlineOpen?_append_eq_some_iff {line rest : Text} (hline : OneLine line)
    (hrest : rest.head? ≠ some '@') {start number : Nat} :
    inlineOpen? start (line ++ rest) = some number ↔
      (OpensInline line ∧ '}' ∉ rest) ∧ number = start ∨
        ¬ (OpensInline line ∧ '}' ∉ rest) ∧ inlineOpen? start rest = some number := by
  induction line with
  | nil =>
      have hnone : ¬ OpensInline [] := by
        rintro ⟨front, back, heq, -⟩
        exact absurd heq (by simp)
      simp [hnone]
  | cons c more ih =>
      obtain ⟨hc, hmore⟩ := oneLine_cons.mp hline
      rw [List.cons_append, inlineOpen?, opensInline_cons, if_neg hc]
      -- behind the last character of the line no at sign follows
      have hhere : (more ++ rest).head? = some '@' ∧ '}' ∉ more ++ rest ↔
          more.head? = some '@' ∧ '}' ∉ more ∧ '}' ∉ rest := by
        cases more with
        | nil => simp [hrest]
        | cons d more => simp [and_assoc]
      by_cases hbrace : c = '{'
      · by_cases hopen : more.head? = some '@' ∧ '}' ∉ more ∧ '}' ∉ rest
        · rw [if_pos hbrace, if_pos (hhere.mpr hopen)]
          simp [hbrace, hopen, eq_comm]
        · rw [if_pos hbrace, if_neg (fun h => hopen (hhere.mp h)), ih hmore]
          have hsame : ((c = '{' ∧ more.head? = some '@' ∧ '}' ∉ more) ∨ OpensInline more) ∧
              '}' ∉ rest ↔ OpensInline more ∧ '}' ∉ rest := by
            constructor
            · rintro ⟨⟨-, hat, hno⟩ | hlater, hclosed⟩
              · exact absurd ⟨hat, hno, hclosed⟩ hopen
              · exact ⟨hlater, hclosed⟩
            · exact fun h => ⟨Or.inr h.1, h.2⟩
          rw [hsame]
      · rw [if_neg hbrace, ih hmore]
        simp [hbrace]

theorem mem_joinLines {c : Char} (hc : c ≠ '\n') {ls : List Text} :
    c ∈ joinLines ls ↔ ∃ line ∈ ls, c ∈ line := by
  induction ls with
  | nil => simp
  | cons line rest ih =>
      by_cases hr : rest = []
      · subst hr
        simp
      · rw [joinLines_cons line hr, List.mem_append, List.mem_cons, ih]
        simp [hc]

theorem inlineOpen?_joinLines_eq_some_iff {ls : List Text} (hls : ∀ line ∈ ls, OneLine line)
    {start number : Nat} :
    inlineOpen? start (joinLines ls) = some number ↔
      IsLeast {n | OnLine start ls LeavesOpen n} number := by
  induction ls generalizing start with
  | nil => exact iff_of_false nofun not_isLeast_onLine_nil
  | cons line rest ih =>
      obtain ⟨hline, hrest⟩ := List.forall_mem_cons.mp hls
      rw [isLeast_onLine_cons, ← ih hrest]
      by_cases hr : rest = []
      · subst hr
        have hlast : LeavesOpen line [] ↔ OpensInline line ∧ '}' ∉ ([] : Text) := by
          simp [LeavesOpen]
        have happend : inlineOpen? start (line ++ []) = some number ↔ _ :=
          inlineOpen?_append_eq_some_iff hline (by simp)
        rw [List.append_nil] at happend
        rw [hlast, joinLines, join_singleton, happend]
        rfl
      · have hbrace : LeavesOpen line rest ↔ OpensInline line ∧ '}' ∉ '\n' :: joinLines rest := by
          rw [LeavesOpen, List.mem_cons, mem_joinLines (by decide)]
          simp
        rw [joinLines_cons line hr, inlineOpen?_append_eq_some_iff hline (by simp), hbrace]
        rfl

/-! ## Tags without a name -/

theorem misnamed_iff {line : Text} {after : List Text} :
    (isTagLine line && (tagLine? line).isNone) = true ↔ Misnamed line after := by
  rw [Bool.and_eq_true, isTagLine_iff, Option.isNone_iff_eq_none, Misnamed, tagLine?]
  cases trim line with
  | nil => simp
  | cons c rest =>
      cases rest with
      | nil => simp
      | cons d more =>
          by_cases hc : c = '@'
          · subst hc
            by_cases hd : isNameStart d = true
            · simp [hd]
            · simp [hd]
          · simp [hc]

/-- The word that is quoted is the first one of the line. -/
theorem beginsWith_iff {line token : Text} {after : List Text} (h : trim line ≠ []) :
    BeginsWith token line after ↔ token = (trim line).takeWhile fun c => !isBlank c := by
  have hleft : trimLeft line ≠ [] := by
    intro hnil
    rw [trim_eq, hnil] at h
    exact h rfl
  obtain ⟨c, rest, hline⟩ := List.exists_cons_of_ne_nil hleft
  have hc : isBlank c = false := by
    have hhead := List.head?_dropWhile_not isBlank line
    rw [show line.dropWhile isBlank = c :: rest from hline] at hhead
    exact hhead
  have hword : (trim line).takeWhile (fun c => !isBlank c)
      = c :: rest.takeWhile fun c => !isBlank c := by
    rw [trim_eq, takeWhile_trimRight, hline, List.takeWhile_cons_of_pos (by simp [hc])]
  rw [BeginsWith, ← words_trimLeft, hline, words_cons_of_not_blank hc, hword, List.head?_cons,
    Option.some.injEq, eq_comm]

/-- A line that stands at its place can be looked at there. -/
theorem onLine_cons_start {start : Nat} {line : Text} {rest : List Text}
    {P : Text → List Text → Prop} : OnLine start (line :: rest) P start ↔ P line rest := by
  rw [onLine_cons]
  constructor
  · rintro (⟨hline, -⟩ | hlater)
    · exact hline
    · exact absurd hlater.start_le (Nat.not_succ_le_self start)
  · exact fun hline => Or.inl ⟨hline, rfl⟩

theorem badTag?_eq_some_iff {start : Nat} {ls : List Text} {fault : Fault} :
    badTag? start ls = some fault ↔
      ∃ token number, fault = .badTag token number ∧
        IsLeast {n | OnLine start ls Misnamed n} number ∧
        OnLine start ls (BeginsWith token) number := by
  induction ls generalizing start with
  | nil =>
      refine iff_of_false nofun ?_
      rintro ⟨token, number, -, hleast, -⟩
      exact not_isLeast_onLine_nil hleast
  | cons line rest ih =>
      have hline : (isTagLine line && (tagLine? line).isNone) = true ↔ Misnamed line rest :=
        misnamed_iff
      rw [badTag?]
      simp only [isLeast_onLine_cons, ← hline]
      by_cases hbad : (isTagLine line && (tagLine? line).isNone) = true
      · have hne : trim line ≠ [] := by
          obtain ⟨more, hmore, -⟩ := hline.mp hbad
          simp [hmore]
        rw [if_pos hbad]
        constructor
        · intro h
          refine ⟨_, start, (Option.some.inj h).symm, Or.inl ⟨hbad, rfl⟩, ?_⟩
          exact onLine_cons_start.mpr ((beginsWith_iff hne).mpr rfl)
        · rintro ⟨token, number, rfl, ⟨-, rfl⟩ | ⟨hno, -⟩, htoken⟩
          · rw [(beginsWith_iff hne).mp (onLine_cons_start.mp htoken)]
          · exact absurd hbad hno
      · rw [if_neg hbad, ih]
        constructor
        · rintro ⟨token, number, rfl, hleast, htoken⟩
          exact ⟨token, number, rfl, Or.inr ⟨hbad, hleast⟩, onLine_cons.mpr (Or.inr htoken)⟩
        · rintro ⟨token, number, rfl, ⟨hyes, -⟩ | ⟨-, hleast⟩, htoken⟩
          · exact absurd hyes hbad
          · refine ⟨token, number, rfl, hleast, ?_⟩
            rcases onLine_cons.mp htoken with ⟨-, rfl⟩ | hlater
            · exact absurd hleast.1.start_le (Nat.not_succ_le_self number)
            · exact hlater

/-! ## Marks -/

namespace Fault

variable {raw text : Text}

theorem interior_of_notOpened (h : Holds raw .notOpened) : interior raw = .error .notOpened := by
  have hopen : opening.isPrefixOf (trim raw) = false := by
    rw [← Bool.not_eq_true, List.isPrefixOf_iff_prefix]
    exact h
  simp [interior, hopen]

theorem interior_of_notClosed (hopen : ¬ Holds raw .notOpened) (h : Holds raw .notClosed) :
    interior raw = .error .notClosed := by
  have hopen' : opening.isPrefixOf (trim raw) = true :=
    List.isPrefixOf_iff_prefix.mpr (not_not.mp hopen)
  have hclose : (decide ((trim raw).length < opening.length + closing.length)
      || !closing.isSuffixOf (trim raw)) = true := by
    rw [Bool.or_eq_true, decide_eq_true_eq, Bool.not_eq_true', ← Bool.not_eq_true,
      List.isSuffixOf_iff_suffix]
    exact h
  rw [interior, hopen', hclose]
  rfl

theorem exists_interior (hopen : ¬ Holds raw .notOpened) (hclose : ¬ Holds raw .notClosed) :
    ∃ text, trim raw = opening ++ text ++ closing := by
  obtain ⟨hlong, hsuffix⟩ := not_or.mp hclose
  obtain ⟨rest, hrest⟩ := not_not.mp hopen
  have hlen : closing.length ≤ rest.length := by
    have hsum := congrArg List.length hrest
    rw [List.length_append] at hsum
    have hmarks : opening.length + closing.length = 5 := rfl
    omega
  obtain ⟨text, rfl⟩ :=
    List.suffix_of_suffix_length_le (not_not.mp hsuffix) ⟨opening, hrest⟩ hlen
  exact ⟨text, by rw [← hrest, List.append_assoc]⟩

/-! ## Between the marks -/

section

variable (h : trim raw = opening ++ text ++ closing)

include h

/-- What is said of some interior is said of this one, as there is no other. -/
theorem exists_interior_iff {P : Text → Prop} :
    (∃ text, trim raw = opening ++ text ++ closing ∧ P text) ↔ P text := by
  constructor
  · rintro ⟨text', htext', hP⟩
    rw [interior_unique h htext']
    exact hP
  · exact fun hP => ⟨text, h, hP⟩

theorem holds_closedEarly_iff {number : Nat} :
    Holds raw (.closedEarly number) ↔
      closedEarly? 1 ((lines text).map undecorate) = some number := by
  rw [closedEarly?_eq_some_iff, Holds, exists_interior_iff h]

theorem holds_inlineOpen_iff {number : Nat} :
    Holds raw (.inlineOpen number) ↔
      inlineOpen? 1 (joinLines ((lines text).map undecorate)) = some number := by
  have honeLine : ∀ line ∈ (lines text).map undecorate, OneLine line := by
    intro line hline
    obtain ⟨written, hwritten, rfl⟩ := List.mem_map.mp hline
    intro hfeed
    have hbreak := unbroken_of_mem_lines hwritten '\n' ((infix_undecorate written).subset hfeed)
    exact absurd hbreak (by decide)
  rw [inlineOpen?_joinLines_eq_some_iff honeLine, Holds, exists_interior_iff h]

theorem holds_badTag_iff {token : Text} {number : Nat} :
    Holds raw (.badTag token number) ↔
      badTag? 1 ((lines text).map undecorate) = some (.badTag token number) := by
  rw [badTag?_eq_some_iff, Holds, exists_interior_iff h]
  constructor
  · rintro ⟨hleast, htoken⟩
    exact ⟨token, number, rfl, hleast, htoken⟩
  · rintro ⟨token', number', hfault, hleast, htoken⟩
    obtain ⟨rfl, rfl⟩ := Fault.badTag.inj hfault
    exact ⟨hleast, htoken⟩

/-- What is found on an undecorated line is found on the line as written. -/
theorem exists_written_line {P : Text → List Text → Prop} {mark : Text}
    (hmark : ∀ line after, P line after → mark <:+: line) {number : Nat}
    (hline : OnLine 1 ((lines text).map undecorate) P number) :
    1 ≤ number ∧ ∃ line, (lines (trim raw))[number - 1]? = some line ∧ mark <:+: line := by
  refine ⟨hline.start_le, ?_⟩
  obtain ⟨before, line, after, hls, rfl, hfound⟩ := hline
  have hplace : ((lines text).map undecorate)[before.length]? = some line := by
    rw [hls]
    simp
  rw [List.getElem?_map, Option.map_eq_some_iff] at hplace
  obtain ⟨written, hwritten, rfl⟩ := hplace
  obtain ⟨longer, hlonger, hpiece⟩ :=
    exists_line_between (show Unbroken opening by decide) (show Unbroken closing by decide) hwritten
  refine ⟨longer, ?_, ?_⟩
  · rw [h, Nat.add_sub_cancel_left]
    exact hlonger
  · calc mark <:+: undecorate written := hmark _ _ hfound
      _ <:+: written := infix_undecorate written
      _ <:+: longer := hpiece

end

/-! ## The first fault -/

/-- At each rank a text has at most one fault. -/
theorem Holds.unique {fault other : Fault} (h : Holds raw fault) (hother : Holds raw other)
    (hrank : fault.rank = other.rank) : fault = other := by
  cases fault with
  | notOpened =>
      cases other with
      | notOpened => rfl
      | _ => simp [rank] at hrank
  | notClosed =>
      cases other with
      | notClosed => rfl
      | _ => simp [rank] at hrank
  | closedEarly number =>
      cases other with
      | closedEarly number' =>
          obtain ⟨text, htext, hleast⟩ := h
          obtain ⟨text', htext', hleast'⟩ := hother
          obtain rfl := interior_unique htext htext'
          rw [hleast.unique hleast']
      | _ => simp [rank] at hrank
  | inlineOpen number =>
      cases other with
      | inlineOpen number' =>
          obtain ⟨text, htext, hleast⟩ := h
          obtain ⟨text', htext', hleast'⟩ := hother
          obtain rfl := interior_unique htext htext'
          rw [hleast.unique hleast']
      | _ => simp [rank] at hrank
  | badTag token number =>
      cases other with
      | badTag token' number' =>
          obtain ⟨text, htext, hleast, htoken⟩ := h
          obtain ⟨text', htext', hleast', htoken'⟩ := hother
          obtain rfl := interior_unique htext htext'
          obtain rfl := hleast.unique hleast'
          obtain ⟨before, line, after, -, -, hword, hword'⟩ := htoken.and htoken'
          rw [Option.some.inj (hword.symm.trans hword')]
      | _ => simp [rank] at hrank

/-- No fault holds that is looked for before this rank. -/
def ClearTo (raw : Text) (k : Nat) : Prop := ∀ fault, Holds raw fault → k ≤ fault.rank

theorem clearTo_one (raw : Text) : ClearTo raw 1 := by
  intro fault _
  cases fault <;> simp [rank]

theorem ClearTo.next {k : Nat} (h : ClearTo raw k)
    (hnone : ∀ fault, fault.rank = k → ¬ Holds raw fault) : ClearTo raw (k + 1) := by
  intro fault hfault
  exact lt_of_le_of_ne (h fault hfault) fun hrank => hnone fault hrank.symm hfault

/-- **STAGE BY STAGE**: reading stops at the first fault, and with none it comes to its end. -/
theorem parse_cases (raw : Text) :
    (∃ fault, parse raw = .error fault ∧ Holds raw fault ∧ ClearTo raw fault.rank) ∨
      ∃ doc, parse raw = .ok doc ∧ ∀ fault, ¬ Holds raw fault := by
  by_cases hopen : Holds raw .notOpened
  · refine Or.inl ⟨.notOpened, ?_, hopen, clearTo_one raw⟩
    rw [parse, body, interior_of_notOpened hopen]
  have htwo : ClearTo raw 2 := (clearTo_one raw).next fun fault hrank => by
    cases fault with
    | notOpened => exact hopen
    | _ => simp [rank] at hrank
  by_cases hclose : Holds raw .notClosed
  · refine Or.inl ⟨.notClosed, ?_, hclose, htwo⟩
    rw [parse, body, interior_of_notClosed hopen hclose]
  have hthree : ClearTo raw 3 := htwo.next fun fault hrank => by
    cases fault with
    | notClosed => exact hclose
    | _ => simp [rank] at hrank
  -- from here on the text is marked, and only its lines count
  obtain ⟨text, h⟩ := exists_interior hopen hclose
  rw [parse_eq_readLines h, readLines]
  cases hclosed : closedEarly? 1 ((lines text).map undecorate) with
  | some number => exact Or.inl ⟨_, rfl, (holds_closedEarly_iff h).mpr hclosed, hthree⟩
  | none =>
      have hfour : ClearTo raw 4 := hthree.next fun fault hrank => by
        cases fault with
        | closedEarly number => simp [holds_closedEarly_iff h, hclosed]
        | _ => simp [rank] at hrank
      cases hinline : inlineOpen? 1 (joinLines ((lines text).map undecorate)) with
      | some number => exact Or.inl ⟨_, rfl, (holds_inlineOpen_iff h).mpr hinline, hfour⟩
      | none =>
          have hfive : ClearTo raw 5 := hfour.next fun fault hrank => by
            cases fault with
            | inlineOpen number => simp [holds_inlineOpen_iff h, hinline]
            | _ => simp [rank] at hrank
          cases htag : badTag? 1 ((lines text).map undecorate) with
          | some fault =>
              obtain ⟨token, number, rfl, -⟩ := badTag?_eq_some_iff.mp htag
              exact Or.inl ⟨_, rfl, (holds_badTag_iff h).mpr htag, hfive⟩
          | none =>
              have hsix : ClearTo raw 6 := hfive.next fun fault hrank => by
                cases fault with
                | badTag token number => simp [holds_badTag_iff h, htag]
                | _ => simp [rank] at hrank
              refine Or.inr ⟨_, rfl, fun fault hfault => ?_⟩
              have hrank := hsix fault hfault
              cases fault <;> simp [rank] at hrank

/-- A fault with a line is seen on that line of the text as written. -/
theorem Holds.evidence {fault : Fault} (h : Holds raw fault) {number : Nat}
    (hline : fault.line? = some number) :
    1 ≤ number ∧ ∃ line, (lines (trim raw))[number - 1]? = some line ∧
      fault.evidence <:+: line := by
  cases fault with
  | notOpened | notClosed => exact nomatch hline
  | closedEarly n =>
      obtain rfl : n = number := Option.some.inj hline
      obtain ⟨text, htext, hleast⟩ := h
      exact exists_written_line htext (fun line after hclosing => hclosing) hleast.1
  | inlineOpen n =>
      obtain rfl : n = number := Option.some.inj hline
      obtain ⟨text, htext, hleast⟩ := h
      refine exists_written_line htext ?_ hleast.1
      rintro line after ⟨⟨front, back, rfl, -⟩, -⟩
      exact ⟨front, back, List.append_assoc front ['{', '@'] back⟩
  | badTag token n =>
      obtain rfl : n = number := Option.some.inj hline
      obtain ⟨text, htext, hleast, htoken⟩ := h
      refine exists_written_line htext ?_ (hleast.1.and htoken)
      rintro line after ⟨⟨rest, hat, -⟩, hword⟩
      have hne : trim line ≠ [] := by simp [hat]
      rw [show Fault.evidence (.badTag token n) = token from rfl, (beginsWith_iff hne).mp hword]
      exact (List.takeWhile_prefix _).isInfix.trans (infix_trimBy isBlank line)

end Fault

/-- **THE FIRST FAULT IS REPORTED**: a text is refused exactly if some fault holds of it, and the
    fault that is reported is the one that is first in order.  The first two name no line; each of
    the others names a line of the trimmed text, and on that line stands what it is about. -/
theorem parse_refuses_first (raw : Text) :
    ((∃ fault, parse raw = .error fault) ↔ ∃ fault, Fault.Holds raw fault) ∧
    (∀ fault, parse raw = .error fault ↔
      Fault.Holds raw fault ∧ ∀ other, Fault.Holds raw other → fault.rank ≤ other.rank) ∧
    ∀ fault, parse raw = .error fault →
      (fault.line? = none ↔ fault = .notOpened ∨ fault = .notClosed) ∧
      (∀ token number, fault = .badTag token number →
        fault.reason = "invalid tag " ++ quoted token) ∧
      ∀ number, fault.line? = some number →
        1 ≤ number ∧ ∃ line, (lines (trim raw))[number - 1]? = some line ∧
          fault.evidence <:+: line := by
  have hfirst : ∀ fault, parse raw = .error fault ↔
      Fault.Holds raw fault ∧ ∀ other, Fault.Holds raw other → fault.rank ≤ other.rank := by
    intro fault
    rcases Fault.parse_cases raw with ⟨found, hparse, hfound, hclear⟩ | ⟨doc, hparse, hnone⟩
    · constructor
      · intro h
        obtain rfl := Except.error.inj (hparse.symm.trans h)
        exact ⟨hfound, hclear⟩
      · rintro ⟨hfault, hleast⟩
        have hrank : found.rank = fault.rank :=
          le_antisymm (hclear fault hfault) (hleast found hfound)
        rw [hparse, hfound.unique hfault hrank]
    · constructor
      · intro h
        exact nomatch hparse.symm.trans h
      · rintro ⟨hfault, -⟩
        exact absurd hfault (hnone fault)
  refine ⟨?_, hfirst, ?_⟩
  · rcases Fault.parse_cases raw with ⟨found, hparse, hfound, -⟩ | ⟨doc, hparse, hnone⟩
    · exact iff_of_true ⟨found, hparse⟩ ⟨found, hfound⟩
    · refine iff_of_false ?_ fun ⟨fault, hfault⟩ => hnone fault hfault
      rintro ⟨fault, h⟩
      exact nomatch hparse.symm.trans h
  · intro fault h
    refine ⟨?_, ?_, fun number hnumber => ((hfirst fault).mp h).1.evidence hnumber⟩
    · cases fault <;> simp [Fault.line?]
    · rintro token number rfl
      rfl

end DocAudit.Comment
