import DocAudit.Json.Reader
import DocAudit.Proofs.Text.OneLine
import Mathlib.Data.List.Forall2

/-! # Spelling — the texts of a JSON value

    A value has many texts: white space may stand between any two tokens, a character in a
    string stands for itself or is escaped in one of three ways, and a hexadecimal digit has two
    cases.  `Spells depth v t` says that `t` is one of the texts of `v`, by the shape
    of the value and without a word about reading.  It keeps to the two limits of the
    format, on nesting and on the length of numerals.

    Reading finds the value that ANY of its texts spells (`read?_of_spells`).  A text is read
    with something behind it, which must not continue a number (`Delimited`). -/

namespace DocAudit.Json

open Text

/-! ## The texts of a value -/

/-- White space. -/
def Space (t : Text) : Prop := ∀ c ∈ t, c ∈ [' ', '\t', '\n', '\r']

/-- A hexadecimal digit, with a small or a capital letter. -/
def SpellsDigit (n : Nat) (c : Char) : Prop :=
  n < 16 ∧ (c = n.digitChar ∨ c = n.digitChar.toUpper)

instance (n : Nat) (c : Char) : Decidable (SpellsDigit n c) :=
  inferInstanceAs (Decidable (n < 16 ∧ (c = n.digitChar ∨ c = n.digitChar.toUpper)))

/-- The escape of a code unit by its four hexadecimal digits. -/
def SpellsUnit (unit : Nat) (t : Text) : Prop :=
  ∃ a b c d, t = ['\\', 'u', a, b, c, d] ∧ SpellsDigit (unit / 4096) a ∧
    SpellsDigit (unit / 256 % 16) b ∧ SpellsDigit (unit / 16 % 16) c ∧ SpellsDigit (unit % 16) d

/-- The characters with a short escape, each with the one behind its backslash. -/
def shortEscapes : List (Char × Char) :=
  [('"', '"'), ('\\', '\\'), ('/', '/'), ('\x08', 'b'), ('\x0c', 'f'), ('\n', 'n'), ('\r', 'r'),
    ('\t', 't')]

/-- A character inside a string: plain, or escaped in short, as a code unit or as a pair of
    surrogates. -/
inductive SpellsChar : Char → Text → Prop
  | plain {c : Char} (hc : 0x20 ≤ c.toNat) (hquote : c ≠ '"') (hslash : c ≠ '\\') :
      SpellsChar c [c]
  | short {c e : Char} (h : (c, e) ∈ shortEscapes) : SpellsChar c ['\\', e]
  | unit {c : Char} {t : Text} (h : SpellsUnit c.toNat t) : SpellsChar c t
  | pair {c : Char} {high low : Nat} {s t : Text} (hhigh : high < 0x400) (hlow : low < 0x400)
      (hc : c.toNat = 0x10000 + high * 0x400 + low) (hs : SpellsUnit (0xD800 + high) s)
      (ht : SpellsUnit (0xDC00 + low) t) : SpellsChar c (s ++ t)

/-- A string in its quotation marks. -/
def SpellsString (t s : Text) : Prop :=
  ∃ parts, List.Forall₂ SpellsChar t parts ∧ s = ['"'] ++ parts.flatten ++ ['"']

/-- The values that hold no others and that records are made of. -/
inductive SpellsScalar : Value → Text → Prop
  | null : SpellsScalar .null "null"
  | number {n : Nat} (h : (Numeral.ofNat n).length ≤ Numeral.digitLimit) :
      SpellsScalar (.number (.integer n)) (Numeral.ofNat n)
  | text {t s : Text} (h : SpellsString t s) : SpellsScalar (.text t) s

section

variable {α : Type} (R : α → Text → Prop)

/-- White space around a text. -/
def Padded (x : α) (t : Text) : Prop :=
  ∃ before s after, Space before ∧ R x s ∧ Space after ∧ t = before ++ s ++ after

/-- Padded texts with commas between them, or white space alone if there are none. -/
def Listed (xs : List α) (t : Text) : Prop :=
  (xs = [] ∧ Space t) ∨ ∃ ts, List.Forall₂ (Padded R) xs ts ∧ t = join [','] ts

/-- A name, a colon and a text, with white space between them. -/
def SpellsMember (member : Text × α) (t : Text) : Prop :=
  ∃ key before after s, SpellsString member.1 key ∧ Space before ∧ Space after ∧ R member.2 s ∧
    t = key ++ before ++ [':'] ++ after ++ s

end

/-- The texts of a value that nests at most `depth` deep. -/
def Spells : Nat → Value → Text → Prop
  | 0, _, _ => False
  | depth + 1, .array items, t =>
      ∃ body, Listed (Spells depth) items body ∧ t = ['['] ++ body ++ [']']
  | depth + 1, .object members, t =>
      ∃ body, Listed (SpellsMember (Spells depth)) members body ∧ t = ['{'] ++ body ++ ['}']
  | _ + 1, v, t => SpellsScalar v t

/-! ## White space and what follows a value -/

theorem isSpace_iff {c : Char} : isSpace c = true ↔ c ∈ [' ', '\t', '\n', '\r'] := by
  simp [isSpace, or_assoc]

theorem isSpace_of_mem {c : Char} (h : c ∈ [',', ']', '}']) : isSpace c = false := by
  simp only [List.mem_cons, List.not_mem_nil, or_false] at h
  rcases h with rfl | rfl | rfl <;> rfl

theorem space_nil : Space [] := nofun

theorem skipSpace_append {s : Text} (h : Space s) (t : Text) : skipSpace (s ++ t) = skipSpace t :=
  List.dropWhile_append_of_pos fun c hc => isSpace_iff.mpr (h c hc)

theorem skipSpace_cons {c : Char} (h : isSpace c = false) (t : Text) :
    skipSpace (c :: t) = c :: t := by
  simp [skipSpace, h]

theorem skipSpace_of_space {s : Text} (h : Space s) : skipSpace s = [] := by
  have := skipSpace_append h []
  rwa [List.append_nil] at this

/-- What may stand behind a value: nothing, white space, a comma or a closing bracket. -/
def Delimited (rest : Text) : Prop :=
  ∀ c, rest.head? = some c → c ∈ [' ', '\t', '\n', '\r', ',', ']', '}']

theorem delimited_nil : Delimited [] := nofun

theorem Space.delimited_append {s : Text} (h : Space s) {rest : Text} (hrest : Delimited rest) :
    Delimited (s ++ rest) := by
  cases s with
  | nil => exact hrest
  | cons d more =>
      intro c hc
      obtain rfl := Option.some.inj hc
      exact List.mem_append_left [',', ']', '}'] (h d List.mem_cons_self)

theorem delimited_cons {c : Char} (h : c ∈ [',', ']', '}']) (rest : Text) :
    Delimited (c :: rest) := by
  intro d hd
  obtain rfl := Option.some.inj hd
  exact List.mem_append_right [' ', '\t', '\n', '\r'] h

/-! ## Strings -/

theorem hexValue?_of_spells {n : Nat} {c : Char} (h : SpellsDigit n c) : hexValue? c = some n := by
  have hall : ∀ n < 16,
      hexValue? n.digitChar = some n ∧ hexValue? n.digitChar.toUpper = some n := by decide
  obtain ⟨hn, rfl | rfl⟩ := h
  · exact (hall n hn).1
  · exact (hall n hn).2

/-- Four digits are read as the code unit that they spell. -/
theorem codeUnit?_of_spells {unit : Nat} {t : Text} (h : SpellsUnit unit t) :
    ∃ a b c d, t = ['\\', 'u', a, b, c, d] ∧ codeUnit? a b c d = some unit := by
  obtain ⟨a, b, c, d, ht, ha, hb, hc, hd⟩ := h
  refine ⟨a, b, c, d, ht, ?_⟩
  rw [codeUnit?, hexValue?_of_spells ha, hexValue?_of_spells hb, hexValue?_of_spells hc,
    hexValue?_of_spells hd]
  show some _ = some unit
  congr 1
  omega

theorem not_surrogate (c : Char) : isHighHalf c.toNat = false ∧ isLowHalf c.toNat = false := by
  have hvalid : c.toNat < 0xD800 ∨ 0xDFFF < c.toNat ∧ c.toNat < 0x110000 := c.valid
  simp only [isHighHalf, isLowHalf, Bool.and_eq_false_iff, decide_eq_false_iff_not]
  omega

/-- A character is read off the front of a string in whatever way it is spelled. -/
theorem stringTail_append {c : Char} {s : Text} (h : SpellsChar c s) (rest : Text) :
    stringTail (s ++ rest) = prepend c (stringTail rest) := by
  cases h with
  | plain hc hquote hslash =>
      rw [List.singleton_append, stringTail.eq_5 c rest hquote (fun _ _ _ _ _ h => absurd h hslash)
        (fun _ _ h => absurd h hslash), if_neg]
      rintro (hlt | heq)
      · omega
      · exact hslash heq
  | @short e h =>
      have hread : escapedChar? e = some c := by
        simp only [shortEscapes, List.mem_cons, Prod.mk.injEq, List.not_mem_nil, or_false] at h
        rcases h with ⟨rfl, rfl⟩ | ⟨rfl, rfl⟩ | ⟨rfl, rfl⟩ | ⟨rfl, rfl⟩ | ⟨rfl, rfl⟩ | ⟨rfl, rfl⟩ |
          ⟨rfl, rfl⟩ | ⟨rfl, rfl⟩ <;> rfl
      have hu : e ≠ 'u' := by
        rintro rfl
        exact nomatch hread
      show stringTail ('\\' :: e :: rest) = _
      rw [stringTail.eq_4 e rest (fun _ _ _ _ _ h => absurd h hu), hread]
  | unit h =>
      -- a character is never half of a pair, so its own code unit does not ask for another
      obtain ⟨a, b, c', d, rfl, hunit⟩ := codeUnit?_of_spells h
      obtain ⟨hhigh, hlow⟩ := not_surrogate c
      show stringTail ('\\' :: 'u' :: a :: b :: c' :: d :: rest) = _
      rw [stringTail]
      simp only [hunit, hhigh, hlow, Char.ofNat_toNat, Bool.false_eq_true, if_false]
  | @pair high low _ _ hhigh hlow hc hs ht =>
      obtain ⟨a, b, c', d, rfl, hfirst⟩ := codeUnit?_of_spells hs
      obtain ⟨a', b', c'', d', rfl, hsecond⟩ := codeUnit?_of_spells ht
      have hishigh : isHighHalf (0xD800 + high) = true := by
        simp only [isHighHalf, Bool.and_eq_true, decide_eq_true_eq]
        omega
      have hislow : isLowHalf (0xDC00 + low) = true := by
        simp only [isLowHalf, Bool.and_eq_true, decide_eq_true_eq]
        omega
      have hpair : pairChar (0xD800 + high) (0xDC00 + low) = c := by
        rw [pairChar, Nat.add_sub_cancel_left, Nat.add_sub_cancel_left, ← hc, Char.ofNat_toNat]
      show stringTail ('\\' :: 'u' :: a :: b :: c' :: d ::
        '\\' :: 'u' :: a' :: b' :: c'' :: d' :: rest) = _
      rw [stringTail]
      simp only [hfirst, hishigh, hsecond, hislow, hpair, if_true]

/-- A string is read up to its closing quotation mark. -/
theorem stringTail_of_spells {t : Text} {parts : List Text} (h : List.Forall₂ SpellsChar t parts)
    (rest : Text) : stringTail (parts.flatten ++ '"' :: rest) = some (t, rest) := by
  induction h with
  | nil => rfl
  | cons hchar _ ih =>
      rw [List.flatten_cons, List.append_assoc, stringTail_append hchar, ih]
      rfl

theorem SpellsString.exists_tail {t s : Text} (h : SpellsString t s) :
    ∃ tail, s = '"' :: tail ∧ ∀ rest, stringTail (tail ++ rest) = some (t, rest) := by
  obtain ⟨parts, hparts, rfl⟩ := h
  refine ⟨parts.flatten ++ ['"'], rfl, ?_⟩
  intro rest
  rw [List.append_assoc]
  exact stringTail_of_spells hparts rest

/-! ## Numbers -/

theorem head?_ofNat_ne_zero {n : Nat} (h : n ≠ 0) : (Numeral.ofNat n).head? ≠ some '0' := by
  induction n using Nat.strongRecOn with
  | ind n ih =>
      by_cases hlt : n < 10
      · have hall : ∀ n < 10, n ≠ 0 → some n.digitChar ≠ some '0' := by decide
        rw [Numeral.ofNat, Nat.toDigits_of_lt_base hlt]
        exact hall n hlt h
      · -- the numeral begins like that of the number without its last digit
        rw [Numeral.ofNat, Nat.toDigits_of_base_le (by decide) (by omega),
          List.head?_append_of_ne_nil _ Nat.toDigits_ne_nil]
        exact ih (n / 10) (by omega) (by omega)

theorem isWhole_ofNat {n : Nat} (h : (Numeral.ofNat n).length ≤ Numeral.digitLimit) :
    isWhole (Numeral.ofNat n) = true := by
  have hne : (Numeral.ofNat n).isEmpty = false := by
    rw [List.isEmpty_eq_false_iff]
    exact Nat.toDigits_ne_nil
  have hzero : (Numeral.ofNat n).length = 1 ∨ (Numeral.ofNat n).head? ≠ some '0' := by
    by_cases hn : n = 0
    · subst hn
      exact Or.inl rfl
    · exact Or.inr (head?_ofNat_ne_zero hn)
  simp only [isWhole, hne, h, Bool.not_false, Bool.true_and, decide_true, Bool.and_true,
    Bool.or_eq_true, beq_iff_eq, bne_iff_ne]
  exact hzero

theorem digitsValue_ofNat (n : Nat) : digitsValue (Numeral.ofNat n) = n := by
  calc digitsValue (Numeral.ofNat n)
      = Nat.ofDigitChars 10 (Nat.toDigits 10 n) 0 := by
        rw [digitsValue, Numeral.value, List.foldl_map, Nat.ofDigitChars_eq_foldl]
        rfl
    _ = n := Nat.ofDigitChars_ten_toDigits

/-- No delimiter continues a number. -/
theorem Delimited.head {rest : Text} (h : Delimited rest) {c : Char} (hc : rest.head? = some c) :
    c.isDigit = false ∧ c ≠ '.' ∧ c ≠ 'e' ∧ c ≠ 'E' := by
  have hmem := h c hc
  simp only [List.mem_cons, List.not_mem_nil, or_false] at hmem
  rcases hmem with rfl | rfl | rfl | rfl | rfl | rfl | rfl <;> decide

theorem finite?_ofNat {n : Nat} (h : (Numeral.ofNat n).length ≤ Numeral.digitLimit) {rest : Text}
    (hrest : Delimited rest) :
    finite? false (Numeral.ofNat n ++ rest) = some (.integer n, rest) := by
  have hdigits : ∀ c ∈ Numeral.ofNat n, c.isDigit = true := fun c hc => isDigit_of_mem_ofNat hc
  have hleading : leadingDigits (Numeral.ofNat n ++ rest) = Numeral.ofNat n := by
    rw [leadingDigits, List.takeWhile_append_of_pos hdigits]
    cases rest with
    | nil => simp
    | cons c more => simp [(hrest.head rfl).1]
  have hafter : afterDigits (Numeral.ofNat n ++ rest) = rest := by
    rw [afterDigits, List.dropWhile_append_of_pos hdigits]
    cases rest with
    | nil => rfl
    | cons c more => simp [(hrest.head rfl).1]
  have hfraction : fraction? rest = some (none, rest) := by
    cases rest with
    | nil => rfl
    | cons c more =>
        have hpoint := (hrest.head rfl).2.1
        rw [fraction?]
        rintro t heq
        exact hpoint (List.cons.inj heq).1
  have hexponent : exponent? rest = some (none, rest) := by
    cases rest with
    | nil => rfl
    | cons c more =>
        obtain ⟨-, -, hsmall, hcapital⟩ := hrest.head rfl
        rw [exponent?, if_neg (not_or.mpr ⟨hsmall, hcapital⟩)]
  rw [finite?, hleading, isWhole_ofNat h, hafter, hfraction]
  simp only [hexponent, if_true, numberOf, digitsValue_ofNat]
  rfl

theorem ne_of_isDigit {c d : Char} (hc : c.isDigit = true) (hd : d.isDigit = false) : c ≠ d := by
  rintro rfl
  rw [hc] at hd
  exact nomatch hd

theorem word?_of_head {word t : Text} {c : Char} (hword : word.head? = some c)
    (ht : t.head? ≠ some c) : word? word t = none := by
  rw [word?, isPrefixOf_of_head hword ht]
  rfl

theorem exists_ofNat_eq_cons (n : Nat) :
    ∃ c more, Numeral.ofNat n = c :: more ∧ c.isDigit = true := by
  cases hcase : Numeral.ofNat n with
  | nil => exact absurd hcase Nat.toDigits_ne_nil
  | cons c more =>
      refine ⟨c, more, rfl, isDigit_of_mem_ofNat (n := n) ?_⟩
      rw [hcase]
      exact List.mem_cons_self

/-- A text that begins with a digit can only be a finite number. -/
theorem number?_of_digit {c : Char} (h : c.isDigit = true) (t : Text) :
    number? (c :: t) = finite? false (c :: t) := by
  have hne : ∀ d : Char, d.isDigit = false → (c :: t).head? ≠ some d :=
    fun d hd heq => ne_of_isDigit h hd (Option.some.inj heq)
  rw [number?, word?_of_head (show _ = some 'N' from rfl) (hne 'N' rfl), magnitude?,
    word?_of_head (show _ = some 'I' from rfl) (hne 'I' rfl)]
  intro rest heq
  exact hne '-' rfl (congrArg List.head? heq)

/-! ## Scalars -/

theorem SpellsScalar.exists_cons {v : Value} {t : Text} (h : SpellsScalar v t) :
    ∃ c more, t = c :: more ∧ (c = '"' ∨ c = 'n' ∨ c.isDigit = true) := by
  cases h with
  | null => exact ⟨_, _, rfl, Or.inr (Or.inl rfl)⟩
  | number =>
      obtain ⟨c, more, heq, hdigit⟩ := exists_ofNat_eq_cons _
      exact ⟨c, more, heq, Or.inr (Or.inr hdigit)⟩
  | text h =>
      obtain ⟨tail, rfl, -⟩ := h.exists_tail
      exact ⟨_, tail, rfl, Or.inl rfl⟩

theorem scalar?_of_spells {v : Value} {t : Text} (h : SpellsScalar v t) {rest : Text}
    (hrest : Delimited rest) : scalar? (t ++ rest) = some (v, rest) := by
  cases h with
  | null => rfl
  | @number n hlimit =>
      obtain ⟨c, more, heq, hdigit⟩ := exists_ofNat_eq_cons n
      have hread : number? (Numeral.ofNat n ++ rest) = some (.integer n, rest) := by
        rw [← finite?_ofNat hlimit hrest, heq]
        exact number?_of_digit hdigit _
      have hne : ∀ d : Char, d.isDigit = false → (Numeral.ofNat n ++ rest).head? ≠ some d := by
        intro d hd hhead
        rw [heq] at hhead
        exact ne_of_isDigit hdigit hd (Option.some.inj hhead)
      rw [scalar?, word?_of_head (show _ = some 'n' from rfl) (hne 'n' rfl),
        word?_of_head (show _ = some 't' from rfl) (hne 't' rfl),
        word?_of_head (show _ = some 'f' from rfl) (hne 'f' rfl), hread]
      · rfl
      · intro tail htail
        exact hne '"' rfl (congrArg List.head? htail)
  | text h =>
      obtain ⟨tail, rfl, htail⟩ := h.exists_tail
      show (stringTail (tail ++ rest)).map _ = _
      rw [htail]
      rfl

/-! ## Lists

    Arrays and objects are read alike, but for the bracket that closes them and for what stands
    between the commas. -/

/-- The reader finds what is spelled by a text of at most `limit` characters, if white space
    stands in front of it and a delimiter behind. -/
def Finds {α : Type} (item? : Text → Option (α × Text)) (R : α → Text → Prop) (limit : Nat) :
    Prop :=
  ∀ x s, R x s → s.length ≤ limit → ∀ before rest, Space before → Delimited rest →
    item? (before ++ s ++ rest) = some (x, rest)

section

variable {α : Type} {item? : Text → Option (α × Text)} {R : α → Text → Prop} {limit : Nat}

/-- What is read up to a comma or a bracket; the rest depends on which of them it is. -/
theorem separated?_step (hfinds : Finds item? R limit) {x : α} {t : Text} (hx : Padded R x t)
    (ht : t.length ≤ limit) {c : Char} (hc : c ∈ [',', ']', '}']) (close : Char) (fuel : Nat)
    (rest : Text) :
    separated? item? close (fuel + 1) (t ++ c :: rest)
      = if c = ',' then (separated? item? close fuel rest).map fun (xs, rest) => (x :: xs, rest)
        else if c = close then some ([x], rest)
        else none := by
  obtain ⟨before, s, after, hbefore, hs, hafter, rfl⟩ := hx
  have hitem : item? (before ++ s ++ after ++ c :: rest) = some (x, after ++ c :: rest) := by
    rw [List.append_assoc]
    refine hfinds x s hs ?_ before _ hbefore (hafter.delimited_append (delimited_cons hc rest))
    rw [List.length_append, List.length_append] at ht
    omega
  rw [separated?, hitem]
  simp only [skipSpace_append hafter, skipSpace_cons (isSpace_of_mem hc)]

/-- Padded texts with commas between them are read one by one up to the bracket. -/
theorem separated?_of_forall₂ (hfinds : Finds item? R limit) {close : Char}
    (hclose : close ∈ [']', '}']) {xs : List α} {ts : List Text}
    (h : List.Forall₂ (Padded R) xs ts) (hne : ts ≠ []) (hlimit : (join [','] ts).length ≤ limit)
    {fuel : Nat} (hfuel : (join [','] ts).length < fuel) (rest : Text) :
    separated? item? close fuel (join [','] ts ++ close :: rest) = some (xs, rest) := by
  induction h generalizing fuel with
  | nil => exact absurd rfl hne
  | @cons x t xs ts hx hxs ih =>
      obtain ⟨fuel, rfl⟩ := Nat.exists_eq_add_one_of_ne_zero (Nat.ne_zero_of_lt hfuel)
      cases ts with
      | nil =>
          obtain rfl := List.forall₂_nil_right_iff.mp hxs
          have hcomma : close ≠ ',' := by
            rintro rfl
            exact absurd hclose (by decide)
          show separated? item? close (fuel + 1) (t ++ close :: rest) = _
          rw [separated?_step hfinds hx hlimit (List.mem_cons_of_mem ',' hclose), if_neg hcomma,
            if_pos rfl]
      | cons u more =>
          -- the comma is the character that pays for the fuel
          rw [join_cons_cons, List.length_append, List.length_append, List.length_singleton]
            at hlimit hfuel
          rw [join_cons_cons, List.append_assoc, List.append_assoc, List.singleton_append,
            separated?_step hfinds hx (by omega) List.mem_cons_self, if_pos rfl,
            ih (List.cons_ne_nil u more) (by omega) (by omega)]
          rfl

theorem bracketed?_of_space {close : Char} (hclose : close ∈ [']', '}']) {body : Text}
    (hbody : Space body) {fuel : Nat} (rest : Text) :
    bracketed? item? close fuel (body ++ close :: rest) = some ([], rest) := by
  have hspace : isSpace close = false := isSpace_of_mem (List.mem_cons_of_mem ',' hclose)
  rw [bracketed?, skipSpace_append hbody, skipSpace_cons hspace]
  exact if_pos rfl

/-- A list is read up to its closing bracket, if no item can be taken for that bracket. -/
theorem bracketed?_of_listed (hfinds : Finds item? R limit) {close : Char}
    (hclose : close ∈ [']', '}'])
    (hbegins : ∀ x s, R x s → ∃ c more, s = c :: more ∧ isSpace c = false ∧ c ≠ close)
    {xs : List α} {body : Text} (h : Listed R xs body) (hlimit : body.length ≤ limit) {fuel : Nat}
    (hfuel : body.length < fuel) (rest : Text) :
    bracketed? item? close fuel (body ++ close :: rest) = some (xs, rest) := by
  rcases h with ⟨rfl, hbody⟩ | ⟨ts, hts, rfl⟩
  · exact bracketed?_of_space hclose hbody rest
  · cases hts with
    | nil => exact bracketed?_of_space hclose space_nil rest
    | @cons x t xs ts hx hxs =>
        have hhead : (skipSpace (join [','] (t :: ts) ++ close :: rest)).head? ≠ some close := by
          obtain ⟨before, s, after, hbefore, hs, -, rfl⟩ := hx
          obtain ⟨c, more, rfl, hspace, hc⟩ := hbegins x s hs
          obtain ⟨tail, htail⟩ : ∃ tail, join [','] ((before ++ c :: more ++ after) :: ts)
              = before ++ c :: tail := by
            cases ts with
            | nil => exact ⟨more ++ after, by simp⟩
            | cons u others => exact ⟨more ++ after ++ [','] ++ join [','] (u :: others), by simp⟩
          rw [htail, List.append_assoc, skipSpace_append hbefore, List.cons_append,
            skipSpace_cons hspace]
          exact fun heq => hc (Option.some.inj heq)
        rw [bracketed?, if_neg hhead]
        exact separated?_of_forall₂ hfinds hclose (.cons hx hxs) (List.cons_ne_nil t ts) hlimit
          hfuel rest

end

/-- A member is found if its value is. -/
theorem Finds.member {item? : Text → Option (Value × Text)} {R : Value → Text → Prop} {limit : Nat}
    (hfinds : Finds item? R limit) : Finds (readMember? item?) (SpellsMember R) limit := by
  rintro ⟨name, v⟩ _ ⟨key, gap, gap', s, hkey, hgap, hgap', hs, rfl⟩ hlimit
  intro before rest hbefore hrest
  obtain ⟨tail, rfl, htail⟩ := SpellsString.exists_tail hkey
  have hvalue : item? (gap' ++ s ++ rest) = some (v, rest) := by
    refine hfinds v s hs ?_ gap' rest hgap' hrest
    rw [List.length_append] at hlimit
    omega
  have hopen : skipSpace (before ++ ('"' :: tail ++ gap ++ [':'] ++ gap' ++ s) ++ rest)
      = '"' :: (tail ++ (gap ++ ':' :: (gap' ++ s ++ rest))) := by
    rw [List.append_assoc, skipSpace_append hbefore]
    simp only [List.cons_append, List.append_assoc, List.nil_append]
    exact skipSpace_cons rfl _
  have hcolon : skipSpace (gap ++ ':' :: (gap' ++ s ++ rest)) = ':' :: (gap' ++ s ++ rest) := by
    rw [skipSpace_append hgap]
    exact skipSpace_cons rfl _
  rw [readMember?, hopen]
  simp only [htail, hcolon, hvalue]
  rfl

/-! ## Values -/

theorem isSpace_of_isDigit {c : Char} (h : c.isDigit = true) : isSpace c = false := by
  rw [Bool.eq_false_iff]
  intro hspace
  have hmem := isSpace_iff.mp hspace
  simp only [List.mem_cons, List.not_mem_nil, or_false] at hmem
  rcases hmem with rfl | rfl | rfl | rfl <;> exact nomatch h

/-- How the text of a scalar begins: not with white space and not with a bracket. -/
theorem SpellsScalar.begins {v : Value} {t : Text} (h : SpellsScalar v t) :
    ∃ c more, t = c :: more ∧ isSpace c = false ∧ c ∉ ['[', ']', '{', '}'] := by
  obtain ⟨c, more, rfl, rfl | rfl | hdigit⟩ := h.exists_cons
  · exact ⟨_, more, rfl, rfl, by decide⟩
  · exact ⟨_, more, rfl, rfl, by decide⟩
  · refine ⟨c, more, rfl, isSpace_of_isDigit hdigit, ?_⟩
    simp only [List.mem_cons, List.not_mem_nil, or_false]
    rintro (rfl | rfl | rfl | rfl) <;> exact nomatch hdigit

/-- No value begins like white space or like the end of an array. -/
theorem Spells.begins {depth : Nat} {v : Value} {t : Text} (h : Spells depth v t) :
    ∃ c more, t = c :: more ∧ isSpace c = false ∧ c ≠ ']' := by
  have hscalar : SpellsScalar v t → ∃ c more, t = c :: more ∧ isSpace c = false ∧ c ≠ ']' := by
    intro hv
    obtain ⟨c, more, rfl, hspace, hbracket⟩ := hv.begins
    refine ⟨c, more, rfl, hspace, ?_⟩
    rintro rfl
    exact hbracket (by decide)
  cases depth with
  | zero => exact h.elim
  | succ depth =>
      cases v with
      | array items =>
          obtain ⟨body, -, rfl⟩ := h
          exact ⟨'[', body ++ [']'], rfl, rfl, by decide⟩
      | object members =>
          obtain ⟨body, -, rfl⟩ := h
          exact ⟨'{', body ++ ['}'], rfl, rfl, by decide⟩
      | null | bool _ | number _ | text _ => exact hscalar h

theorem SpellsMember.begins {R : Value → Text → Prop} {member : Text × Value} {t : Text}
    (h : SpellsMember R member t) : ∃ c more, t = c :: more ∧ isSpace c = false ∧ c ≠ '}' := by
  obtain ⟨key, gap, gap', s, hkey, -, -, -, rfl⟩ := h
  obtain ⟨tail, rfl, -⟩ := hkey.exists_tail
  exact ⟨'"', tail ++ gap ++ [':'] ++ gap' ++ s, by simp, rfl, by decide⟩

theorem value?_of_spellsScalar {v : Value} {t : Text} (h : SpellsScalar v t) (fuel depth : Nat)
    {before rest : Text} (hbefore : Space before) (hrest : Delimited rest) :
    value? fuel (depth + 1) (before ++ t ++ rest) = some (v, rest) := by
  rw [← scalar?_of_spells h hrest]
  obtain ⟨c, more, rfl, hspace, hbracket⟩ := h.begins
  have hskip : skipSpace (before ++ c :: more ++ rest) = c :: more ++ rest := by
    rw [List.append_assoc, skipSpace_append hbefore]
    exact skipSpace_cons hspace _
  rw [value?, hskip]
  split
  · rename_i heq
    rw [(List.cons.inj heq).1] at hbracket
    exact absurd (by decide) hbracket
  · rename_i heq
    rw [(List.cons.inj heq).1] at hbracket
    exact absurd (by decide) hbracket
  · rfl

/-- Every value is found that nests no deeper than the reader goes. -/
theorem finds_value? (fuel depth : Nat) : Finds (value? fuel depth) (Spells depth) fuel := by
  -- on the depth: the items of a list are read by the reader for one level less
  induction depth with
  | zero => exact fun _ _ h => h.elim
  | succ depth ih =>
      intro v t h hlimit before rest hbefore hrest
      have hskip : ∀ (c : Char) (body : Text) (close : Char), isSpace c = false →
          skipSpace (before ++ ([c] ++ body ++ [close]) ++ rest)
            = c :: (body ++ close :: rest) := by
        intro c body close hc
        rw [List.append_assoc, skipSpace_append hbefore]
        simp only [List.cons_append, List.append_assoc, List.nil_append]
        exact skipSpace_cons hc _
      cases v with
      | array items =>
          obtain ⟨body, hbody, rfl⟩ := h
          rw [List.length_append, List.length_append, List.length_singleton] at hlimit
          rw [value?, hskip '[' body ']' rfl]
          show Option.map _ (bracketed? (value? fuel depth) ']' fuel _) = _
          rw [bracketed?_of_listed ih (by decide) (fun _ _ => Spells.begins) hbody (by omega)
            (by omega)]
          rfl
      | object members =>
          obtain ⟨body, hbody, rfl⟩ := h
          rw [List.length_append, List.length_append, List.length_singleton] at hlimit
          rw [value?, hskip '{' body '}' rfl]
          show Option.map _ (bracketed? (readMember? (value? fuel depth)) '}' fuel _) = _
          rw [bracketed?_of_listed ih.member (by decide) (fun _ _ => SpellsMember.begins) hbody
            (by omega) (by omega)]
          rfl
      | null | bool _ | number _ | text _ =>
          exact value?_of_spellsScalar h fuel depth hbefore hrest

/-- **EVERY TEXT OF A VALUE IS READ AS THAT VALUE.** -/
theorem read?_of_spells {v : Value} {t : Text} (h : Padded (Spells depthLimit) v t) :
    read? t = some v := by
  obtain ⟨before, s, after, hbefore, hs, hafter, rfl⟩ := h
  have hlength : s.length ≤ (before ++ s ++ after).length := by
    rw [List.length_append, List.length_append]
    omega
  have hafter' : Delimited after := by
    have := hafter.delimited_append delimited_nil
    rwa [List.append_nil] at this
  rw [read?, finds_value? _ _ v s hs hlength before after hbefore hafter']
  exact if_pos (skipSpace_of_space hafter)

end DocAudit.Json
