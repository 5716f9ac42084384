import DocAudit.Text.CaseTable

/-! # Letter case

    The full case mappings of the Unicode standard.  Lowering depends on context
    in one place: a capital sigma becomes a FINAL sigma when a cased letter comes
    before it and none after it, the characters that case mapping ignores being
    skipped on both sides.  So the lower case of a text is not determined by
    the lower cases of its parts. -/

namespace DocAudit.Text

/-- The run holds the code point. -/
def CaseRun.holds (run : CaseRun) (n : Nat) : Bool :=
  run.first ≤ n && n ≤ run.last && (n - run.first) % run.stride == 0

/-- The other case of a code point, by the first run that holds it; a code point
    in no run has none and stands for itself. -/
def shiftCase (runs : List CaseRun) (n : Nat) : Char :=
  match runs.find? (·.holds n) with
  | some run => Char.ofNat (n + run.shift).toNat
  | none => Char.ofNat n

/-- A letter that comes in two cases and that case mapping does not ignore. -/
def isCased (c : Char) : Bool :=
  if c.toNat < 0x80 then c.isAlpha else casedRanges.holds c.toNat

/-- Marks and word-medial punctuation: skipped when the context of a sigma is
    looked at.  In ASCII these are full stop, colon, circumflex, apostrophe and
    grave accent. -/
def isCaseIgnorable (c : Char) : Bool :=
  if c.toNat < 0x80 then
    c == '.' || c == ':' || c == '^' || c.toNat == 0x27 || c.toNat == 0x60
  else caseIgnorableRanges.holds c.toNat

/-- The first character that is not ignored is cased. -/
def casedAhead : Text → Bool
  | [] => false
  | c :: rest => if isCaseIgnorable c then casedAhead rest else isCased c

/-- The lower case of one character outside a sigma's context; a dotted capital I
    becomes two characters. -/
def lowerChar (c : Char) : Text :=
  let n := c.toNat
  if n < 0x80 then [c.toLower]
  else if n = 0x130 then ['i', Char.ofNat 0x307]
  else [shiftCase lowerRuns n]

/-- Lower case, where `before` says whether the nearest character to the left that is not
    ignored is cased. -/
def lowerFrom (before : Bool) : Text → Text
  | [] => []
  | c :: rest =>
      let after := if isCaseIgnorable c then before else isCased c
      if c = 'Σ' then
        (if before && !casedAhead rest then 'ς' else 'σ') :: lowerFrom after rest
      else lowerChar c ++ lowerFrom after rest

/-- The lower case of a text. -/
def lower (t : Text) : Text := lowerFrom false t

/-- The upper case of one character, which may be several. -/
def upperChar (c : Char) : Text :=
  let n := c.toNat
  if n < 0x80 then [c.toUpper]
  else
    match upperExpansions.find? (·.1 == n) with
    | some (_, codes) => codes.map Char.ofNat
    | none => [shiftCase upperRuns n]

/-- The text with its first character in upper case. -/
def capitalise : Text → Text
  | [] => []
  | c :: rest => upperChar c ++ rest

end DocAudit.Text
