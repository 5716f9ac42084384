import DocAudit.Text.Numeral
import DocAudit.Text.Quoted

/-! # UTF-8

    Files hold bytes.  A text is written as the UTF-8 encoding of its characters.
    Bytes are read back as text only if they are well-formed: no overlong form, no
    surrogate, nothing beyond U+10FFFF.  The FIRST ill-formed sequence is reported,
    with the bytes of it that were still acceptable. -/

namespace DocAudit.Text

/-- The UTF-8 encoding of a text. -/
def utf8 (t : Text) : List UInt8 := t.flatMap String.utf8EncodeChar

namespace Utf8

/-- What makes a sequence ill-formed. -/
inductive Reason where
  /-- The byte begins no sequence. -/
  | start
  /-- A byte of the sequence is missing and another stands in its place. -/
  | continuation
  /-- The bytes end inside the sequence. -/
  | truncated
  deriving Repr, DecidableEq

/-- An ill-formed sequence: the position of its first byte, that byte, and how many of
    its bytes were acceptable (the first always counts). -/
structure Fault where
  position : Nat
  byte : UInt8
  length : Nat
  reason : Reason
  deriving Repr, DecidableEq

/-- The reason in words. -/
def Reason.text : Reason → Text
  | .start => "invalid start byte"
  | .continuation => "invalid continuation byte"
  | .truncated => "unexpected end of data"

/-- The report of an ill-formed sequence. -/
def Fault.message (f : Fault) : Text :=
  let place : Text :=
    if f.length ≤ 1 then
      "byte 0x" ++ Numeral.hex 2 f.byte.toNat ++ " in position " ++ Numeral.ofNat f.position
    else
      "bytes in position " ++ Numeral.ofNat f.position ++ "-"
        ++ Numeral.ofNat (f.position + f.length - 1)
  quoted "utf-8" ++ " codec can" ++ [apostrophe] ++ "t decode " ++ place ++ ": " ++ f.reason.text

/-- A continuation byte. -/
def isContinuation (b : UInt8) : Bool := 0x80 ≤ b && b ≤ 0xBF

/-- The second byte of a sequence of three is a continuation byte that makes neither an
    overlong form nor a surrogate. -/
def isSecondOfThree (lead b : UInt8) : Bool :=
  isContinuation b && (lead != 0xE0 || 0xA0 ≤ b) && (lead != 0xED || b ≤ 0x9F)

/-- The second byte of a sequence of four is a continuation byte that makes neither an
    overlong form nor a code point that is too large. -/
def isSecondOfFour (lead b : UInt8) : Bool :=
  isContinuation b && (lead != 0xF0 || 0x90 ≤ b) && (lead != 0xF4 || b ≤ 0x8F)

/-- The six low bits of a continuation byte. -/
def payload (b : UInt8) : Nat := b.toNat % 64

/-- Decode the bytes that begin at a position. -/
def decodeFrom (position : Nat) : List UInt8 → Except Fault Text
  | [] => .ok []
  | lead :: rest =>
      if lead < 0x80 then
        (decodeFrom (position + 1) rest).map (Char.ofNat lead.toNat :: ·)
      else if lead < 0xC2 then .error ⟨position, lead, 1, .start⟩
      else if lead < 0xE0 then
        match rest with
        | [] => .error ⟨position, lead, 1, .truncated⟩
        | b :: rest =>
            if isContinuation b then
              (decodeFrom (position + 2) rest).map
                (Char.ofNat (lead.toNat % 32 * 64 + payload b) :: ·)
            else .error ⟨position, lead, 1, .continuation⟩
      else if lead < 0xF0 then
        match rest with
        | [] => .error ⟨position, lead, 1, .truncated⟩
        | [b] =>
            .error (if isSecondOfThree lead b then ⟨position, lead, 2, .truncated⟩
              else ⟨position, lead, 1, .continuation⟩)
        | b :: c :: rest =>
            if !isSecondOfThree lead b then .error ⟨position, lead, 1, .continuation⟩
            else if !isContinuation c then .error ⟨position, lead, 2, .continuation⟩
            else
              (decodeFrom (position + 3) rest).map
                (Char.ofNat ((lead.toNat % 16 * 64 + payload b) * 64 + payload c) :: ·)
      else if lead < 0xF5 then
        match rest with
        | [] => .error ⟨position, lead, 1, .truncated⟩
        | [b] =>
            .error (if isSecondOfFour lead b then ⟨position, lead, 2, .truncated⟩
              else ⟨position, lead, 1, .continuation⟩)
        | [b, c] =>
            .error (if !isSecondOfFour lead b then ⟨position, lead, 1, .continuation⟩
              else if !isContinuation c then ⟨position, lead, 2, .continuation⟩
              else ⟨position, lead, 3, .truncated⟩)
        | b :: c :: d :: rest =>
            if !isSecondOfFour lead b then .error ⟨position, lead, 1, .continuation⟩
            else if !isContinuation c then .error ⟨position, lead, 2, .continuation⟩
            else if !isContinuation d then .error ⟨position, lead, 3, .continuation⟩
            else
              (decodeFrom (position + 4) rest).map
                (Char.ofNat
                  (((lead.toNat % 8 * 64 + payload b) * 64 + payload c) * 64 + payload d) :: ·)
      else .error ⟨position, lead, 1, .start⟩

/-- The text of a sequence of bytes, or its first ill-formed sequence. -/
def decode (bytes : List UInt8) : Except Fault Text := decodeFrom 0 bytes

end Utf8

end DocAudit.Text
