import DocAudit.Text.Basic

/-! # JSON values

    A value as it is written: an object keeps its members in their order, with
    repeated names, and a number keeps the difference between an integer and a
    decimal fraction. -/

namespace DocAudit.Json

/-- A decimal fraction: `mantissa` times ten to the power `exponent`. -/
structure Decimal where
  negative : Bool
  mantissa : Nat
  exponent : Int
  deriving Repr, DecidableEq

/-- A number as it is written. -/
inductive Number where
  | integer (n : Int)
  | decimal (d : Decimal)
  | notANumber
  | infinite
  deriving Repr, DecidableEq

/-- A JSON value. -/
inductive Value where
  | null
  | bool (b : Bool)
  | number (n : Number)
  | text (t : Text)
  | array (items : List Value)
  | object (members : List (Text × Value))
  deriving Repr, Inhabited

/-- The value of a member; of repeated members the LAST counts. -/
def member? (name : Text) : List (Text × Value) → Option Value
  | [] => none
  | (key, value) :: rest =>
      match member? name rest with
      | some last => some last
      | none => if key = name then some value else none

end DocAudit.Json
