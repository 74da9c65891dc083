namespace FlagSheet

/-- A number as it is written: whole numbers that fit into 64 bits on their own, any other number as a
decimal, so that `1` and `1.0` differ. -/
inductive Json.Number where
  | natural (n : UInt64)
  /-- The number `-n`, from `-1` down to `-2^63`. -/
  | negative (n : UInt64)
  /-- The number `± significand * 10 ^ exponent`. -/
  | decimal (minus : Bool) (significand : Nat) (exponent : Int)
deriving DecidableEq, Repr

inductive Json where
  | null
  | bool (b : Bool)
  | number (n : Json.Number)
  | string (s : String)
  | array (items : List Json)
  /-- The members of an object, of which no two have the same name. -/
  | object (members : List (String × Json))
deriving Repr, Inhabited

namespace Json

/-- The number that a decimal stands for, rounded to a double. A power of ten is a double of its own, and the
significand is multiplied or divided by it. -/
def Number.float (minus : Bool) (significand : Nat) (exponent : Int) : Float :=
  let size := if significand = 0 then 0 else scale 40 (Float.ofNat significand) exponent
  if minus then -size else size
where
  scale (steps : Nat) (size : Float) (exponent : Int) : Float :=
    if exponent.natAbs ≤ 308 then
      let power := Float.ofScientific 1 false exponent.natAbs
      if 0 ≤ exponent then size * power else size / power
    else if 0 ≤ exponent then size * Float.ofScientific 1 false 400
    else
      match steps with
      | 0 => 0
      | steps + 1 => scale steps (size / Float.ofScientific 1 false 308) (exponent + 308)

def get? (members : List (String × Json)) (name : String) : Option Json := members.lookup name

/-- The fields of a record, which is an object with members of these names, or an array of the fields in this
order with none behind them. Fields may be missing. -/
def record? (names : List String) : Json → Option (List (Option Json))
  | object members => some (names.map (get? members))
  | array items =>
    if items.length ≤ names.length then
      some (items.map some ++ List.replicate (names.length - items.length) none)
    else none
  | _ => none

def string? : Json → Option String
  | string s => some s
  | _ => none

def bool? : Json → Option Bool
  | bool b => some b
  | _ => none

def optionalString? : Option Json → Option (Option String)
  | none => some none
  | some null => some none
  | some (string s) => some (some s)
  | some _ => none

def ofOptional : Option String → Json
  | some s => string s
  | none => null

def ofNat (n : Nat) : Json := number (.natural (UInt64.ofNat n))

end Json

end FlagSheet
