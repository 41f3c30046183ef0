import RuleBench.Execution.Conversion
import RuleBench.Execution.Arithmetic

/-!
# Methods of numbers

What integers and floating-point numbers answer besides operators, and rounding.
-/

namespace RuleBench.Execution

open RuleBench.Number

/-- An integer rounded to a multiple of a power of ten, a half to the even neighbour. -/
def roundInt (n : Int) (power : Nat) : Int :=
  let m : Int := (roundQuotient n.natAbs (Nat.pow 10 power) * Nat.pow 10 power : Nat)
  if n < 0 then -m else m

/-- The integer nearest to a floating-point number, a half to the even neighbour. -/
def nearestInt (b : Binary) : Int :=
  let m : Int := b.atPlaces 0
  if b.negative then -m else m

/-- A floating-point number rounded to decimal places. -/
def roundFloat (x : Float) (places : Int) : Float :=
  match Binary.ofFloat? x with
  | none => x
  | some b =>
    if places > 323 then x
    else if places < -308 then zeroLike x
    else
      let y := ofDecimal (b.atPlaces places) (-places)
      if b.negative then -y else y

/-- Rounds a floating-point number to an integer. -/
def roundToWhole (x : Float) : Action Value :=
  match Binary.ofFloat? x with
  | some b => pure (.int (nearestInt b))
  | none =>
    if x.isNaN then valueError "cannot convert float NaN to integer"
    else fail "OverflowError" "cannot convert float infinity to integer"

/-- Rounds a floating-point number to an integer, or to decimal places. -/
def roundDecimal (x : Float) : Value → Action Value
  | .none => roundToWhole x
  | places => return .float (roundFloat x (← asIndex places))

/-- Rounds an integer to the places before its point. -/
def roundWhole (n : Int) : Value → Action Value
  | .none => pure (.int n)
  | places => do
    let places ← asIndex places
    pure (.int (if places ≥ 0 then n else roundInt n (-places).toNat))

/-- Rounds the integer that a value holds. -/
def roundInteger (v content places : Value) : Action Value := do
  match (← Action.world).int? content with
  | some n => roundWhole n places
  | none => typeErrorOf v fun t => "type " ++ t ++ " doesn't define __round__ method"

/-- Rounds a number to an integer, or to decimal places. -/
def roundNumber (v : Value) (places : Value) : Action Value := do
  match ← contentOf v with
  | .float x => roundDecimal x places
  | c => roundInteger v c places

/-- The number of digits that an integer has in base two. -/
def bitLength (n : Nat) : Nat := if n == 0 then 0 else Nat.log2 n + 1

def bitCount (n : Nat) : Nat := ((Nat.toDigits 2 n).filter (· == '1')).length

/-- The octets of a natural number, lowest first. -/
def octetsOf : Nat → Nat → List UInt8
  | 0, _ => []
  | size + 1, n => (n % 256).toUInt8 :: octetsOf size (n / 256)

/-- Whether the highest octet comes first. -/
def highestFirst : Option Value → Action Bool
  | none => pure true
  | some v => do
    match (← Action.world).text? v with
    | some "big" => pure true
    | some "little" => pure false
    | _ => valueError "byteorder must be either 'little' or 'big'"

/-- The octets of an integer, two's complement where it has a sign. -/
def sizedOctets (n : Int) (signed highestFirst : Bool) (size : Nat) : Action Value := do
  let limit : Int := Int.pow 256 size
  if n < 0 && !signed then fail "OverflowError" "can't convert negative int to unsigned"
  let fits := if signed then -limit ≤ 2 * n && 2 * n < limit else n < limit
  if !fits then fail "OverflowError" "int too big to convert"
  let octets := octetsOf size (n % limit).toNat
  pure (.bytes (if highestFirst then octets.reverse else octets))

def toOctets (n : Int) (args : List Value) (named : Bindings) : Action Value := do
  let signed ← isOn (named.lookup "signed")
  match ← pickArguments "to_bytes" ["length", "byteorder"] args (named.remove "signed") with
  | [size, order] => do
    let size ← indexOr 1 size
    sizedOctets n signed (← highestFirst order) size.toNat
  | _ => pure .none

/-- Calls a method of an integer. -/
def wholeMethod (name : String) (n : Int) (args : List Value) (named : Bindings) :
    Action Value := do
  match name with
  | "to_bytes" => toOctets n args named
  | name => do
    noArguments ("int." ++ name) args named
    match name with
    | "bit_length" => pure (.int (bitLength n.natAbs))
    | "bit_count" => pure (.int (bitCount n.natAbs))
    | "conjugate" => pure (.int n)
    | "as_integer_ratio" => pure (.tuple [.int n, .int 1])
    | _ => pure .notImplemented

/-- An exact fraction in lowest terms. -/
def lowestTerms (b : Binary) : Int × Nat :=
  let (n, d) := b.quotient
  let g := Nat.gcd n d
  let m : Int := (n / g : Nat)
  (if b.negative then -m else m, d / g)

/-- The integers whose ratio a floating-point number is. -/
def integerRatio (x : Float) : Action Value :=
  match Binary.ofFloat? x with
  | some b =>
    let (n, d) := lowestTerms b
    pure (.tuple [.int n, .int d])
  | none =>
    if x.isNaN then valueError "cannot convert NaN to integer ratio"
    else fail "OverflowError" "cannot convert Infinity to integer ratio"

/-- Calls a method of a floating-point number. -/
def floatMethod (name : String) (x : Float) (args : List Value) (named : Bindings) :
    Action Value := do
  noArguments ("float." ++ name) args named
  match name with
  | "is_integer" => pure (.bool (((Binary.ofFloat? x).map Binary.isWhole).getD false))
  | "conjugate" => pure (.float x)
  | "as_integer_ratio" => integerRatio x
  | _ => pure .notImplemented

end RuleBench.Execution
