/-!
# Finite binary floating-point numbers

A finite floating-point number is a sign, an integer and a power of two. All exact arithmetic on
floating-point numbers goes through this form.
-/

namespace RuleBench.Number

/-- The number `± mantissa * 2 ^ exponent`. -/
structure Binary where
  negative : Bool
  mantissa : Nat
  exponent : Int
deriving Repr, DecidableEq

namespace Binary

/-- The smallest exponent that occurs. -/
def leastExponent : Int := -1074

/-- The exact value of a finite number; nothing for infinities and for what is no number. -/
def ofFloat? (x : Float) : Option Binary :=
  let bits : Nat := x.toBits.toNat
  let negative := bits ≥ Nat.pow 2 63
  let biased : Nat := bits / Nat.pow 2 52 % Nat.pow 2 11
  let fraction : Nat := bits % Nat.pow 2 52
  if biased == 2047 then none
  else if biased == 0 then some ⟨negative, fraction, leastExponent⟩
  else some ⟨negative, fraction + Nat.pow 2 52, (biased : Int) - 1075⟩

/-- The value as a multiple of the smallest positive number, so that values compare as integers. -/
def scaled (b : Binary) : Int :=
  let magnitude : Nat := b.mantissa * Nat.pow 2 (b.exponent - leastExponent).toNat
  if b.negative then -magnitude else magnitude

/-- A value as a quotient of natural numbers. -/
def quotient (b : Binary) : Nat × Nat :=
  if b.exponent ≥ 0 then (b.mantissa * Nat.pow 2 b.exponent.toNat, 1)
  else (b.mantissa, Nat.pow 2 (-b.exponent).toNat)

/-- The part of the value before the point. -/
def truncate (b : Binary) : Int :=
  let (n, d) := b.quotient
  if b.negative then -((n / d : Nat) : Int) else (n / d : Nat)

/-- Nothing stands behind the point. -/
def isWhole (b : Binary) : Bool :=
  let (n, d) := b.quotient
  n % d == 0

end Binary

/-- The sign bit, also of zero. -/
def isNegative (x : Float) : Bool := x.toBits ≥ 0x8000000000000000

end RuleBench.Number
