import RuleBench.Number.Shortest

/-!
# Rounding to a number of digits

The exact value of a floating-point number rounded to decimal places or to significant digits. Of
two equally near candidates the even one is taken.
-/

namespace RuleBench.Number

/-- A quotient rounded to the nearest integer, a tie to the even one. -/
def roundQuotient (num den : Nat) : Nat :=
  let below := num / den
  let rest := 2 * (num % den)
  if rest < den then below
  else if den < rest then below + 1
  else if below % 2 == 0 then below else below + 1

/-- A rounded quotient is off by half a unit at most. -/
theorem roundQuotient_near (num den : Nat) (h : 0 < den) :
    2 * num ≤ (2 * roundQuotient num den + 1) * den ∧
      (2 * roundQuotient num den) * den ≤ 2 * num + den := by
  have split := Nat.div_add_mod num den
  have less := Nat.mod_lt num h
  have mul : den * (num / den) = num / den * den := Nat.mul_comm ..
  simp only [roundQuotient]
  have e1 : (2 * (num / den) + 1) * den = 2 * (num / den * den) + den := by
    rw [Nat.add_mul, Nat.mul_assoc, Nat.one_mul]
  have e2 : (2 * (num / den + 1) + 1) * den = 2 * (num / den * den) + 3 * den := by
    rw [Nat.mul_add, Nat.add_assoc, Nat.add_mul, Nat.mul_assoc]
  have e3 : 2 * (num / den) * den = 2 * (num / den * den) := Nat.mul_assoc ..
  have e4 : 2 * (num / den + 1) * den = 2 * (num / den * den) + 2 * den := by
    rw [Nat.mul_add, Nat.add_mul, Nat.mul_assoc]
  split
  · omega
  · split
    · omega
    · split <;> omega

namespace Binary

/-- The value without its sign, in units of the given decimal place. -/
def atPlaces (b : Binary) (places : Int) : Nat :=
  let (num, den) := b.quotient
  roundQuotient (num * Nat.pow 10 places.toNat) (den * Nat.pow 10 (-places).toNat)

/-- The exponent of ten of the leading digit. -/
def leading (b : Binary) : Int :=
  let (num, den) := b.quotient
  (digitCount (num * Nat.pow 10 400 / den) : Int) - 401

/-- The given number of significant digits, and the exponent of ten of the first of them. -/
def significant (b : Binary) (digits : Nat) : Nat × Int :=
  if b.mantissa == 0 then (0, 0)
  else
    let leading := b.leading
    let n := b.atPlaces (digits - 1 - leading)
    if n ≥ Nat.pow 10 digits then (n / 10, leading + 1) else (n, leading)

end Binary

/-- Digits of a number, with zeros in front up to a count. -/
def paddedDigits (count n : Nat) : List Char :=
  let digits := Nat.toDigits 10 n
  List.replicate (count - digits.length) '0' ++ digits

/-- Digits with a point before the last `places` of them. -/
def placed (places : Nat) (digits : List Char) : String :=
  let (whole, fraction) := digits.splitAt (digits.length - places)
  String.ofList whole ++ (if fraction.isEmpty then "" else "." ++ String.ofList fraction)

/-- The value without its sign, with a fixed number of places. -/
def Binary.fixedText (b : Binary) (places : Nat) : String :=
  placed places (paddedDigits (places + 1) (b.atPlaces places))

/-- The value without its sign, as one digit, places and an exponent. -/
def Binary.scientificText (b : Binary) (places : Nat) : String :=
  let (n, exponent) := b.significant (places + 1)
  placed places (paddedDigits (places + 1) n) ++ exponentText exponent

/-- A text without the zeros, and then the point, at its end. -/
def dropZeros (text : String) : String :=
  if text.any (· == '.') then
    let kept := (text.toList.reverse.dropWhile (· == '0'))
    String.ofList ((if kept.head? == some '.' then kept.drop 1 else kept).reverse)
  else text

/-- The value without its sign with a number of significant digits, in the notation that suits its
exponent: places from `10 ^ -4` up to the exponent `last`. Zeros at the end are dropped unless
kept. -/
def Binary.generalText (b : Binary) (digits : Nat) (last : Int) (keep : Bool) : String :=
  let (n, exponent) := b.significant digits
  if -4 ≤ exponent && exponent ≤ last then
    let places : Int := digits - 1 - exponent
    let text := placed places.toNat (paddedDigits (places.toNat + 1)
      (if places < 0 then n * Nat.pow 10 (-places).toNat else n))
    if keep then text else dropZeros text
  else
    let text := placed (digits - 1) (paddedDigits digits n)
    (if keep then text else dropZeros text) ++ exponentText exponent

/-- A quotient in units of a power of two. -/
def inUnits (num den : Nat) (exponent : Int) : Nat :=
  roundQuotient (num * Nat.pow 2 (-exponent).toNat) (den * Nat.pow 2 exponent.toNat)

/-- The floating-point number nearest to a quotient; infinite where it is too large. The unit is
chosen so that 53 bits are left, or fewer next to zero. -/
def ofQuotient (negative : Bool) (num den : Nat) : Float :=
  let bits : Int := (Nat.log2 num : Int) - Nat.log2 den
  let coarse : Int := max (bits - 52) Binary.leastExponent
  let exponent :=
    if inUnits num den coarse < Nat.pow 2 52 && coarse > Binary.leastExponent then coarse - 1
    else coarse
  let magnitude :=
    if num == 0 then 0.0 else Float.scaleB (Float.ofNat (inUnits num den exponent)) exponent
  if negative then -magnitude else magnitude

/-- The remainder of a division towards zero, with the sign of the dividend. -/
def remainder (x y : Float) : Float :=
  match Binary.ofFloat? x, Binary.ofFloat? y with
  | some a, some b =>
    if b.mantissa == 0 then 0.0 / 0.0
    else ofQuotient (isNegative x) (a.scaled.natAbs % b.scaled.natAbs) (Nat.pow 2 1074)
  | some _, none => if y.isNaN then y else x
  | none, _ => 0.0 / 0.0

end RuleBench.Number
