import RuleBench.Number.Binary

/-!
# The shortest text of a floating-point number

`shortest` finds the fewest decimal digits that read back as the same number, and of those the
nearest; the search compares exact natural numbers. `FloatStyle` says how the digits are laid out.
-/

namespace RuleBench.Number

/-- How many decimal digits a natural number has. -/
def digitCount (n : Nat) : Nat := (Nat.toDigits 10 n).length

/-- The numbers that read back as a given one: between `low` and `high` over `den`, ends included
when `closed`, with the given number `value` over `den` among them. -/
structure Neighbourhood where
  low : Nat
  value : Nat
  high : Nat
  den : Nat
  closed : Bool

namespace Neighbourhood

/-- The reals that round to `mantissa * 2 ^ exponent`. Below a power of two the gap is half as wide,
unless it is the smallest exponent. -/
def ofBinary (mantissa : Nat) (exponent : Int) : Neighbourhood :=
  let below := if mantissa == Nat.pow 2 52 && exponent > Binary.leastExponent then 1 else 2
  let shift := exponent - 2
  let up := Nat.pow 2 shift.toNat
  ⟨(4 * mantissa - below) * up, 4 * mantissa * up, (4 * mantissa + 2) * up,
    Nat.pow 2 (-shift).toNat,
    mantissa % 2 == 0⟩

def holds (b : Neighbourhood) (num : Nat) : Bool :=
  if b.closed then b.low ≤ num && num ≤ b.high else b.low < num && num < b.high

/-- The same neighbourhood with all numbers multiplied by `10 ^ k`, for a negative `k` divided. -/
def scale (b : Neighbourhood) (k : Int) : Neighbourhood :=
  let up := Nat.pow 10 k.toNat
  { b with low := b.low * up, value := b.value * up, high := b.high * up
           den := b.den * Nat.pow 10 (-k).toNat }

/-- The exponent of ten of the leading digit of the value. -/
def leadingExponent (b : Neighbourhood) : Int :=
  (digitCount (b.value * Nat.pow 10 400 / b.den) : Int) - 401

/-- The integer of the neighbourhood that is nearest to the value, of two equally near ones the even
one. -/
def nearest? (b : Neighbourhood) : Option Nat :=
  let below := b.value / b.den
  let above := below + 1
  match b.holds (below * b.den), b.holds (above * b.den) with
  | false, false => none
  | true, false => some below
  | false, true => some above
  | true, true =>
    let rest := 2 * (b.value % b.den)
    if rest < b.den then some below
    else if rest > b.den then some above
    else if below % 2 == 0 then some below else some above

/-- Tries one digit after the other, at most `fuel` more. -/
def search (b : Neighbourhood) (leading : Int) (digits : Nat) : Nat → Nat × Int
  | 0 => (b.value / b.den, 0)
  | fuel + 1 =>
    let last := leading - digits
    match (b.scale (-last)).nearest? with
    | some n => (n, last)
    | none => b.search leading (digits + 1) fuel

end Neighbourhood

/-- Digits and the exponent of ten of the last digit. -/
def shortest (mantissa : Nat) (exponent : Int) : Nat × Int :=
  let b := Neighbourhood.ofBinary mantissa exponent
  b.search b.leadingExponent 0 18

/-- Where positional notation ends, and whether a whole number keeps a point. -/
structure FloatStyle where
  leastPositional : Int
  firstScientific : Int
  keepPoint : Bool
  infinityText : String
  nanText : String

/-- The plain text of a number. -/
def FloatStyle.plain : FloatStyle := ⟨-4, 16, true, "inf", "nan"⟩

/-- The text of a part of a complex number. -/
def FloatStyle.part : FloatStyle := { FloatStyle.plain with keepPoint := false }

/-- An exponent with its sign and at least two digits. -/
def exponentText (e : Int) : String :=
  let digits := toString e.natAbs
  (if e < 0 then "e-" else "e+") ++ (if digits.length < 2 then "0" ++ digits else digits)

/-- Digits with a point behind the first `point` of them, padded with zeros on either side. -/
def positional (digits : List Char) (point : Int) : List Char × List Char :=
  if point ≤ 0 then (['0'], List.replicate (-point).toNat '0' ++ digits)
  else
    let n := point.toNat
    (digits.take n ++ List.replicate (n - digits.length) '0', digits.drop n)

namespace FloatStyle

def layout (style : FloatStyle) (digits : List Char) (leading : Int) : String :=
  if style.leastPositional ≤ leading && leading < style.firstScientific then
    let (whole, fraction) := positional digits (leading + 1)
    let tail :=
      if fraction.isEmpty then (if style.keepPoint then ".0" else "")
      else "." ++ String.ofList fraction
    String.ofList whole ++ tail
  else
    let (whole, fraction) := positional digits 1
    String.ofList whole ++ (if fraction.isEmpty then "" else "." ++ String.ofList fraction)
      ++ exponentText leading

/-- The text of a number in this style. -/
def render (style : FloatStyle) (x : Float) : String :=
  let sign := if isNegative x then "-" else ""
  match Binary.ofFloat? x with
  | none => if x.isNaN then style.nanText else sign ++ style.infinityText
  | some b =>
    if b.mantissa == 0 then sign ++ style.layout ['0'] 0
    else
      let (n, last) := shortest b.mantissa b.exponent
      let digits := Nat.toDigits 10 n
      let kept := (digits.reverse.dropWhile (· == '0')).reverse
      sign ++ style.layout kept (last + digits.length - 1)

end FloatStyle

/-- The shortest text that reads back as the same number. -/
def floatText (x : Float) : String := FloatStyle.plain.render x

end RuleBench.Number
