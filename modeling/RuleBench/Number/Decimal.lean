/-!
# Reading decimals

A decimal numeral is an integer times a power of ten; `ofDecimal` rounds it to the nearest binary
floating-point number.
-/

namespace RuleBench.Number

def infinity : Float := 1.0 / 0.0

/-- The floating-point number nearest to `mantissa * 10 ^ exponent`. Exponents that decide the
result on their own are not computed with. -/
def ofDecimal (mantissa : Nat) (exponent : Int) : Float :=
  if mantissa == 0 then 0.0
  else
    let magnitude : Int := (Nat.toDigits 10 mantissa).length + exponent
    if magnitude > 310 then infinity
    else if magnitude < -330 then 0.0
    else if exponent ≥ 0 then Float.ofScientific mantissa false exponent.toNat
    else Float.ofScientific mantissa true (-exponent).toNat

/-- The value of a digit in any base up to 36. -/
def digitValue (c : Char) : Nat :=
  if c.isDigit then c.toNat - 48
  else if c.isUpper then c.toNat - 55
  else c.toNat - 87

/-- The value of a list of digits. -/
def ofDigits (base : Nat) (cs : List Char) : Nat :=
  cs.foldl (fun n c => n * base + digitValue c) 0

@[simp] theorem ofDigits_nil (base : Nat) : ofDigits base [] = 0 := rfl

theorem ofDigits_concat (base : Nat) (cs : List Char) (c : Char) :
    ofDigits base (cs ++ [c]) = ofDigits base cs * base + digitValue c := by
  simp [ofDigits, List.foldl_append]

/-- Splits an exponent mark and a signed exponent off a list of decimal digits and a point. -/
def splitExponent (cs : List Char) : List Char × Int :=
  let body := cs.takeWhile fun c => c != 'e' && c != 'E'
  let exponent : Int := match cs.drop body.length with
    | _ :: '-' :: r => -(ofDigits 10 r : Int)
    | _ :: '+' :: r => ofDigits 10 r
    | _ :: r => ofDigits 10 r
    | [] => 0
  (body, exponent)

/-- The number written by digits, an optional point and an optional exponent. -/
def readDecimal (cs : List Char) : Float :=
  let (body, exponent) := splitExponent cs
  let whole := body.takeWhile (· != '.')
  let fraction := (body.drop whole.length).drop 1
  ofDecimal (ofDigits 10 (whole ++ fraction)) (exponent - fraction.length)

end RuleBench.Number
