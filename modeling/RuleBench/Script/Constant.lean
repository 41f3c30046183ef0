import RuleBench.Number.Magnitude
import RuleBench.Number.Shortest
import RuleBench.Script.Syntax
import RuleBench.Text.Quoted

/-!
# Constants

The values that literals stand for, signed and complex numbers included: when two of them are equal,
and how they are written.
-/

namespace RuleBench.Script

open RuleBench.Number RuleBench.Text

/-- The most digits of an integer that is written in decimal. -/
def maxWrittenDigits : Nat := 4300

inductive Constant where
  | none
  | bool (value : Bool)
  | int (value : Int)
  | float (value : Float)
  | complex (re im : Float)
  | str (codePoints : List Nat)
  | bytes (value : List UInt8)
  | ellipsis

namespace Constant

/-- Numbers as pairs of real and imaginary part. -/
def magnitudes? : Constant → Option (Magnitude × Magnitude)
  | bool b => some (.ofInt (if b then 1 else 0), .ofInt 0)
  | int n => some (.ofInt n, .ofInt 0)
  | float x => some (.ofFloat x, .ofInt 0)
  | complex re im => some (.ofFloat re, .ofFloat im)
  | _ => Option.none

/-- Numbers are equal across their kinds. -/
def equals (a b : Constant) : Bool :=
  match a.magnitudes?, b.magnitudes? with
  | some x, some y => x == y
  | Option.none, Option.none =>
    match a, b with
    | none, none => true
    | str s, str t => s == t
    | bytes s, bytes t => s == t
    | ellipsis, ellipsis => true
    | _, _ => false
  | _, _ => false

def ofLiteral : Literal → Constant
  | .none => none
  | .bool b => bool b
  | .int n => int n
  | .float x => float x
  | .imaginary x => complex 0.0 x
  | .str s _ => str (codesOf s)
  | .wide cs _ => str cs
  | .bytes b => bytes b
  | .ellipsis => ellipsis

def negate : Constant → Option Constant
  | int n => some (int (-n))
  | float x => some (float (-x))
  | complex re im => some (complex (-re) (-im))
  | _ => Option.none

/-- The real and imaginary part of a number. -/
def parts? : Constant → Option (Float × Float)
  | int n => some (if n < 0 then -(Float.ofNat n.natAbs) else Float.ofNat n.natAbs, 0.0)
  | float x => some (x, 0.0)
  | complex re im => some (re, im)
  | _ => Option.none

/-- The constant that an expression of literals, signs and complex sums stands for. -/
def ofExpr? : Expr → Option Constant
  | .literal _ v => some (ofLiteral v)
  | .unaryOp _ .minus (.literal _ v) => (ofLiteral v).negate
  | .binOp _ a op (.literal _ (.imaginary y)) => do
    let left ← match a with
      | .literal _ v => some (ofLiteral v)
      | .unaryOp _ .minus (.literal _ v) => (ofLiteral v).negate
      | _ => Option.none
    let (re, im) ← left.parts?
    match op with
    | .add => some (complex (re + 0.0) (im + y))
    | .sub => some (complex (re - 0.0) (im - y))
    | _ => Option.none
  | _ => Option.none

/-- A complex number: in parentheses with a signed imaginary part, unless its real part is a
positive zero. -/
def complexText (re im : Float) : String :=
  let part := FloatStyle.part.render
  if re == 0.0 && !isNegative re then part im ++ "j"
  else
    let sign := if isNegative im && !im.isNaN then "" else "+"
    "(" ++ part re ++ sign ++ part im ++ "j)"

def text : Constant → String
  | none => "None"
  | bool b => if b then "True" else "False"
  | int n => toString n
  | float x => floatText x
  | complex re im => complexText re im
  | str cs => quotedCodes cs
  | bytes b => quotedBytes b
  | ellipsis => "Ellipsis"

end Constant

end RuleBench.Script
