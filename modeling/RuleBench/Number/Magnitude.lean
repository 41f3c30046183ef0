import RuleBench.Number.Binary

/-!
# Magnitudes

Integers and floating-point numbers on one exact scale, so that numbers of different kinds compare
by value.
-/

namespace RuleBench.Number

/-- A real number for comparisons: an integer multiple of the smallest positive floating-point
number, or infinite. -/
inductive Magnitude where
  | finite (scaled : Int)
  | infinite (negative : Bool)
  | undefined
deriving BEq, DecidableEq

namespace Magnitude

def ofInt (n : Int) : Magnitude := .finite (n * Int.pow 2 1074)

def ofFloat (x : Float) : Magnitude :=
  match Binary.ofFloat? x with
  | some b => .finite b.scaled
  | none => if x.isNaN then .undefined else .infinite (isNegative x)

/-- Equal as numbers; what is no number equals nothing. -/
def same : Magnitude → Magnitude → Bool
  | undefined, _ => false
  | _, undefined => false
  | a, b => a == b

/-- Less as numbers; what is no number is neither less nor greater. -/
def less : Magnitude → Magnitude → Bool
  | finite a, finite b => a < b
  | finite _, infinite negative => !negative
  | infinite negative, finite _ => negative
  | infinite a, infinite b => a && !b
  | _, _ => false

theorem less_finite (a b : Int) : less (finite a) (finite b) = decide (a < b) := rfl

@[simp] theorem less_undefined_left (m : Magnitude) : less undefined m = false := by
  cases m <;> rfl

end Magnitude

end RuleBench.Number
