import RuleBench.Execution.Kind

/-!
# Lengths and truth

How many items a value has, and whether it counts as true. Both ask the class of the value first.
-/

namespace RuleBench.Execution

/-- How many steps a range has. -/
def rangeLength (start stop step : Int) : Nat :=
  if step > 0 then ((stop - start + step - 1) / step).toNat
  else if step < 0 then ((start - stop - step - 1) / -step).toNat
  else 0

/-- The number of items that a known value holds. -/
def World.knownLength? (w : World) (v : Value) : Option Nat :=
  match w.content v with
  | .str s => some s.length
  | .bytes b => some b.length
  | .tuple xs => some xs.length
  | .range start stop step => some (rangeLength start stop step)
  | .ref a => match w.get a with
    | .list xs => some xs.size
    | .dict es => some es.size
    | .set xs _ => some xs.size
    | .view _ d => match w.get d with
      | .dict es => some es.size
      | _ => some 0
    | _ => none
  | _ => none

/-- An integer, or what answers as one. -/
def asIndex (v : Value) : Action Int := do
  match (← Action.world).int? v with
  | some n => pure n
  | none => match ← callDeclared? v "__index__" with
    | some r => match (← Action.world).int? r with
      | some n => pure n
      | none => typeErrorOf r fun t => "__index__ returned non-int (type " ++ t ++ ")"
    | none => typeErrorOf v fun t => "'" ++ t ++ "' object cannot be interpreted as an integer"

/-- No position and no length is greater. -/
def greatestLength : Nat := 9223372036854775807

/-- Whether an integer may be a position in some sequence, counted from either end. -/
def isPosition (n : Int) : Bool := n.natAbs ≤ greatestLength

/-- An integer as a position; `cause` is the class of the error that others raise. -/
def asPosition (cause : String) (n : Int) : Action Int :=
  if isPosition n then pure n else fail cause "cannot fit 'int' into an index-sized integer"

/-- A count or a width. -/
def asCount (v : Value) : Action Int := do
  let n ← asIndex v
  if isPosition n then pure n
  else fail "OverflowError" "Python int too large to convert to C ssize_t"

/-- Refuses to build a sequence for which there is no room. -/
def needRoom (length : Nat) : Action Unit :=
  if length < 0x1000000000 then pure () else do Action.raise (← newError "MemoryError" [])

/-- The length that a declared method answers. -/
def declaredLength (answer : Value) : Action Nat := do
  let n ← asIndex answer
  if n < 0 then valueError "__len__() should return >= 0"
  else return (← asPosition "OverflowError" n).toNat

/-- The length of a value, known or declared. -/
def length? (v : Value) : Action (Option Nat) := do
  match ← callDeclared? v "__len__" with
  | some answer => return some (← declaredLength answer)
  | none => return (← Action.world).knownLength? v

def length (v : Value) : Action Nat := do
  match ← length? v with
  | some n => pure n
  | none => typeErrorOf v fun t => "object of type '" ++ t ++ "' has no len()"

/-- Whether a value counts as true. -/
def truthy (v : Value) : Action Bool := do
  match v with
  | .bool b => pure b
  | _ => match ← callDeclared? v "__bool__" with
    | some (.bool b) => pure b
    | some r => typeErrorOf r fun t => "__bool__ should return bool, returned " ++ t
    | none => match ← length? v with
      | some n => pure (n != 0)
      | none => match ← contentOf v with
        | .none => pure false
        | .int n => pure (n != 0)
        | .float x => pure !(x == 0.0)
        | .complex x y => pure !(x == 0.0 && y == 0.0)
        | _ => pure true

end RuleBench.Execution
