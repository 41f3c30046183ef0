import RuleBench.Execution.Subscript

/-!
# Sorting

A stable sort that asks for nothing but "less". The values in front that are in order already are
taken as they are, a descending start is turned round, and every further value is put in place by
halving. Which comparisons are made, and in which order, shows when one of them raises.
-/

namespace RuleBench.Execution

/-- A value with the key it is sorted by. -/
structure Keyed where
  key : Value
  value : Value

instance : Inhabited Keyed := ⟨⟨.none, .none⟩⟩

variable (less : Value → Value → Action Bool)

/-- How many values go on with an ascending or descending start behind `last`. -/
def runLength (descending : Bool) (last : Keyed) : List Keyed → Action Nat
  | [] => pure 0
  | x :: xs => do
    if (← less x.key last.key) == descending then return (← runLength descending x xs) + 1
    else pure 0

/-- The place for a key among sorted values from `low` up to `high`, at most `fuel` halvings
away. -/
def placeFor (sorted : Array Keyed) (key : Value) : Nat → Nat → Nat → Action Nat
  | 0, low, _ => pure low
  | fuel + 1, low, high => do
    if low < high then
      let middle := low + (high - low) / 2
      match sorted[middle]? with
      | none => pure low
      | some x =>
        if ← less key x.key then placeFor sorted key fuel low middle
        else placeFor sorted key fuel (middle + 1) high
    else pure low

def insertAll (sorted : Array Keyed) : List Keyed → Action (Array Keyed)
  | [] => pure sorted
  | x :: xs => do
    let i ← placeFor less sorted x.key sorted.size 0 sorted.size
    insertAll (sorted.insertIdxIfInBounds i x) xs

/-- Sorts values by their keys. -/
def sortKeyed (xs : List Keyed) : Action (List Keyed) := do
  match xs with
  | first :: second :: rest =>
    let descending ← less second.key first.key
    let n := 2 + (← runLength less descending second rest)
    let start := xs.take n
    let start := if descending then start.reverse else start
    return (← insertAll less start.toArray (xs.drop n)).toList
  | xs => pure xs

/-- A value with the key that a function makes of it; without one it is its own key. -/
def keyedBy (key x : Value) : Action Keyed :=
  match key with
  | .none => pure ⟨x, x⟩
  | f => do return ⟨← call f [x], x⟩

/-- Sorts values by a key that a function makes of them, descending if asked; equal ones keep their
order. -/
def sortValues (xs : List Value) (key : Value) (descending : Bool) : Action (List Value) := do
  let keyed ← xs.mapM (keyedBy key)
  let keyed := if descending then keyed.reverse else keyed
  let sorted ← sortKeyed less keyed
  let sorted := if descending then sorted.reverse else sorted
  pure (sorted.map (·.value))

end RuleBench.Execution
