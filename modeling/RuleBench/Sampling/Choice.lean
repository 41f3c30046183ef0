import RuleBench.Sampling.Generator

/-!
# Choosing samples

A choice of some positions of a list without repetition, in the order in which they are drawn. Small
populations are kept in a pool from which positions are taken; for large ones the positions already
chosen are remembered.
-/

namespace RuleBench.Sampling

open RuleBench

/-- Why nothing is chosen. -/
inductive ChoiceError where
  /-- More are asked for than there are, or fewer than none. -/
  | sizeOutOfRange
  /-- A place was looked up that there is not. -/
  | placeOutOfRange
deriving Repr, DecidableEq

/-- The wording for a size below zero. -/
def negativeSizeMessage : String := "Sample larger than population or is negative"

def ChoiceError.message : ChoiceError → String
  | sizeOutOfRange => negativeSizeMessage
  | placeOutOfRange => "list index out of range"

/-- A computation that draws from a generator. It ends with a value or an error, or comes to no end
because too much of what was drawn had to be discarded. -/
abbrev Draw := StateT Generator (ExceptT ChoiceError Option)

/-- Goes on for as long as its patience lasts. -/
def exhausted {α : Type} : Draw α := fun _ => .mk none

/-- Draws a number below a bound, among the first `draws`. -/
def number (draws bound : Nat) : Draw Nat := fun g => .mk ((Generator.below draws bound g).map .ok)

/-- The element at a place. -/
def entry {α : Type} (xs : Array α) (i : Nat) : Draw α :=
  match xs[i]? with
  | some x => pure x
  | none => throw .placeOutOfRange

/-- Draws positions from a pool of `left` positions; the last one of the pool moves into the place
of the one that was drawn. -/
def fromPool (draws : Nat) : Nat → Nat → Array Nat → Draw (List Nat)
  | 0, _, _ => pure []
  | count + 1, left, pool => do
    let j ← number draws left
    let chosen ← entry pool j
    let last ← entry pool (left - 1)
    let rest ← fromPool draws count (left - 1) (pool.setIfInBounds j last)
    pure (chosen :: rest)

/-- Draws a position below `bound` that is not among those taken. -/
def fresh (draws bound : Nat) (taken : List Nat) : Nat → Draw Nat
  | 0 => exhausted
  | fuel + 1 => do
    let j ← number draws bound
    if taken.contains j then fresh draws bound taken fuel else pure j

/-- Draws positions that differ from each other and from those taken. -/
def avoiding (draws bound : Nat) : Nat → List Nat → Draw (List Nat)
  | 0, _ => pure []
  | count + 1, taken => do
    let j ← fresh draws bound taken draws
    let rest ← avoiding draws bound count (j :: taken)
    pure (j :: rest)

/-- The least power of four that is not below `n`, as an exponent; at most `fuel`. -/
def fourthLog (n : Nat) : Nat → Nat → Nat
  | 0, e => e
  | fuel + 1, e => if Nat.pow 4 e ≥ n then e else fourthLog n fuel (e + 1)

/-- The largest population that is kept in a pool for a number of samples. -/
def poolLimit (count : Nat) : Nat :=
  if count ≤ 5 then 21 else 21 + Nat.pow 4 (fourthLog (count * 3) (count * 3) 0)

/-- Draws `count` different positions of a population. -/
def positions (draws population : Nat) (count : Int) : Draw (List Nat) :=
  if count < 0 ∨ population < count then throw .sizeOutOfRange
  else if population ≤ poolLimit count.toNat then
    fromPool draws count.toNat population (Array.range population)
  else avoiding draws population count.toNat []

/-- Draws at most `size` elements of a list. -/
def choose {α : Type} (draws : Nat) (xs : List α) (size : Int) : Draw (List α) := do
  let places ← positions draws xs.length (min size xs.length)
  places.mapM (entry xs.toArray)

/-- The elements that are drawn with the patience there is, and the generator then. -/
def select {α : Type} (xs : List α) (size : Nat) (g : Generator) : Option (List α × Generator) :=
  match (choose Generator.greatestDraws xs size g).run with
  | some (.ok result) => some result
  | _ => none

end RuleBench.Sampling
