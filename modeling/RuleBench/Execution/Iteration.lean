import RuleBench.Execution.Attribute

/-!
# Iteration

How a value is run through: an iterator is taken from it, and the iterator hands out one value after
the other until it has none left.
-/

namespace RuleBench.Execution

def texts (s : String) : List Value := s.toList.map fun c => .str (String.singleton c)

def textIteratorName (s : String) : String :=
  if s.toList.all fun c => c.toNat < 128 then "str_ascii_iterator" else "str_iterator"

/-- The values of a range. -/
def rangeValues (start stop step : Int) : List Value :=
  (List.range (rangeLength start stop step)).map fun (i : Nat) => .int (start + (i : Int) * step)

def newIterator (i : Iterator) : Action (Option Value) := do return some (← new (.iterator i))

def ViewKind.iteratorName : ViewKind → String
  | keys => "dict_keyiterator"
  | values => "dict_valueiterator"
  | items => "dict_itemiterator"

def ViewKind.reverseName : ViewKind → String
  | keys => "dict_reversekeyiterator"
  | values => "dict_reversevalueiterator"
  | items => "dict_reverseitemiterator"

/-- What an iterator over a mapping hands out for an entry. -/
def handedOut (iteratorName : String) (e : Value × Value) : Value :=
  match iteratorName with
  | "dict_keyiterator" => e.1
  | "dict_valueiterator" => e.2
  | _ => .tuple [e.1, e.2]

/-- The iterator of a value of a known class. -/
def knownIterator? (v : Value) : Action (Option Value) := do
  let w ← Action.world
  match w.content v with
  | .str s => newIterator (.items (texts s) (textIteratorName s))
  | .bytes b => newIterator (.items (b.map fun x => .int x.toNat) "bytes_iterator")
  | .tuple xs => newIterator (.items xs "tuple_iterator")
  | .range start stop step => newIterator (.range start step (rangeLength start stop step))
  | .ref a => match w.get a with
    | .list _ => newIterator (.list a 0 false)
    | .dict es => newIterator (.entries a 0 es.size "dict_keyiterator")
    | .set xs _ => newIterator (.members a 0 xs.size)
    | .view kind d => newIterator (.entries d 0 (w.entriesNow d).length kind.iteratorName)
    | .record _ fields extra =>
      newIterator (.items ((fields ++ extra).map fun f => .tuple [.str f.1, f.2]) "generator")
    | .iterator _ => return some (.ref a)
    | .generator _ _ form _ => if form == .generator then return some (.ref a) else return none
    | _ => return none
  | _ => return none

/-- Takes an iterator from a value, if it can be run through. -/
def iterator? (v : Value) : Action (Option Value) := do
  match ← declared? v "__iter__" with
  | some .none => return none
  | some _ => match ← callDeclared? v "__iter__" with
    | some i =>
      if (← attrOf? i "__next__").isSome then return some i
      else typeErrorOf i fun t => "iter() returned non-iterator of type '" ++ t ++ "'"
    | none => return none
  | none => match ← knownIterator? v with
    | some i => return some i
    | none =>
      if (← declared? v "__getitem__").isSome then newIterator (.positions v 0) else return none

def notIterable {α : Type} (v : Value) : Action α :=
  typeErrorOf v fun t => "'" ++ t ++ "' object is not iterable"

def iterator (v : Value) : Action Value := do
  match ← iterator? v with
  | some i => pure i
  | none => notIterable v

/-- Raises that nothing is left. -/
def exhausted {α : Type} (value : Value := .none) : Action α := do
  Action.raise (← newError "StopIteration" (match value with
    | .none => []
    | v => [v]))

/-- Turns the error that tells of the end into no value. -/
def untilEnd (m : Action Value) : Action (Option Value) :=
  try pure (some (← m))
  catch e =>
    if ← isInstanceOf e "StopIteration" then pure none else Action.raise e

section

variable (next : Value → Action (Option Value))

/-- One value of every iterator; else the place of the first that has none. Places are counted from
`at'`. -/
def nextOfAll (at' : Nat) : List Value → Action (Except Nat (List Value))
  | [] => pure (.ok [])
  | i :: is => do
    match ← next i with
    | none => pure (.error at')
    | some v => return (← nextOfAll (at' + 1) is).map (v :: ·)

/-- The place of the first iterator that has a value. -/
def firstWithValue? (at' : Nat) : List Value → Action (Option Nat)
  | [] => pure none
  | i :: is => do
    match ← next i with
    | none => firstWithValue? (at' + 1) is
    | some _ => pure (some at')

/-- Whether a value passes a test; without one it counts as a truth value itself. -/
def passesTest (function v : Value) : Action Bool :=
  match function with
  | .none => truthy v
  | f => do truthy (← call f [v])

/-- The first value that passes a test. -/
def nextPassing (function source : Value) : Action (Option Value) :=
  loop () fun _ => do
    match ← next source with
    | none => pure (.inr none)
    | some v =>
      let kept ← passesTest function v
      pure (if kept then .inr (some v) else .inl ())

def sizeChanged {α : Type} (container : String) : Action α :=
  fail "RuntimeError" (container ++ " changed size during iteration")

/-- Answers the next value and puts the iterator into its next state. -/
def stepTo (a : Address) (i : Iterator) (v : Value) : Action (Option Value) := do
  store a (.iterator i)
  pure (some v)

/-- Nothing is left, now and later. -/
def finish (a : Address) (typeName : String) : Action (Option Value) := do
  store a (.iterator (.items [] typeName))
  pure none

/-- One of the sources has another length than those before it, of which there are `n`. -/
def unequalLengths {α : Type} (n : Nat) (relation : String) : Action α :=
  valueError ("zip() argument " ++ toString (n + 1) ++ " is " ++ relation ++ " than argument" ++
    (if n == 1 then " " else "s 1-") ++ toString n)

/-- Sources of strict pairing have to end together. -/
def nextOfZip (a : Address) (sources : List Value) (strict : Bool) : Action (Option Value) := do
  if sources.isEmpty then finish a "zip"
  else match ← nextOfAll next 0 sources with
    | .ok vs => pure (some (.tuple vs))
    | .error n =>
      if !strict then pure none
      else if n > 0 then unequalLengths n "shorter"
      else match ← firstWithValue? next 1 (sources.drop 1) with
        | some n => unequalLengths n "longer"
        | none => pure none

/-- One step of an iterator on the heap. -/
def nextOf (a : Address) (i : Iterator) : Action (Option Value) := do
  let w ← Action.world
  match i with
  | .items [] _ => pure none
  | .items (v :: rest) name => stepTo a (.items rest name) v
  | .list source at' ended => match w.get source, ended with
    | .list xs, false => match xs[at']? with
      | some v => stepTo a (.list source (at' + 1) false) v
      | none => do
        store a (.iterator (.list source at' true))
        pure none
    | _, _ => pure none
  | .reversedList source at' => match w.get source, at' with
    | .list xs, some i => match xs[i]? with
      | some v => stepTo a (.reversedList source (if i == 0 then none else some (i - 1))) v
      | none => do
        store a (.iterator (.reversedList source none))
        pure none
    | _, _ => pure none
  | .range n step left => match left with
    | 0 => pure none
    | left + 1 => stepTo a (.range (n + step) step left) (.int n)
  | .entries source at' size name => match w.get source with
    | .dict es =>
      if es.size != size then sizeChanged "dictionary"
      else match es[at']? with
        | none => finish a name
        | some e => stepTo a (.entries source (at' + 1) size name) (handedOut name e)
    | _ => pure none
  | .members source at' size => match w.get source with
    | .set xs _ =>
      if xs.size != size then sizeChanged "Set"
      else match xs[at']? with
        | none => finish a "set_iterator"
        | some v => stepTo a (.members source (at' + 1) size) v
    | _ => pure none
  | .enumerate source count => match ← next source with
    | none => pure none
    | some v => stepTo a (.enumerate source (count + 1)) (.tuple [.int count, v])
  | .zip sources strict => nextOfZip next a sources strict
  | .map f sources => match ← nextOfAll next 0 sources with
    | .error _ => pure none
    | .ok vs => return some (← call f vs)
  | .filter f source => nextPassing next f source
  | .calls f sentinel ended =>
    if ended then pure none
    else
      let v ← call f []
      if ← equal v sentinel then
        store a (.iterator (.calls f sentinel true))
        pure none
      else pure (some v)
  | .positions source at' =>
    match ← declared? source "__getitem__" with
    | none => pure none
    | some _ =>
      try
        match ← callDeclared? source "__getitem__" [.int at'] with
        | some v => stepTo a (.positions source (at' + 1)) v
        | none => pure none
      catch e =>
        if (← isInstanceOf e "IndexError") || (← isInstanceOf e "StopIteration") then
          finish a "iterator"
        else Action.raise e

end

/-- The next value of an iterator, raising at its end; for iterators inside iterators as deep as the
fuel. -/
def advanceWithin : Nat → Value → Action Value
  | 0, _ => fail "RecursionError" "maximum recursion depth exceeded"
  | fuel + 1, v => do
    match v, ← objOf v with
    | .ref a, some (.iterator i) =>
      match ← nextOf (fun u => untilEnd (advanceWithin fuel u)) a i with
      | some x => pure x
      | none => exhausted
    | .ref a, some (.generator ..) => Action.ask (.resume a (.send .none))
    | _, _ => match ← callDeclared? v "__next__" with
      | some x => pure x
      | none => typeErrorOf v fun t => "'" ++ t ++ "' object is not an iterator"

/-- The next value of an iterator; at its end that is raised. -/
def advance (v : Value) : Action Value := advanceWithin greatestNesting v

/-- The next value of an iterator, if there is one. -/
def next? (v : Value) : Action (Option Value) := untilEnd (advance v)

/-- Works on the values of an iterator one by one; what an action answers ends the run early. -/
def eachOf {α : Type} (iterator : Value) (body : Value → Action (Option α)) : Action (Option α) :=
  loop () fun _ => do
    match ← next? iterator with
    | none => pure (.inr none)
    | some v => match ← body v with
      | none => pure (.inl ())
      | some r => pure (.inr (some r))

/-- The values that are left in an iterator. -/
def drain (iterator : Value) : Action (List Value) := do
  let vs ← loop ([] : List Value) fun acc => do
    match ← next? iterator with
    | none => pure (.inr acc)
    | some v => pure (.inl (v :: acc))
  pure vs.reverse

/-- All values that a value hands out. -/
def collect (v : Value) : Action (List Value) := do
  let w ← Action.world
  match v, w.obj? v with
  | .tuple xs, _ => pure xs
  | .str s, _ => pure (texts s)
  | _, some (.list xs) => pure xs.toList
  | _, _ => drain (← iterator v)

/-- Runs through a value with an accumulator. -/
def foldOver {σ : Type} (v : Value) (start : σ) (f : σ → Value → Action σ) : Action σ := do
  let i ← iterator v
  loop start fun s => do
    match ← next? i with
    | none => pure (.inr s)
    | some x => return .inl (← f s x)

end RuleBench.Execution
