import RuleBench.Execution.Comparison

/-!
# Mappings and sets

Entries keep the order in which their keys came in. A key is found by equality, after it was checked
that keys of its kind are possible at all.
-/

namespace RuleBench.Execution

/-- What stands in the way of a value as a key: the class of the value, or of one inside it. -/
def unhashableWithin : Nat → World → Value → Option String
  | 0, _, _ => none
  | fuel + 1, w, v => match v with
    | .tuple xs => xs.findSome? (unhashableWithin fuel w)
    | .slice .. => some "slice"
    | .ref a =>
      let name := w.typeName v
      match w.get a with
      | .list _ => some name
      | .dict _ => some name
      | .set _ frozen => if frozen then none else some name
      | .view kind _ => if kind == .values then none else some name
      | .record _ fields _ => fields.findSome? fun f => unhashableWithin fuel w f.2
      | .instance t _ content => match w.classAttr? t "__hash__" with
        | some (_, .none) => some name
        | some _ => none
        | none =>
          if (w.classAttr? t "__eq__").isSome then some name
          else match content with
            | some (.ref c) => if (unhashableWithin fuel w (.ref c)).isSome then some name else none
            | _ => none
      | _ => none
    | _ => none

def checkHashable (v : Value) : Action Unit := do
  match v with
  | .str _ => pure ()
  | .int _ => pure ()
  | v => match unhashableWithin greatestNesting (← Action.world) v with
    | some name => typeError ("unhashable type: '" ++ name ++ "'")
    | none => pure ()

/-- Whether two keys are equal; texts are compared at once. -/
def sameKey (a b : Value) : Action Bool :=
  match a, b with
  | .str s, .str t => pure (s == t)
  | a, b => equal a b

/-- The position of an equal value. -/
def position? (v : Value) : List Value → Nat → Action (Option Nat)
  | [], _ => pure none
  | x :: xs, i => do if ← sameKey x v then pure (some i) else position? v xs (i + 1)

def member (v : Value) (xs : List Value) : Action Bool := anyM (fun x => sameKey x v) xs

def entriesOf (d : Address) : Action (Array (Value × Value)) := do
  match ← load d with
  | .dict es => pure es
  | _ => pure #[]

namespace Mapping

/-- The position of a key. -/
def find? (d : Address) (key : Value) : Action (Option Nat) := do
  checkHashable key
  position? key ((← entriesOf d).toList.map (·.1)) 0

def get? (d : Address) (key : Value) : Action (Option Value) := do
  match ← find? d key with
  | none => pure none
  | some i => return ((← entriesOf d)[i]?).map (·.2)

/-- Puts a value under a key; an equal key that is there stays. -/
def put (d : Address) (key value : Value) : Action Unit := do
  let at? ← find? d key
  let es ← entriesOf d
  match at? with
  | some i => store d (.dict (es.modify i fun e => (e.1, value)))
  | none => store d (.dict (es.push (key, value)))

/-- Takes the entry of a key away and answers its value. -/
def take? (d : Address) (key : Value) : Action (Option Value) := do
  match ← find? d key with
  | none => pure none
  | some i =>
    let es ← entriesOf d
    store d (.dict (es.eraseIdxIfInBounds i))
    return (es[i]?).map (·.2)

def clear (d : Address) : Action Unit := store d (.dict #[])

/-- Puts entries into a mapping one after the other. -/
def putEntries (d : Address) : List (Value × Value) → Action Unit
  | [] => pure ()
  | (k, v) :: es => do
    put d k v
    putEntries d es

/-- A new mapping from entries of which the last of equal keys counts. -/
def ofEntries (es : List (Value × Value)) : Action Value := do
  let d ← alloc (.dict #[])
  putEntries d es
  return .ref d

/-- Raises that a key is missing. -/
def missing {α : Type} (key : Value) : Action α := do Action.raise (← newError "KeyError" [key])

end Mapping

/-- Adds a value to members unless an equal one is there. -/
def insertMember (xs : Array Value) (v : Value) : Action (Array Value) := do
  checkHashable v
  if ← member v xs.toList then pure xs else pure (xs.push v)

/-- The members of a set from values in their order. -/
def membersOf (vs : List Value) : Action (Array Value) :=
  vs.foldlM insertMember #[]

end RuleBench.Execution
