import RuleBench.Execution.Evaluate

/-!
# Pattern matching

Whether a value fits a pattern, and what the names in the pattern stand for then. Names are bound
only after the whole pattern fits.
-/

namespace RuleBench.Execution

open RuleBench.Script

namespace Matching

/-- The items of a value that counts as a sequence. -/
def sequenceItems? (v : Value) : Action (Option (List Value)) := do
  let w ← Action.world
  match w.content v with
  | .tuple xs => pure (some xs)
  | .range start stop step => pure (some (rangeValues start stop step))
  | c => match w.obj? c with
    | some (.list xs) => pure (some xs.toList)
    | _ => pure none

/-- The mapping that a value is. -/
def mapping? (v : Value) : Action (Option Address) := do
  let w ← Action.world
  match w.content v with
  | .ref a => match w.get a with
    | .dict _ => pure (some a)
    | _ => pure none
  | _ => pure none

/-- The values under keys, if all keys are there. -/
def valuesUnder (d : Address) (seen : List Value) : List Value → Action (Option (List Value))
  | [] => pure (some [])
  | k :: ks => do
    if ← anyM (fun s => equal s k) seen then
      valueError ("mapping pattern checks duplicate key (" ++ (← shown k) ++ ")")
    match ← Mapping.get? d k with
    | none => pure none
    | some v => match ← valuesUnder d (k :: seen) ks with
      | none => pure none
      | some vs => pure (some (v :: vs))

/-- A mapping without some keys. -/
def without (d : Address) (keys : List Value) : Action Value := do
  let es ← entriesOf d
  let kept ← es.toList.filterM fun e => return !(← anyM (fun k => equal k e.1) keys)
  new (.dict kept.toArray)

/-- Classes whose only positional pattern is for the value itself. -/
def selfMatching : List String := [
  "bool", "bytearray", "bytes", "dict", "float", "frozenset", "int", "list", "set", "str", "tuple"]

/-- The attributes that positional patterns of a class are for; nothing stands for the value
itself. -/
def positionalNames (t : TypeRef) (count : Nat) : Action (List (Option String)) := do
  let w ← Action.world
  let tooMany (allowed : Nat) : Action (List (Option String)) :=
    typeError (w.typeRefName t ++ "() accepts " ++ toString allowed ++ " positional sub-pattern" ++
      (if allowed == 1 then "" else "s") ++ " (" ++ toString count ++ " given)")
  let itself := (w.order t).any fun c => selfMatching.any fun k => c == .known k
  let textOfName (n : Value) : Action (Option String) := match n with
    | .str s => pure (some s)
    | n => typeErrorOf n fun u => "__match_args__ elements must be strings (got " ++ u ++ ")"
  if count == 0 then pure []
  else
    match w.classAttr? t "__match_args__" with
    | some (_, .tuple names) =>
      if count > names.length then tooMany names.length
      else (names.take count).mapM textOfName
    | some (_, other) =>
      typeErrorOf other fun u =>
        w.typeRefName t ++ ".__match_args__ must be a tuple (got " ++ u ++ ")"
    | none =>
      if itself then
        if count > 1 then tooMany 1 else pure [none]
      else tooMany 0

/-- The attributes of a value, if it has them all. -/
def attributesUnder (v : Value) : List (Option String) → Action (Option (List Value))
  | [] => pure (some [])
  | none :: names => do return (← attributesUnder v names).map (v :: ·)
  | some n :: names => do
    if ← Builtin.hasAttribute v n then
      let x ← attrOf v n
      return (← attributesUnder v names).map (x :: ·)
    else pure none

def isStar : Pattern → Bool
  | .star .. => true
  | _ => false

/-- The items for the patterns of a sequence; a star takes a list of all in its place. -/
def itemsFor (patterns : List Pattern) (items : List Value) : Action (Option (List Value)) := do
  match patterns.findIdx? isStar with
  | none => pure (if items.length == patterns.length then some items else none)
  | some before =>
    let after := patterns.length - 1 - before
    if items.length < before + after then pure none
    else
      let middle := (items.drop before).take (items.length - before - after)
      let starred ← new (.list middle.toArray)
      pure (some (items.take before ++ starred :: items.drop (items.length - after)))

end Matching

open Matching

mutual

/-- The names that a pattern binds when a value fits. -/
def fits (scopes : List Scope) (bound : Bindings) (v : Value) : Pattern → Action (Option Bindings)
  | .value _ e => do
    if ← truthy (← relate .eq v (← evaluate scopes e)) then pure (some bound) else pure none
  | .singleton _ l => pure (if identical v (literalValue l) then some bound else none)
  | .sequence _ ps => do
    match ← sequenceItems? v with
    | none => pure none
    | some items => match ← itemsFor ps items with
      | none => pure none
      | some items => fitsAll scopes bound items ps
  | .mapping _ keys ps rest => do
    match ← mapping? v with
    | none => pure none
    | some d =>
      if (← entriesOf d).size < keys.length then pure none
      else
        let keys ← evaluateAll scopes notSpread keys
        match ← valuesUnder d [] keys with
        | none => pure none
        | some vs => match ← fitsAll scopes bound vs ps with
          | none => pure none
          | some bound => match rest with
            | none => pure (some bound)
            | some n => return some (bound.put n (← without d keys))
  | .classPattern _ cls ps names qs => do
    match ← evaluate scopes cls with
    | .type t => do
      if !(← passesFor v t) then pure none
      else
        let positional ← positionalNames t ps.length
        match ← attributesUnder v positional with
        | none => pure none
        | some vs => match ← fitsAll scopes bound vs ps with
          | none => pure none
          | some bound => match ← attributesUnder v (names.map some) with
            | none => pure none
            | some ws => fitsAll scopes bound ws qs
    | _ => typeError "called match pattern must be a type"
  | .star _ name => pure (some (match name with
      | some n => bound.put n v
      | none => bound))
  | .capture _ p name => do
    match ← fitsOption scopes bound v p with
    | none => pure none
    | some bound => pure (some (match name with
      | some n => bound.put n v
      | none => bound))
  | .alternatives _ ps => fitsAny scopes bound v ps

def fitsAll (scopes : List Scope) (bound : Bindings) (vs : List Value) :
    List Pattern → Action (Option Bindings)
  | [] => pure (some bound)
  | p :: ps => do
    match ← fits scopes bound (vs.head?.getD .none) p with
    | none => pure none
    | some bound => fitsAll scopes bound vs.tail ps

def fitsAny (scopes : List Scope) (bound : Bindings) (v : Value) :
    List Pattern → Action (Option Bindings)
  | [] => pure none
  | p :: ps => do
    match ← fits scopes bound v p with
    | some bound => pure (some bound)
    | none => fitsAny scopes bound v ps

def fitsOption (scopes : List Scope) (bound : Bindings) (v : Value) :
    Option Pattern → Action (Option Bindings)
  | none => pure (some bound)
  | some p => fits scopes bound v p

end

/-- Matches a value with a pattern and binds the names of the pattern. -/
def matchValue (scopes : List Scope) (v : Value) (p : Pattern) : Action Bool := do
  match ← fits scopes [] v p with
  | none => pure false
  | some bound =>
    for (n, x) in bound do Names.write scopes n x
    pure true

end RuleBench.Execution
