import RuleBench.Execution.Iteration

/-!
# Subscripts and membership

What stands at a position, under a key or in a slice of a value, how that is changed, and whether a
value is in another one.
-/

namespace RuleBench.Execution

/-! ### Slices -/

/-- A slice of a sequence of known length: where it starts, its step, and how many items it has. -/
structure Stretch where
  start : Int
  step : Int
  count : Nat
deriving Repr

/-- The positions of a slice. -/
def Stretch.positions (s : Stretch) : List Nat :=
  (List.range s.count).map fun (i : Nat) => (s.start + (i : Int) * s.step).toNat

/-- An end of a slice within a sequence: counted from the back if negative, cut off at the ends. -/
def clampEnd (size : Nat) (low high : Int) (n : Int) : Int :=
  let n := if n < 0 then n + size else n
  if n < low then low else if n > high then high else n

/-- Where a slice with given ends and a step other than zero starts and stops in a sequence. -/
def sliceEnds (size : Nat) (lower upper : Option Int) (step : Int) : Int × Int :=
  let (low, high) : Int × Int := if step < 0 then (-1, size - 1) else (0, size)
  let start := match lower with
    | some n => clampEnd size low high n
    | none => if step < 0 then high else low
  let stop := match upper with
    | some n => clampEnd size low high n
    | none => if step < 0 then low else high
  (start, stop)

def sliceNumber (v : Value) : Action Int := do
  match (← Action.world).int? v with
  | some n => pure n
  | none =>
    if (← declared? v "__index__").isSome then asIndex v
    else typeError "slice indices must be integers or None or have an __index__ method"

def sliceBound (v : Value) : Action (Option Int) := do
  match v with
  | .none => pure none
  | v => return some (← sliceNumber v)

/-- Start, stop and step of a slice in a sequence. -/
def sliceOf (size : Nat) (lower upper step : Value) : Action (Int × Int × Int) := do
  let step := (← sliceBound step).getD 1
  if step == 0 then valueError "slice step cannot be zero"
  let lower ← sliceBound lower
  let upper ← sliceBound upper
  let (start, stop) := sliceEnds size lower upper step
  pure (start, stop, step)

def stretchOf (size : Nat) (lower upper step : Value) : Action Stretch := do
  let (start, stop, step) ← sliceOf size lower upper step
  pure ⟨start, step, rangeLength start stop step⟩

/-- The items of a list at positions. -/
def atPositions {α : Type} (xs : List α) (s : Stretch) : List α :=
  let items := xs.toArray
  s.positions.filterMap fun i => items[i]?

/-- The position that an index names, counted from the back if negative. -/
def placeOf (size : Nat) (n : Int) : Option Nat :=
  let n := if n < 0 then n + size else n
  if 0 ≤ n && n < size then some n.toNat else none

/-- An index as an integer, if it is one. -/
def indexOf? (v : Value) : Action (Option Int) := do
  match (← Action.world).int? v with
  | some n => pure (some n)
  | none =>
    if (← declared? v "__index__").isSome then return some (← asIndex v) else pure none

/-! ### Reading -/

/-- What a kind of sequences says of a bad index. -/
structure SequenceWording where
  outOfRange : String
  wrongIndex : String → String

def sequenceWording (kind : String) : SequenceWording :=
  match kind with
  | "str" => ⟨"string index out of range", fun t =>
      "string indices must be integers, not '" ++ t ++ "'"⟩
  | "bytes" => ⟨"index out of range", fun t => "byte indices must be integers or slices, not " ++ t⟩
  | "range" => ⟨"range object index out of range", fun t =>
      "range indices must be integers or slices, not " ++ t⟩
  | kind => ⟨kind ++ " index out of range", fun t =>
      kind ++ " indices must be integers or slices, not " ++ t⟩

/-- An item of a sequence. -/
def itemAt {α : Type} (kind : String) (xs : List α) (item : α → Value) (index : Value) :
    Action Value := do
  let wording := sequenceWording kind
  match ← indexOf? index with
  | none => typeErrorOf index wording.wrongIndex
  | some n => match (placeOf xs.length (← asPosition "IndexError" n)).bind (xs[·]?) with
    | some x => pure (item x)
    | none => fail "IndexError" wording.outOfRange

/-- An item or a slice of a sequence. -/
def fromSequence {α : Type} (kind : String) (xs : List α) (item : α → Value)
    (whole : List α → Action Value) (index : Value) : Action Value := do
  match index with
  | .slice lower upper step => do
    whole (atPositions xs (← stretchOf xs.length lower upper step))
  | index => itemAt kind xs item index

/-- The arguments of a class, as annotations use it. -/
def classArguments : Value → Value
  | .tuple xs => .tuple xs
  | v => .tuple [v]

/-- The value of a class with arguments. -/
def parameterized (origin index : Value) : Action Value :=
  new (.instance (.known "GenericAlias")
    [("__origin__", origin), ("__args__", classArguments index)] none)

def notSubscriptable {α : Type} (v : Value) : Action α :=
  typeErrorOf v fun t => "'" ++ t ++ "' object is not subscriptable"

/-- A subscript of a class itself. -/
def classItem (t : TypeRef) (index : Value) : Action Value := do
  let w ← Action.world
  match ← classAttribute? t "__class_getitem__" with
  | some f => match w.classAttr? t "__class_getitem__" with
    | some _ => match w.obj? f with
      | some (.function ..) => call f [.type t, index]
      | _ => call f [index]
    | none => parameterized (.type t) index
  | none =>
    if t == .known "type" then parameterized (.type t) index
    else typeError ("type '" ++ w.typeRefName t ++ "' is not subscriptable")

/-- An item or a slice of a range. -/
def rangeItem (start stop step : Int) (index : Value) : Action Value := do
  match index with
  | .slice lower upper by' => do
    let (first, last, by') ← sliceOf (rangeLength start stop step) lower upper by'
    pure (.range (start + first * step) (start + last * step) (step * by'))
  | index => itemAt "range" (rangeValues start stop step) id index

/-- A subscript of a value of a known class. -/
def knownItem (v index : Value) : Action Value := do
  let w ← Action.world
  match w.content v with
  | .str s =>
    fromSequence "str" s.toList (fun c => .str (String.singleton c))
      (fun cs => pure (.str (String.ofList cs))) index
  | .bytes b => fromSequence "bytes" b (fun x => .int x.toNat) (fun xs => pure (.bytes xs)) index
  | .tuple xs => fromSequence "tuple" xs id (fun ys => pure (.tuple ys)) index
  | .range start stop step => rangeItem start stop step index
  | .type t => classItem t index
  | .ref a => match w.get a with
    | .list xs => fromSequence "list" xs.toList id (fun ys => new (.list ys.toArray)) index
    | .dict _ => match ← Mapping.get? a index with
      | some x => pure x
      | none => match ← callDeclared? v "__missing__" [index] with
        | some x => pure x
        | none => Mapping.missing index
    | _ => notSubscriptable v
  | _ => notSubscriptable v

/-- What a value has under an index, a key or a slice. -/
def item (v index : Value) : Action Value := do
  match ← callDeclared? v "__getitem__" [index] with
  | some x => pure x
  | none => knownItem v index

/-! ### Changing -/

/-- A list with a stretch of it replaced. -/
def replaceStretch (xs : List Value) (s : Stretch) (new : List Value) : Action (List Value) := do
  if s.step == 1 then
    let start := s.start.toNat
    pure (xs.take start ++ new ++ xs.drop (start + s.count))
  else if new.length != s.count then
    valueError ("attempt to assign sequence of size " ++ toString new.length ++
      " to extended slice of size " ++ toString s.count)
  else
    let pairs := s.positions.zip new
    pure (xs.zipIdx.map fun (x, i) => (pairs.lookup i).getD x)

/-- A list without a stretch of it. -/
def dropStretch (xs : List Value) (s : Stretch) : List Value :=
  let gone := s.positions
  (xs.zipIdx.filter fun (_, i) => !gone.contains i).map (·.1)

/-- Where a list has an item that is to be changed. -/
def listPlace (size : Nat) (index : Value) : Action Nat := do
  match ← indexOf? index with
  | none => typeErrorOf index (sequenceWording "list").wrongIndex
  | some n => match placeOf size n with
    | some i => pure i
    | none => fail "IndexError" "list assignment index out of range"

/-- Puts what a value hands out into a stretch of a list. -/
def setListStretch (a : Address) (xs : Array Value) (s : Stretch) (value : Value) : Action Unit := do
  match ← iterator? value with
  | none =>
    typeError (if s.step == 1 then "can only assign an iterable"
      else "must assign iterable to extended slice")
  | some _ =>
    let new ← collect value
    store a (.list (← replaceStretch xs.toList s new).toArray)

def setListItem (a : Address) (xs : Array Value) (index value : Value) : Action Unit := do
  match index with
  | .slice lower upper step => do
    setListStretch a xs (← stretchOf xs.size lower upper step) value
  | index => do store a (.list (xs.setIfInBounds (← listPlace xs.size index) value))

def setKnownItem (v index value : Value) : Action Unit := do
  let w ← Action.world
  let refuse : Action Unit :=
    typeErrorOf v fun t => "'" ++ t ++ "' object does not support item assignment"
  match w.content v with
  | .ref a => match w.get a with
    | .list xs => setListItem a xs index value
    | .dict _ => Mapping.put a index value
    | _ => refuse
  | _ => refuse

/-- Puts a value under an index, a key or into a slice. -/
def setItem (v index value : Value) : Action Unit := do
  match ← callDeclared? v "__setitem__" [index, value] with
  | some _ => pure ()
  | none => setKnownItem v index value

def deleteListItem (a : Address) (xs : Array Value) (index : Value) : Action Unit := do
  match index with
  | .slice lower upper step =>
    let s ← stretchOf xs.size lower upper step
    store a (.list (dropStretch xs.toList s).toArray)
  | index => do store a (.list (xs.eraseIdxIfInBounds (← listPlace xs.size index)))

def deleteKnownItem (v index : Value) : Action Unit := do
  let w ← Action.world
  let refuse : Action Unit :=
    typeErrorOf v fun t => "'" ++ t ++ "' object doesn't support item deletion"
  match w.content v with
  | .ref a => match w.get a with
    | .list xs => deleteListItem a xs index
    | .dict _ => match ← Mapping.take? a index with
      | some _ => pure ()
      | none => Mapping.missing index
    | _ => refuse
  | _ => refuse

/-- Takes away what a value has under an index, a key or in a slice. -/
def deleteItem (v index : Value) : Action Unit := do
  match ← callDeclared? v "__delitem__" [index] with
  | some _ => pure ()
  | none => deleteKnownItem v index

/-! ### Membership -/

/-- Whether a list occurs in another one without gaps. -/
def occursIn {α : Type} [BEq α] (part : List α) : List α → Bool
  | [] => part.isEmpty
  | c :: cs => part.isPrefixOf (c :: cs) || occursIn part cs

/-- Whether a range passes through a number. -/
def rangeHolds (start stop step n : Int) : Bool :=
  (if step > 0 then start ≤ n && n < stop else stop < n && n ≤ start) && (n - start) % step == 0

/-- Whether a value is among those that an iterator hands out. -/
def amongIterated (v container : Value) : Action Bool := do
  match ← iterator? container with
  | none => typeErrorOf container fun t => "argument of type '" ++ t ++ "' is not iterable"
  | some i =>
    let found ← eachOf i fun x => do
      if ← equal x v then pure (some ()) else pure none
    pure found.isSome

/-- Whether a mapping has an entry, given as a pair. -/
def holdsEntry (d : Address) (v : Value) : Action Bool := do
  match v with
  | .tuple [k, x] => match ← Mapping.get? d k with
    | some y => equal y x
    | none => pure false
  | _ => pure false

def knownContains (container v : Value) : Action Bool := do
  let w ← Action.world
  match w.content container with
  | .str s => match w.text? v with
    | some t => pure (occursIn t.toList s.toList)
    | none => typeErrorOf v fun t => "'in <string>' requires string as left operand, not " ++ t
  | .bytes b => match w.content v with
    | .int n => pure (b.any fun x => (x.toNat : Int) == n)
    | .bytes part => pure (occursIn part b)
    | _ => typeErrorOf v fun t => "a bytes-like object is required, not '" ++ t ++ "'"
  | .tuple xs => anyM (fun x => equal x v) xs
  | .range start stop step => match w.content v with
    | .int n => pure (rangeHolds start stop step n)
    | _ => anyM (fun x => equal x v) (rangeValues start stop step)
  | .ref a => match w.get a with
    | .list xs => anyM (fun x => equal x v) xs.toList
    | .dict _ => return (← Mapping.find? a v).isSome
    | .set xs _ => do
      checkHashable v
      member v xs.toList
    | .view .keys d => return (← Mapping.find? d v).isSome
    | .view .values d => do
      let es ← entriesOf d
      anyM (fun x => equal x v) (es.toList.map (·.2))
    | .view .items d => holdsEntry d v
    | _ => amongIterated v container
  | _ => amongIterated v container

/-- Whether a value is or extends a container whose items are found without running through it. -/
def World.isContainer (w : World) (v : Value) : Bool :=
  match w.content v with
  | .tuple _ => true
  | c => match w.obj? c with
    | some (.list _) => true
    | some (.dict _) => true
    | some (.set ..) => true
    | _ => false

/-- Whether a value is in a container. -/
def contains (container v : Value) : Action Bool := do
  match ← callDeclared? container "__contains__" [v] with
  | some answer => truthy answer
  | none =>
    let runsItself := (← declared? container "__iter__").isSome
    let w ← Action.world
    if runsItself && !(w.content container matches .str _) && !w.isContainer container then
      amongIterated v container
    else knownContains container v

end RuleBench.Execution
