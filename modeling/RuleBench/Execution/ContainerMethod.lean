import RuleBench.Execution.Argument
import RuleBench.Execution.Arithmetic
import RuleBench.Execution.Sorting

/-!
# Methods of containers

Lists, tuples, mappings, sets and ranges.
-/

namespace RuleBench.Execution

/-- The position of an equal value within bounds. -/
def indexWithin (xs : List Value) (args : List Value) (complaint : Value → Action String) :
    Action Value := do
  checkCount "index" 1 3 args
  let v := (args.head?).getD .none
  let size := xs.length
  let start ← boundOr 0 args[1]?
  let stop ← boundOr size args[2]?
  let start := if start < 0 then max 0 (start + size) else start
  let stop := if stop < 0 then max 0 (stop + size) else stop
  match ← position? v ((xs.take stop.toNat).drop start.toNat) 0 with
  | some i => pure (.int (i + start))
  | none => valueError (← complaint v)

/-- How many values equal one. -/
def countEqual (v : Value) : List Value → Action Nat
  | [] => pure 0
  | x :: xs => do
    let same ← equal x v
    return (← countEqual v xs) + same.toNat

/-- The items of a list that can be changed. -/
def listItems (a : Address) : Action (Array Value) := do
  match ← load a with
  | .list xs => pure xs
  | _ => pure #[]

/-- Puts a value at the end of a list. -/
def listPush (a : Address) (v : Value) : Action Unit :=
  alter a fun o => match o with
    | .list xs => .list (xs.push v)
    | o => o

/-- The index that an argument names, the last one without it. -/
def popIndex : List Value → Action Int
  | [] => pure (-1)
  | v :: _ => asCount v

def listPop (a : Address) (args : List Value) : Action Value := do
  checkCount "pop" 0 1 args
  let n ← popIndex args
  let xs ← listItems a
  if xs.isEmpty then fail "IndexError" "pop from empty list"
  else match placeOf xs.size n with
    | none => fail "IndexError" "pop index out of range"
    | some i =>
      store a (.list (xs.eraseIdxIfInBounds i))
      pure ((xs[i]?).getD .none)

def listInsert (a : Address) (args : List Value) : Action Value := do
  checkCount "insert" 2 2 args
  match args with
  | [n, v] =>
    let n ← asCount n
    let xs ← listItems a
    let i := if n < 0 then max 0 (n + xs.size) else min n xs.size
    store a (.list (xs.insertIdxIfInBounds i.toNat v))
    pure .none
  | _ => pure .none

def listRemove (a : Address) (v : Value) : Action Value := do
  match ← position? v (← listItems a).toList 0 with
  | none => valueError "list.remove(x): x not in list"
  | some i =>
    store a (.list ((← listItems a).eraseIdxIfInBounds i))
    pure .none

/-- A switch that an integer may turn on. -/
def switchOf : Option Value → Action Bool
  | none => pure false
  | some v => do match (← Action.world).int? v with
    | some n => pure (n != 0)
    | none => typeErrorOf v fun t => "'" ++ t ++ "' object cannot be interpreted as an integer"

/-- The two options of sorting, which come by name. -/
def sortOptions (function : String) (named : Bindings) : Action (Value × Bool) := do
  allowNames function ["key", "reverse"] named
  let descending ← switchOf (named.lookup "reverse")
  pure ((named.lookup "key").getD .none, descending)

/-- Calls a method of a list. -/
def listMethod (name : String) (a : Address) (args : List Value) (named : Bindings) :
    Action Value := do
  let full := "list." ++ name
  match name with
  | "append" => do
    let v ← exactlyOne full args named
    listPush a v
    pure .none
  | "clear" => do
    noArguments full args named
    store a (.list #[])
    pure .none
  | "copy" => do
    noArguments full args named
    new (.list (← listItems a))
  | "count" => do
    let v ← exactlyOne full args named
    return .int (← countEqual v (← listItems a).toList)
  | "extend" => do
    let v ← exactlyOne full args named
    let more ← collect v
    store a (.list ((← listItems a) ++ more.toArray))
    pure .none
  | "index" => do
    indexWithin (← listItems a).toList args fun v => return (← shown v) ++ " is not in list"
  | "insert" => listInsert a args
  | "pop" => listPop a args
  | "remove" => do
    listRemove a (← exactlyOne full args named)
  | "reverse" => do
    noArguments full args named
    store a (.list (← listItems a).reverse)
    pure .none
  | "sort" => do
    if !args.isEmpty then typeError "sort() takes no positional arguments"
    let (key, descending) ← sortOptions "sort" named
    let sorted ← sortValues isLess (← listItems a).toList key descending
    store a (.list sorted.toArray)
    pure .none
  | _ => pure .notImplemented

/-- Calls a method of a tuple. -/
def tupleMethod (name : String) (xs : List Value) (args : List Value) (named : Bindings) :
    Action Value := do
  match name with
  | "count" => do return .int (← countEqual (← exactlyOne "tuple.count" args named) xs)
  | "index" => indexWithin xs args fun _ => pure "tuple.index(x): x not in tuple"
  | _ => pure .notImplemented

/-! ### Mappings -/

/-- Entries from pairs. -/
def putPairs (d : Address) : List Value → Nat → Action Unit
  | [], _ => pure ()
  | p :: ps, i => do
    match ← iterator? p with
    | none =>
      typeError ("cannot convert dictionary update sequence element #" ++ toString i ++
        " to a sequence")
    | some _ => match ← collect p with
      | [k, v] =>
        Mapping.put d k v
        putPairs d ps (i + 1)
      | xs =>
        valueError ("dictionary update sequence element #" ++ toString i ++ " has length " ++
          toString xs.length ++ "; 2 is required")

/-- Takes over what a value has under keys. -/
def putItems (d : Address) (source : Value) : List Value → Action Unit
  | [] => pure ()
  | k :: ks => do
    Mapping.put d k (← item source k)
    putItems d source ks

/-- Takes over the entries of another mapping, or of pairs. -/
def putFrom (d : Address) (source : Value) : Action Unit := do
  let w ← Action.world
  match w.obj? (w.content source) with
  | some (.dict es) => Mapping.putEntries d es.toList
  | _ => match ← attrOf? source "keys" with
    | some keys => putItems d source (← collect (← call keys []))
    | none => putPairs d (← collect source) 0

def putFromAll (d : Address) : List Value → Action Unit
  | [] => pure ()
  | source :: _ => putFrom d source

def updateMapping (function : String) (d : Address) (args : List Value) (named : Bindings) :
    Action Unit := do
  checkCount function 0 1 args
  putFromAll d args
  Mapping.putEntries d (named.map fun b => (.str b.1, b.2))

/-- A mapping from the values of keys. -/
def ofKeys (args : List Value) : Action Value := do
  checkCount "fromkeys" 1 2 args
  let keys ← collect ((args.head?).getD .none)
  Mapping.ofEntries (keys.map fun k => (k, (args[1]?).getD .none))

/-- Calls a method of a mapping. -/
def dictMethod (name : String) (d : Address) (args : List Value) (named : Bindings) :
    Action Value := do
  let full := "dict." ++ name
  match name with
  | "get" => do
    noNames full named
    checkCount name 1 2 args
    match args with
    | k :: rest => return (← Mapping.get? d k).getD (rest.head?.getD .none)
    | [] => pure .none
  | "items" => do
    noArguments full args named
    new (.view .items d)
  | "keys" => do
    noArguments full args named
    new (.view .keys d)
  | "values" => do
    noArguments full args named
    new (.view .values d)
  | "copy" => do
    noArguments full args named
    new (.dict (← entriesOf d))
  | "clear" => do
    noArguments full args named
    Mapping.clear d
    pure .none
  | "setdefault" => do
    checkCount name 1 2 args
    match args with
    | k :: rest => match ← Mapping.get? d k with
      | some v => pure v
      | none =>
        let v := rest.head?.getD .none
        Mapping.put d k v
        pure v
    | [] => pure .none
  | "pop" => do
    checkCount name 1 2 args
    match args with
    | k :: rest => match ← Mapping.take? d k, rest with
      | some v, _ => pure v
      | none, v :: _ => pure v
      | none, [] => Mapping.missing k
    | [] => pure .none
  | "popitem" => do
    noArguments full args named
    let es ← entriesOf d
    match es.back? with
    | none => do Action.raise (← newError "KeyError" [.str "popitem(): dictionary is empty"])
    | some (k, v) =>
      store d (.dict es.pop)
      pure (.tuple [k, v])
  | "update" => do
    updateMapping name d args named
    pure .none
  | "fromkeys" => ofKeys args
  | _ => pure .notImplemented

/-! ### Sets -/

/-- The members that any value hands out. -/
def membersFrom (v : Value) : Action (List Value) := do
  match (← Action.world).obj? v with
  | some (.set xs _) => pure xs.toList
  | _ => return (← membersOf (← collect v)).toList

/-- Works one collection after the other into members. -/
def combineSets (op : Script.BinOp) (xs : List Value) : List Value → Action (List Value)
  | [] => pure xs
  | v :: vs => do
    let ys ← membersFrom v
    combineSets op ((← setOperation op xs ys).getD xs) vs

/-- The operator behind a method that combines sets. -/
def setOperator? (name : String) : Option Script.BinOp :=
  match name with
  | "union" => some .bitOr
  | "update" => some .bitOr
  | "intersection" => some .bitAnd
  | "intersection_update" => some .bitAnd
  | "difference" => some .sub
  | "difference_update" => some .sub
  | "symmetric_difference" => some .bitXor
  | "symmetric_difference_update" => some .bitXor
  | _ => none

/-- Puts members in the place of those of a set. -/
def keepMembers (a : Address) (frozen : Bool) (ys : List Value) : Action Value := do
  store a (.set ys.toArray frozen)
  pure .none

/-- Takes a value out of a set that must or may be there. -/
def discard (a : Address) (frozen : Bool) (xs : List Value) (v : Value) (must : Bool) :
    Action Value := do
  checkHashable v
  match ← position? v xs 0 with
  | some i => keepMembers a frozen (xs.eraseIdx i)
  | none => if must then Mapping.missing v else pure .none

/-- Calls a method of a set. -/
def setMethod (name : String) (a : Address) (xs : List Value) (frozen : Bool) (args : List Value)
    (named : Bindings) : Action Value := do
  let full := (if frozen then "frozenset." else "set.") ++ name
  let keep := keepMembers a frozen
  match setOperator? name with
  | some op =>
    let ys ← combineSets op xs args
    if name.endsWith "update" then keep ys else new (.set ys.toArray frozen)
  | none => match name with
    | "add" => do
      let v ← exactlyOne full args named
      keep (← insertMember xs.toArray v).toList
    | "discard" => do discard a frozen xs (← exactlyOne full args named) false
    | "remove" => do discard a frozen xs (← exactlyOne full args named) true
    | "pop" => do
      noArguments full args named
      match xs with
      | [] => do Action.raise (← newError "KeyError" [.str "pop from an empty set"])
      | x :: rest =>
        store a (.set rest.toArray frozen)
        pure x
    | "clear" => do
      noArguments full args named
      keep []
    | "copy" => do
      noArguments full args named
      new (.set xs.toArray frozen)
    | "isdisjoint" => do
      let ys ← membersFrom (← exactlyOne full args named)
      return .bool (!(← anyM (fun x => member x ys) xs))
    | "issubset" => do
      let ys ← membersFrom (← exactlyOne full args named)
      return .bool (← allM (fun x => member x ys) xs)
    | "issuperset" => do
      let ys ← membersFrom (← exactlyOne full args named)
      return .bool (← allM (fun y => member y xs) ys)
    | _ => pure .notImplemented

/-- Calls a method of a range. -/
def rangeMethod (name : String) (start stop step : Int) (args : List Value) (named : Bindings) :
    Action Value := do
  let v ← exactlyOne ("range." ++ name) args named
  let values := rangeValues start stop step
  match name with
  | "count" => do return .int (← countEqual v values)
  | _ => match ← position? v values 0 with
    | some i => pure (.int i)
    | none => valueError ((← shown v) ++ " is not in range")

end RuleBench.Execution
