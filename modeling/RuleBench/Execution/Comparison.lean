import RuleBench.Execution.Length
import RuleBench.Number.Magnitude

/-!
# Comparison

Identity, equality and order of values. Every comparison asks the classes of both sides first;
values of known classes then compare by what they contain.
-/

namespace RuleBench.Execution

open RuleBench.Number

mutual

/-- Whether two values are the same one. Values that nothing can change are the same when they are
written the same. -/
def identical : Value → Value → Bool
  | .none, .none => true
  | .notImplemented, .notImplemented => true
  | .ellipsis, .ellipsis => true
  | .bool a, .bool b => a == b
  | .int a, .int b => a == b
  | .float a, .float b => a.toBits == b.toBits
  | .complex a b, .complex c d => a.toBits == c.toBits && b.toBits == d.toBits
  | .str a, .str b => a == b
  | .bytes a, .bytes b => a == b
  | .tuple xs, .tuple ys => identicalAll xs ys
  | .range a b c, .range d e f => a == d && b == e && c == f
  | .type a, .type b => a == b
  | .builtin a, .builtin b => a == b
  | .method o n s, .method p m t => o == p && n == m && identical s t
  | .slot o n, .slot p m => o == p && n == m
  | .ref a, .ref b => a == b
  | _, _ => false

def identicalAll : List Value → List Value → Bool
  | [], ys => ys.isEmpty
  | x :: xs, ys => match ys with
    | [] => false
    | y :: ys => identical x y && identicalAll xs ys

end

inductive Relation where
  | eq | ne | lt | le | gt | ge
deriving Repr, BEq, DecidableEq

namespace Relation

def symbol : Relation → String
  | eq => "==" | ne => "!=" | lt => "<" | le => "<=" | gt => ">" | ge => ">="

/-- The method that a class declares for the relation. -/
def method : Relation → String
  | eq => "__eq__" | ne => "__ne__" | lt => "__lt__" | le => "__le__" | gt => "__gt__"
  | ge => "__ge__"

/-- The same relation with its sides exchanged. -/
def flip : Relation → Relation
  | eq => eq | ne => ne | lt => gt | le => ge | gt => lt | ge => le

/-- The relation as a condition on how the left side lies to the right side. -/
def holds : Relation → Ordering → Bool
  | eq, o => o == .eq
  | ne, o => o != .eq
  | lt, o => o == .lt
  | le, o => o != .gt
  | gt, o => o == .gt
  | ge, o => o != .lt

@[simp] theorem flip_flip (r : Relation) : r.flip.flip = r := by cases r <;> rfl

theorem holds_flip (r : Relation) (o : Ordering) : r.flip.holds o.swap = r.holds o := by
  cases r <;> cases o <;> rfl

end Relation

/-- The value of a number among numbers of all kinds. -/
def magnitude? : Value → Option Magnitude
  | .bool b => some (.ofInt (if b then 1 else 0))
  | .int n => some (.ofInt n)
  | .float x => some (.ofFloat x)
  | _ => none

/-- A relation between numbers; what is no number is unequal to all and in no order. -/
def relateMagnitudes (r : Relation) (a b : Magnitude) : Bool :=
  match r with
  | .eq => a.same b
  | .ne => !a.same b
  | .lt => a.less b
  | .le => a.less b || a.same b
  | .gt => b.less a
  | .ge => b.less a || a.same b

/-- A relation between things that are equal or not, and in no order. -/
def relateEqual (r : Relation) (equal : Bool) : Value :=
  match r with
  | .eq => .bool equal
  | .ne => .bool !equal
  | _ => .notImplemented

/-- The parts of a complex number, of other numbers too. -/
def complexParts? : Value → Option (Magnitude × Magnitude)
  | .complex x y => some (.ofFloat x, .ofFloat y)
  | v => (magnitude? v).map fun m => (m, .ofInt 0)

/-- A relation between texts, octets or ranges. -/
def relateTexts (r : Relation) (a b : Value) : Value :=
  match a, b with
  | .str s, .str t => .bool (r.holds (compare s t))
  | .bytes s, .bytes t => .bool (r.holds (compare (s.map UInt8.toNat) (t.map UInt8.toNat)))
  | .range a b c, .range d e f =>
    let n := rangeLength a b c
    let same := n == rangeLength d e f && (n == 0 || (a == d && (n == 1 || c == f)))
    relateEqual r same
  | _, _ => .notImplemented

/-- A relation between values that need no heap. -/
def relateAtoms (r : Relation) (a b : Value) : Value :=
  match magnitude? a, magnitude? b with
  | some x, some y => .bool (relateMagnitudes r x y)
  | _, _ => match complexParts? a, complexParts? b with
    | some x, some y => relateEqual r (x.1.same y.1 && x.2.same y.2)
    | _, _ => relateTexts r a b

/-- What a set-like value holds. -/
def World.members? (w : World) (v : Value) : Option (List Value) :=
  match w.obj? v with
  | some (.set xs _) => some xs.toList
  | some (.view .keys d) => match w.get d with
    | .dict es => some (es.toList.map (·.1))
    | _ => none
  | some (.view .items d) => match w.get d with
    | .dict es => some (es.toList.map fun e => .tuple [e.1, e.2])
    | _ => none
  | _ => none

/-- Whether every item of a list passes a test; the first that does not ends it. -/
def allM (p : Value → Action Bool) : List Value → Action Bool
  | [] => pure true
  | x :: xs => do if ← p x then allM p xs else pure false

/-- Whether some item of a list passes a test; the first that does ends it. -/
def anyM {α : Type} (p : α → Action Bool) : List α → Action Bool
  | [] => pure false
  | x :: xs => do if ← p x then pure true else anyM p xs

section

variable (relate : Relation → Value → Value → Action Value)

/-- Equality as containers use it: what is identical is equal. -/
def sameWith (a b : Value) : Action Bool := do
  if identical a b then pure true else truthy (← relate .eq a b)

/-- Sequences compare at the first place where they differ, else by length. -/
def relateItems (r : Relation) : List Value → List Value → Action Value
  | [], ys => pure (.bool (r.holds (if ys.isEmpty then .eq else .lt)))
  | x :: xs, ys => match ys with
    | [] => pure (.bool (r.holds .gt))
    | y :: ys => do
      if ← sameWith relate x y then relateItems r xs ys
      else match r with
        | .eq => pure (.bool false)
        | .ne => pure (.bool true)
        | r => relate r x y

def relateSequences (r : Relation) (xs ys : List Value) : Action Value :=
  if xs.length != ys.length && (r == .eq || r == .ne) then pure (.bool (r == .ne))
  else relateItems relate r xs ys

/-- The value under an equal key. -/
def findEntry (key : Value) : List (Value × Value) → Action (Option Value)
  | [] => pure none
  | (k, v) :: es => do if ← sameWith relate k key then pure (some v) else findEntry key es

/-- Whether every entry is among others. -/
def entriesAmong (others : List (Value × Value)) : List (Value × Value) → Action Bool
  | [] => pure true
  | (k, v) :: es => do
    match ← findEntry relate k others with
    | none => pure false
    | some u => if ← sameWith relate v u then entriesAmong others es else pure false

def subset (xs ys : List Value) : Action Bool := allM (fun x => anyM (sameWith relate x) ys) xs

/-- Sets are ordered by inclusion. -/
def relateMembers (r : Relation) (xs ys : List Value) : Action Value := do
  let (n, m) := (xs.length, ys.length)
  let within ← match r with
    | .eq | .ne => if n == m then subset relate xs ys else pure false
    | .lt => if n < m then subset relate xs ys else pure false
    | .le => if n ≤ m then subset relate xs ys else pure false
    | .gt => if m < n then subset relate ys xs else pure false
    | .ge => if m ≤ n then subset relate ys xs else pure false
  pure (.bool (if r == .ne then !within else within))

/-- A relation between values that may be like sets. -/
def relateSets (r : Relation) : Option (List Value) → Option (List Value) → Action Value
  | some xs, some ys => relateMembers relate r xs ys
  | _, _ => pure .notImplemented

def relateMappings (r : Relation) (es fs : Array (Value × Value)) : Action Value := do
  match r with
  | .eq | .ne =>
    let equal ← if es.size == fs.size then entriesAmong relate fs.toList es.toList else pure false
    pure (relateEqual r equal)
  | _ => pure .notImplemented

def relateRecords (r : Relation) (k l : String) (fs gs : Bindings) : Action Value := do
  if k == l && (r == .eq || r == .ne) then
    let equal ← relateSequences relate .eq (fs.map (·.2)) (gs.map (·.2))
    pure (relateEqual r (← truthy equal))
  else pure .notImplemented

/-- A relation between objects, or between what they hold like sets. -/
def relateObjects (r : Relation) (sets : Action Value) : Obj → Obj → Action Value
  | .list xs, .list ys => relateSequences relate r xs.toList ys.toList
  | .dict es, .dict fs => relateMappings relate r es fs
  | .record k fs _, .record l gs _ => relateRecords relate r k l fs gs
  | .boundMethod f s, .boundMethod g t => pure (relateEqual r (identical f g && identical s t))
  | _, _ => sets

/-- A relation between values of known classes. -/
def relateKnown (r : Relation) (a b : Value) : Action Value := do
  let w ← Action.world
  match a, b with
  | .tuple xs, .tuple ys => relateSequences relate r xs ys
  | .ref x, .ref y =>
    relateObjects relate r (relateSets relate r (w.members? a) (w.members? b)) (w.get x) (w.get y)
  | a, b => pure (relateAtoms r a b)

end

/-- Asks the class of the left side. -/
def relateLeft (relate : Relation → Value → Value → Action Value) (r : Relation) (a b : Value) :
    Action Value := do
  match ← callDeclared? a r.method [b] with
  | some v => pure v
  | none => match r, ← declared? a "__eq__" with
    | .ne, some _ => match ← callDeclared? a "__eq__" [b] with
      | some .notImplemented => pure .notImplemented
      | some v => do pure (.bool !(← truthy v))
      | none => pure .notImplemented
    | r, _ => relateKnown relate r (← contentOf a) (← contentOf b)

/-- Asks the class of one side, in terms of that side. -/
def relateSide (relate : Relation → Value → Value → Action Value) (right : Bool) (r : Relation)
    (a b : Value) : Action Value :=
  if right then relateLeft relate r.flip b a else relateLeft relate r a b

/-- Whether the right side is asked first: its class extends that of the left side. -/
def World.rightFirst (w : World) (r : Relation) (a b : Value) : Bool :=
  let (s, t) := (w.typeRef a, w.typeRef b)
  s != t && w.isSubclass t s && (w.classAttr? t r.flip.method).isSome

/-- A relation between values whose classes know nothing of it. -/
def relateUnknown (w : World) (r : Relation) (a b : Value) : Action Value :=
  match r with
  | .eq => pure (.bool (identical a b))
  | .ne => pure (.bool !(identical a b))
  | r =>
    typeError ("'" ++ r.symbol ++ "' not supported between instances of '" ++ w.typeName a ++
      "' and '" ++ w.typeName b ++ "'")

/-- A relation between two values, nested at most as deep as the fuel. -/
def relateWithin : Nat → Relation → Value → Value → Action Value
  | 0, _, _, _ => fail "RecursionError" "maximum recursion depth exceeded in comparison"
  | fuel + 1, r, a, b => do
    let w ← Action.world
    let right := w.rightFirst r a b
    match ← relateSide (relateWithin fuel) right r a b with
    | .notImplemented => match ← relateSide (relateWithin fuel) (!right) r a b with
      | .notImplemented => relateUnknown w r a b
      | v => pure v
    | v => pure v

/-- How deep containers may nest that are compared or shown. -/
def greatestNesting : Nat := 990

def relate (r : Relation) (a b : Value) : Action Value := relateWithin greatestNesting r a b

/-- Equality as containers use it. -/
def equal (a b : Value) : Action Bool := sameWith relate a b

/-- Whether the left value is less. -/
def isLess (a b : Value) : Action Bool := do truthy (← relate .lt a b)

end RuleBench.Execution
