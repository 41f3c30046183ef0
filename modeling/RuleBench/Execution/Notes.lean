import RuleBench.Execution.Action

/-!
# What is kept beside the world

The statements of declared functions, the tables of annotations, and whether scripts know where
objects lie. Hardly any script looks at its
annotations, so that they stay out of the world until one does: then all tables are laid open, each
under the name `__annotations__` of its owner and in the place where it would have been from the
start. From then on annotations go where everything else is.
-/

namespace RuleBench.Execution

open RuleBench.Script

/-- A table of annotations. -/
structure NoteTable where
  owner : Address
  /-- The names that the owner had when the table was started. -/
  before : List String
  entries : Bindings

namespace NoteTable

/-- Something under the name of the annotations, behind the names that were there before. -/
def placeAmong {α : Type} (before : List String) (nameOf : α → Option String) (x : α)
    (xs : List α) : List α :=
  let isBefore (y : α) : Bool := ((nameOf y).map before.contains).getD false
  xs.takeWhile isBefore ++ x :: xs.dropWhile isBefore

/-- The name that an entry of a mapping is found under. -/
def keyOf? (e : Value × Value) : Option String :=
  match e.1 with
  | .str s => some s
  | _ => none

/-- The names that an object has. -/
def namesOf : Obj → List String
  | .dict es => es.toList.filterMap keyOf?
  | .frame bs => bs.map (·.1)
  | .cls info => info.attrs.map (·.1)
  | .function _ attrs => attrs.map (·.1)
  | _ => []

/-- An object with its annotations. -/
def addTo (before : List String) (annotations : Value) : Obj → Obj
  | .dict es => .dict (placeAmong before keyOf? (.str annotationsName, annotations) es.toList).toArray
  | .frame bs => .frame (among bs)
  | .cls info => .cls { info with attrs := among info.attrs }
  | .function c attrs => .function c (among attrs)
  | o => o
where
  among (bs : Bindings) : Bindings :=
    placeAmong before (fun b => some b.1) (annotationsName, annotations) bs

/-- A table for an object as it is now. -/
def start (w : World) (owner : Address) (entries : Bindings) : NoteTable :=
  ⟨owner, namesOf (w.get owner), entries⟩

/-- Lays a table open. -/
def layOpen (t : NoteTable) (w : World) : World :=
  let table := Obj.dict (t.entries.map fun b => (Value.str b.1, b.2)).toArray
  { w with heap := (w.heap.push table).modify t.owner (addTo t.before (.ref w.heap.size)) }

/-- The table of another object. A class has all names that its variables had but one. -/
def moveTo (target : Address) (t : NoteTable) : NoteTable :=
  { t with owner := target, before := t.before.erase "__qualname__" }

end NoteTable

/-- Everything that is kept beside the world. -/
structure Notes where
  code : Array (List Stmt) := #[]
  /-- The tables that nothing has looked at, the latest first. -/
  tables : List NoteTable := []
  /-- Some table has been looked at. -/
  seen : Bool := false
  /-- A script has been told where an object lies. -/
  located : Bool := false

namespace Notes

/-- The statements with a number. -/
def codeOf (n : Notes) (number : Nat) : List Stmt := n.code[number]?.getD []

def keep (code : List Stmt) (n : Notes) : Notes := { n with code := n.code.push code }

/-- Changes the table of an object. -/
def alter (owner : Address) (f : NoteTable → NoteTable) (n : Notes) : Notes :=
  { n with tables := n.tables.map fun t => if t.owner == owner then f t else t }

/-- The world with all tables laid open. -/
def layOpen (n : Notes) (w : World) : World := n.tables.foldr NoteTable.layOpen w

/-- Takes a note: whether it has been taken, the world and the notes then. -/
def take (n : Notes) (w : World) : Note → Bool × World × Notes
  | .start owner entries =>
    let t := NoteTable.start w owner entries
    if n.seen then (true, t.layOpen w, n) else (true, w, { n with tables := t :: n.tables })
  | .entry owner name value =>
    if n.seen then (false, w, n)
    else (true, w, n.alter owner fun t => { t with entries := t.entries.put name value })
  | .move source target => (true, w, n.alter source (.moveTo target))
  | .look =>
    if n.tables.isEmpty then (true, w, n)
    else (true, n.layOpen w, { n with tables := [], seen := true })
  | .locate => (true, w, { n with located := true })

end Notes

/-- A computation that has nothing to keep or to note before its next move. -/
inductive Head (α : Type) where
  | done (value : α) (world : World)
  | raised (error : Value) (world : World)
  | ask (request : Request) (world : World) (next : Except Value Value → World → Run α)

/-- The world that a computation has reached. -/
def Head.world {α : Type} : Head α → World
  | done _ w => w
  | raised _ w => w
  | ask _ w _ => w

namespace Run

variable {α : Type}

/-- Keeps and notes what a computation wants to, up to its next move. -/
def settle : Run α → Notes → Head α × Notes
  | done a w, n => (.done a w, n)
  | raised e w, n => (.raised e w, n)
  | ask r w k, n => (.ask r w k, n)
  | keep c w k, n => (k n.code.size w).settle (n.keep c)
  | note x w k, n =>
    let (taken, w, n) := n.take w x
    (k taken w).settle n

end Run

end RuleBench.Execution
