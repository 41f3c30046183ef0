import RuleBench.Execution.Value

/-!
# Actions of running scripts

An action works on a world and ends with a value or an error, or stops to ask for something that it
cannot do itself: that a value is called, that a generator goes on, that a value is handed out. What
is left to do then is a function of the answer, so an action is a tree with questions as inner
nodes. Who answers is left open here (`RuleBench.Execution.Machine`).

Two things are kept beside the world: the statements of declared functions, which objects know by
their number alone, and the annotations that nothing has looked at yet
(`RuleBench.Execution.Notes`). An action puts them there and asks for them like for all else.
-/

namespace RuleBench.Execution

open RuleBench.Script

/-- What scripts work on: objects by address, what was printed, and the errors that are being
handled, innermost first. -/
structure World where
  heap : Array Obj := #[]
  printed : String := ""
  handled : List Value := []

instance : Inhabited World := ⟨{}⟩

/-- The world when nothing is running: no error is being handled. -/
def World.atRest (w : World) : World := { w with handled := [] }

/-- How a generator goes on: with a value, or with an error raised where it stopped. -/
inductive Resumption where
  | send (value : Value)
  | throw (error : Value)

inductive Request where
  | call (function : Value) (args : List Value) (named : Bindings)
  | resume (generator : Address) (how : Resumption)
  | yield (value : Value)

/-- The name that the annotations of a module, class or function are found under. -/
def annotationsName : String := "__annotations__"

/-- Names that a module or class has from its start. -/
def firstNames : List String := ["__name__", "__builtins__", "__module__", "__qualname__"]

/-- What is noted on the way. Most notes are about annotations; a table of them belongs to a module, a
class, a function, or the variables of a class that is being declared. -/
inductive Note where
  /-- Starts the table of an object. -/
  | start (owner : Address) (entries : Bindings)
  /-- Puts an annotation into the table of an object, unless tables lie open. -/
  | entry (owner : Address) (name : String) (value : Value)
  /-- The table of an object is that of another one from now on. -/
  | move (source target : Address)
  /-- Something is about to happen that the tables can be seen by: they are laid open. -/
  | look
  /-- A script is about to be told where an object lies. -/
  | locate

/-- A computation under way. -/
inductive Run (α : Type) where
  | done (value : α) (world : World)
  | raised (error : Value) (world : World)
  | ask (request : Request) (world : World) (next : Except Value Value → World → Run α)
  /-- Keeps statements and goes on with their number. -/
  | keep (code : List Stmt) (world : World) (next : Nat → World → Run α)
  /-- Goes on with whether the note has been taken. -/
  | note (note : Note) (world : World) (next : Bool → World → Run α)

namespace Run

variable {α β : Type}

instance : Inhabited (Run α) := ⟨.raised .none {}⟩

/-- Goes on with the value of a computation. -/
def bind : Run α → (α → World → Run β) → Run β
  | done a w, f => f a w
  | raised e w, _ => raised e w
  | ask r w k, f => ask r w fun x w => (k x w).bind f
  | keep c w k, f => keep c w fun n w => (k n w).bind f
  | note n w k, f => note n w fun b w => (k b w).bind f

/-- Goes on with the error of a computation. -/
def recover : Run α → (Value → World → Run α) → Run α
  | done a w, _ => done a w
  | raised e w, f => f e w
  | ask r w k, f => ask r w fun x w => (k x w).recover f
  | keep c w k, f => keep c w fun n w => (k n w).recover f
  | note n w k, f => note n w fun b w => (k b w).recover f

@[simp] theorem bind_done (a : α) (w : World) (f : α → World → Run β) :
    (done a w).bind f = f a w := rfl

@[simp] theorem bind_raised (e : Value) (w : World) (f : α → World → Run β) :
    (raised e w).bind f = raised e w := rfl

theorem bind_pure (r : Run α) : r.bind done = r := by
  induction r with
  | done => rfl
  | raised => rfl
  | ask _ _ _ ih => simp [bind, ih]
  | keep _ _ _ ih => simp [bind, ih]
  | note _ _ _ ih => simp [bind, ih]

theorem bind_assoc {γ : Type} (r : Run α) (f : α → World → Run β) (g : β → World → Run γ) :
    (r.bind f).bind g = r.bind fun a w => (f a w).bind g := by
  induction r with
  | done => rfl
  | raised => rfl
  | ask _ _ _ ih => simp [bind, ih]
  | keep _ _ _ ih => simp [bind, ih]
  | note _ _ _ ih => simp [bind, ih]

end Run

/-- A computation from a world. -/
def Action (α : Type) : Type := World → Run α

namespace Action

variable {α β : Type}

instance : Inhabited (Action α) := ⟨fun w => .raised .none w⟩

@[inline] protected def pure (a : α) : Action α := fun w => .done a w

@[inline] protected def bind (m : Action α) (f : α → Action β) : Action β := fun w => (m w).bind f

instance : Monad Action where
  pure := Action.pure
  bind := Action.bind

/-- Raises an error. -/
def raise (error : Value) : Action α := fun w => .raised error w

def recover (m : Action α) (f : Value → Action α) : Action α := fun w => (m w).recover f

instance : MonadExceptOf Value Action where
  throw := raise
  tryCatch := recover

def ask (r : Request) : Action Value := fun w => .ask r w fun answer w =>
  match answer with
  | .ok v => .done v w
  | .error e => .raised e w

/-- Keeps the statements of a function; the value is their number. -/
def keep (code : List Stmt) : Action Nat := fun w => .keep code w .done

/-- Whether a note has been taken. -/
def note (n : Note) : Action Bool := fun w => .note n w .done

/-- Lays open the annotations that have been noted. -/
def look : Action Unit := fun w => .note .look w fun _ w => .done () w

/-- The place of an object, for a script to see. -/
def located (a : Address) : Action Address := fun w => .note .locate w fun _ w => .done a w

def world : Action World := fun w => .done w w

def change (f : World → World) : Action Unit := fun w => .done () (f w)

end Action

open RuleBench.Execution.Action

/-- Calls a value. -/
def call (function : Value) (args : List Value) (named : Bindings := []) : Action Value :=
  ask (.call function args named)

/-- Puts a new object on the heap. -/
def alloc (o : Obj) : Action Address := fun w =>
  let a := w.heap.size
  .done a { w with heap := w.heap.push o }

/-- Puts a new object on the heap and refers to it. -/
def new (o : Obj) : Action Value := do return .ref (← alloc o)

def World.get? (w : World) (a : Address) : Option Obj := w.heap[a]?

def World.get (w : World) (a : Address) : Obj := w.heap[a]?.getD default

/-- The object that a value refers to. -/
def World.obj? (w : World) : Value → Option Obj
  | .ref a => w.get? a
  | _ => none

def load (a : Address) : Action Obj := fun w => .done (w.get a) w

def store (a : Address) (o : Obj) : Action Unit := fun w =>
  .done () { w with heap := w.heap.setIfInBounds a o }

/-- Changes an object in its place. -/
def alter (a : Address) (f : Obj → Obj) : Action Unit := fun w =>
  .done () { w with heap := w.heap.modify a f }

def objOf (v : Value) : Action (Option Obj) := fun w => .done (w.obj? v) w

/-- An error of a known class. -/
def newError (className : String) (args : List Value) : Action Value :=
  new (.instance (.known className) [] (some (.tuple args)))

/-- Raises an error of a known class with a message. -/
def fail {α : Type} (className message : String) : Action α := do
  raise (← newError className [.str message])

def typeError {α : Type} (message : String) : Action α := fail "TypeError" message

def valueError {α : Type} (message : String) : Action α := fail "ValueError" message

/-- Prints a text. -/
def emit (text : String) : Action Unit := change fun w => { w with printed := w.printed ++ text }

/-- How many rounds a loop may take that ends on its own: more than any script gets through. -/
def patience : Nat := Nat.pow 2 48

/-- Repeats an action for as long as it wants to go on. -/
def repeatAction {σ α : Type} (step : σ → Action (σ ⊕ α)) : Nat → σ → Action α
  | 0, _ => fail "RuntimeError" "loop does not end"
  | fuel + 1, s => do
    match ← step s with
    | .inl s => repeatAction step fuel s
    | .inr a => pure a

/-- Repeats an action until it has a result. -/
def loop {σ α : Type} (start : σ) (step : σ → Action (σ ⊕ α)) : Action α :=
  repeatAction step patience start

end RuleBench.Execution
