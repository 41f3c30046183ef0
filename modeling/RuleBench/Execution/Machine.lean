import RuleBench.Execution.Apply
import RuleBench.Execution.Notes

/-!
# The machine

Answers what running actions ask for. Calls are kept on a stack of what is left to do afterwards, so
that nesting costs no recursion; a generator that has handed out a value is set aside until it is
resumed.

`step` is one move and `Machine.run` makes moves until the stack is empty.
-/

namespace RuleBench.Execution

/-- What is left to do with an answer. -/
abbrev Rest := Except Value Value → World → Run Value

/-- A generator that waits to be resumed, with the errors that it is handling. -/
structure Waiting where
  rest : Rest
  handled : List Value

/-- What waits below the computation under way. -/
inductive Layer where
  /-- A call; `nested` tells that it takes a level of nesting. -/
  | call (rest : Rest) (nested : Bool)
  /-- The one who resumed a generator, with the number of errors that were being handled. -/
  | generator (address : Address) (rest : Rest) (handled : Nat)

/-- Everything that outlives a computation. -/
structure Memory where
  world : World := {}
  /-- Generators that are set aside, the latest first. -/
  waiting : List (Address × Waiting) := []
  notes : Notes := {}

instance : Inhabited Memory := ⟨{}⟩

/-- A computation under way. -/
structure Machine where
  now : Run Value
  stack : List Layer := []
  depth : Nat := 0
  waiting : List (Address × Waiting) := []
  notes : Notes := {}

/-- How a computation ends. -/
structure Ending where
  result : Except Value Value
  memory : Memory

namespace Machine

/-- How deep calls may be nested. -/
def greatestDepth : Nat := 980

/-- Takes a generator out of those that are set aside. -/
def takeWaiting (a : Address) : List (Address × Waiting) →
    Option (Waiting × List (Address × Waiting))
  | [] => none
  | (b, g) :: rest =>
    if a == b then some (g, rest)
    else (takeWaiting a rest).map fun (found, others) => (found, (b, g) :: others)

def setState (a : Address) (state : GeneratorState) (w : World) : World :=
  { w with heap := w.heap.modify a fun o => match o with
    | .generator name path form _ => .generator name path form state
    | o => o }

/-- The error that the end of a generator is. -/
def ended (value : Value) : Action Value := exhausted value

/-- An error that leaves a generator; the one that tells of an end must not be taken for its own. -/
def leaving (name : String) (e : Value) : Action Value := do
  if ← isInstanceOf e "StopIteration" then
    let cause := e
    let e ← newError "RuntimeError" [.str (name ++ " raised StopIteration")]
    noteCause e cause
    Action.raise e
  else Action.raise e

/-- What kind of generator stands at an address. -/
def kindName (w : World) (a : Address) : String :=
  match w.get a with
  | .generator _ _ form _ => form.typeName
  | _ => "generator"

/-- Keeps the errors that are handled outside a generator. -/
def outside (handled : Nat) (w : World) : World :=
  { w with handled := w.handled.drop (w.handled.length - handled) }

/-- Answers the request to resume a generator. -/
def resume (m : Machine) (a : Address) (how : Resumption) (w : World) (k : Rest) : Machine :=
  let answerWith (action : Action Value) : Machine :=
    { m with now := action w, stack := .call k false :: m.stack }
  let enter (now : World → Run Value) (waiting : List (Address × Waiting)) (handled : List Value) :
      Machine :=
    let layer := Layer.generator a k w.handled.length
    let w := setState a .running { w with handled := handled ++ w.handled }
    { m with now := now w, stack := layer :: m.stack, depth := m.depth + 1, waiting }
  match w.get a with
  | .generator _ _ form state => match state with
    | .fresh work => match how with
      | .throw e =>
        { m with now := Action.raise e (setState a .finished w), stack := .call k false :: m.stack }
      | .send .none => enter (beginWork m.notes.codeOf work) m.waiting []
      | .send _ =>
        answerWith (typeError ("can't send non-None value to a just-started " ++ form.typeName))
    | .running => answerWith (valueError (form.typeName ++ " already executing"))
    | .finished => match how with
      | .throw e => answerWith (Action.raise e)
      | .send _ => answerWith (exhausted)
    | .suspended => match takeWaiting a m.waiting with
      | none => answerWith (exhausted)
      | some (g, waiting) =>
        let answer := match how with
          | .send v => Except.ok v
          | .throw e => .error e
        enter (g.rest answer) waiting g.handled
  | _ => answerWith (typeError "not a generator")

/-- Answers the request to hand out a value: the generator is set aside. -/
def handOut (m : Machine) (v : Value) (w : World) (k : Rest) : Machine :=
  match m.stack with
  | .generator a rest handled :: stack =>
    let own := w.handled.take (w.handled.length - handled)
    let w := setState a .suspended (outside handled w)
    { m with
      now := rest (.ok v) w, stack, depth := m.depth - 1, waiting := (a, ⟨k, own⟩) :: m.waiting }
  | _ => { m with now := typeError "nothing takes what is handed out" w }

/-- Answers the request to call a value. -/
def enterCall (m : Machine) (f : Value) (args : List Value) (named : Bindings) (w : World)
    (k : Rest) : Machine :=
  let nested := w.isNested f
  let action : Action Value :=
    if nested && m.depth ≥ greatestDepth then
      fail "RecursionError" "maximum recursion depth exceeded"
    else apply m.notes.codeOf f args named
  { m with
    now := action w
    stack := .call k nested :: m.stack
    depth := if nested then m.depth + 1 else m.depth }

/-- Passes the end of a computation on to what waits for it. -/
def finish (m : Machine) (result : Except Value Value) (w : World) : Ending ⊕ Machine :=
  match m.stack with
  | [] => .inl ⟨result, ⟨w, m.waiting, m.notes⟩⟩
  | .call rest nested :: stack =>
    .inr { m with now := rest result w, stack, depth := if nested then m.depth - 1 else m.depth }
  | .generator a rest handled :: stack =>
    let name := kindName w a
    let w := setState a .finished (outside handled w)
    let last := match result with
      | .ok v => exhausted v
      | .error e => leaving name e
    .inr { m with now := last w, stack := .call rest false :: stack, depth := m.depth - 1 }

/-- One move, with all that is kept and noted before it. -/
def step (m : Machine) : Ending ⊕ Machine :=
  let (head, notes) := m.now.settle m.notes
  let m := { m with notes }
  match head with
  | .done v w => m.finish (.ok v) w
  | .raised e w => m.finish (.error e) w
  | .ask (.call f args named) w k => .inr (m.enterCall f args named w k)
  | .ask (.resume a how) w k => .inr (m.resume a how w k)
  | .ask (.yield v) w k => .inr (m.handOut v w k)

/-- What is left of a computation that is not carried on. -/
def abandon (m : Machine) : Ending :=
  let (head, notes) := m.now.settle m.notes
  ⟨.error .none, ⟨head.world, m.waiting, notes⟩⟩

/-- Makes moves until the computation ends, as many as the fuel at most. -/
def run : Nat → Machine → Ending
  | 0, m => m.abandon
  | fuel + 1, m => match m.step with
    | .inl ending => ending
    | .inr m => run fuel m

end Machine

namespace Memory

/-- Performs an action to its end. No error is being handled when it starts. -/
def perform (memory : Memory) (action : Action Value) : Ending :=
  let machine : Machine :=
    { now := action memory.world.atRest, waiting := memory.waiting, notes := memory.notes }
  machine.run patience

/-- Performs an action that answers no value. -/
def performUnit (memory : Memory) (action : Action Unit) : Ending :=
  memory.perform do
    action
    pure .none

end Memory

end RuleBench.Execution
