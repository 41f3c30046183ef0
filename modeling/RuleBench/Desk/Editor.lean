import RuleBench.Bench
import RuleBench.Rule.Saved
import RuleBench.Pacer

/-!
# Editors

What one editing surface knows: the buffer it has open, how far the latest test got and what it
reported, and whom to tell that a report has become void. Everything that editors share is kept
apart (`RuleBench.Desk.Basic`).
-/

namespace RuleBench

open RuleBench.Validation

/-- The place of a test call among all calls. -/
abbrev CallId := Nat

/-- Why an operation of an editor is refused. -/
inductive EditorError where
  | notOpen
  | notRegistered (cause : NotRegistered)
  | saveNotAllowed
  /-- The rule to be saved does not validate. -/
  | refused (refusal : Refusal)

/-- The wording of errors that have one of their own. -/
def EditorError.message : EditorError → String
  | notOpen => "Editing session is not open"
  | notRegistered e => e.message
  | saveNotAllowed => "Rule can only be saved after a successful test of the current code"
  | refused r => r.title

structure Editor (ρ ν : Type) where
  /-- The buffer that is open. -/
  uri : Option String := none
  state : RunState := .idle
  /-- What the latest test reported, unless that is void. -/
  report : Option (Report ρ ν) := none
  /-- The stored rule that is being edited. -/
  rawRule : Option RawRule := none
  /-- The call whose run is under way. -/
  current : Option CallId := none
  /-- Goes up with every request and every invalidation: a run counts while its number is the
  latest. -/
  request : Nat := 0
  notifier : Pacer Float Unit := {}
  /-- Whether anybody is told of invalidations. -/
  listening : Bool := true
  /-- When invalidations were told, the latest last. -/
  notified : List Float := []

namespace Editor

variable {ρ ν : Type}

instance : Inhabited (Editor ρ ν) := ⟨{}⟩

/-- The buffer that is open, with its text and revision. -/
def buffer (e : Editor ρ ν) (c : Buffers) : Except EditorError Buffer :=
  match e.uri with
  | none => .error .notOpen
  | some uri => (c.get uri).mapError .notRegistered

/-- The success on hand, if it belongs to the current text. -/
def savable? (e : Editor ρ ν) (c : Buffers) : Option (Success ρ ν) :=
  match e.state, e.report, e.buffer c with
  | .tested, some (.success s), .ok b => if s.revision == b.revision then some s else none
  | _, _, _ => none

def isSavable (e : Editor ρ ν) (c : Buffers) : Bool := (e.savable? c).isSome

/-- Drops what is known of earlier tests. -/
def forget (e : Editor ρ ν) : Editor ρ ν :=
  { e with request := e.request + 1, report := none, state := .idle, current := none }

/-- Lets go of the buffer that is open. -/
def leave (e : Editor ρ ν) : Editor ρ ν := { e with notifier := e.notifier.cancel, uri := none }

/-- Takes up a new buffer, for a stored rule if there is one. -/
def enter (rawRule : Option RawRule) (uri : String) (e : Editor ρ ν) : Editor ρ ν :=
  { e with rawRule, uri := some uri, state := .idle, report := none }

/-- The run of a call is no longer under way. -/
def drop (i : CallId) (e : Editor ρ ν) : Editor ρ ν :=
  if e.current == some i then { e with current := none } else e

/-- Takes note of the state that a run has come to, while that run is the latest request. -/
def reach (request : Nat) (state : RunState) (e : Editor ρ ν) : Editor ρ ν :=
  if request == e.request then { e with state } else e

/-- Tells the listener. -/
def tell (now : Float) (e : Editor ρ ν) : Editor ρ ν :=
  if e.listening then { e with notified := e.notified ++ [now] } else e

/-- Tells the listener of an invalidation, now or when the interval is over. -/
def announce (interval now : Float) (e : Editor ρ ν) : Editor ρ ν :=
  let (notifier, delivered) := e.notifier.call interval now ()
  let e := { e with notifier }
  if delivered.isSome then e.tell now else e

/-- The timer of the notifier goes off. -/
def fire (now : Float) (e : Editor ρ ν) : Editor ρ ν :=
  let (notifier, delivered) := e.notifier.fire now
  let e := { e with notifier }
  if delivered.isSome then e.tell now else e

end Editor

end RuleBench
