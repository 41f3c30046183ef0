import RuleBench.Desk.Editor

/-!
# The desk

All editors that share their buffers, one store of traces and one generator of samples, with the
test calls that were ever made. A call asks for a test of the buffer that is open and waits for its
run; the run waits for the buffer to be lowered. What goes on next is kept as a list of events
(`RuleBench.Desk.Loop`), so that operations of editors may fall between any two of them.

Stopping a run takes effect when the run goes on next, whatever it waits for.
-/

namespace RuleBench

open RuleBench.Validation

/-- How a run ends. -/
inductive RunResult (ρ ν ε : Type) where
  | report (report : Report ρ ν)
  | cancelled
  | notRegistered (cause : NotRegistered)
  | raised (error : ε)

/-- Where a run stands. -/
inductive RunPhase (ρ ν ε : Type) where
  | scheduled
  /-- It waits for its buffer to be lowered. -/
  | lowering (job : Buffers.Job)
  | lowered (artifact : Artifact)
  /-- It waits at the gate. -/
  | held (artifact : Artifact)
  | released (artifact : Artifact)
  /-- It was stopped and ends as soon as it goes on. -/
  | stopping
  | ended (result : RunResult ρ ν ε)

def RunPhase.isEnded {ρ ν ε : Type} : RunPhase ρ ν ε → Bool
  | ended _ => true
  | _ => false

/-- What a test call answers. -/
inductive CallOutcome (ρ ν ε : Type) where
  | report (report : Report ρ ν)
  /-- A newer request or an edit came in between, or the script cancelled its own run. -/
  | superseded
  /-- Its caller cancelled it. -/
  | cancelled
  | failed (cause : EditorError)
  | raised (error : ε)

/-- Where a test call stands. -/
inductive CallPhase (ρ ν ε : Type) where
  | scheduled
  /-- It waits for its run of a buffer, which has the number of its request. -/
  | awaiting (uri : String) (request : Nat) (run : RunPhase ρ ν ε)
  | ended (outcome : CallOutcome ρ ν ε)

structure TestCall (ρ ν ε : Type) where
  /-- The editor it was made in. -/
  editor : Nat
  phase : CallPhase ρ ν ε := .scheduled
  /-- Its caller has cancelled it. -/
  cancelRequested : Bool := false

namespace TestCall

variable {ρ ν ε : Type}

/-- Its run has been asked for and has not ended. -/
def isRunning (c : TestCall ρ ν ε) : Bool :=
  match c.phase with
  | .awaiting _ _ run => !run.isEnded
  | _ => false

def outcome? (c : TestCall ρ ν ε) : Option (CallOutcome ρ ν ε) :=
  match c.phase with
  | .ended o => some o
  | _ => none

end TestCall

/-- Operations of an editor that answer nothing. -/
inductive Command where
  | open (rawRule : Option RawRule)
  | close
  | edit (text : String)
  | invalidate

/-- What goes on next. -/
inductive Event where
  /-- A call begins, or learns how its run ended. -/
  | call (call : CallId)
  /-- The run of a call begins, or goes on. -/
  | run (call : CallId)
  /-- The buffer of a run is lowered. -/
  | lowering (call : CallId)
  | command (editor : Nat) (command : Command)

/-- Everything that editors share, and the editors by their numbers. -/
structure Desk (σ ρ ν ε : Type) where
  buffers : Buffers := {}
  generator : Generator
  world : σ
  /-- How many buffers were ever opened. -/
  opened : Nat := 0
  editors : List (Editor ρ ν) := [{}]
  calls : List (TestCall ρ ν ε) := []
  /-- What goes on next, in this order. -/
  ready : List Event := []
  /-- While the gate is closed, no run gets past its compilation. -/
  gateOpen : Bool := true
  /-- Performed whenever a run has come to a report, before its call learns of it. -/
  afterRun : Option Command := none
  /-- The time in seconds. -/
  now : Float := 0.0
  /-- The interrupt that has put an end to everything. -/
  interrupt : Option ε := none
  notes : List LogRecord := []

namespace Desk

variable {σ ρ ν ε : Type}

def editor (d : Desk σ ρ ν ε) (n : Nat) : Editor ρ ν := d.editors[n]?.getD {}

def alterEditor (n : Nat) (f : Editor ρ ν → Editor ρ ν) (d : Desk σ ρ ν ε) : Desk σ ρ ν ε :=
  { d with editors := d.editors.modify n f }

def call? (d : Desk σ ρ ν ε) (i : CallId) : Option (TestCall ρ ν ε) := d.calls[i]?

def setPhase (i : CallId) (phase : CallPhase ρ ν ε) (d : Desk σ ρ ν ε) : Desk σ ρ ν ε :=
  { d with calls := d.calls.modify i fun c => { c with phase } }

def schedule (e : Event) (d : Desk σ ρ ν ε) : Desk σ ρ ν ε := { d with ready := d.ready ++ [e] }

def note (records : List LogRecord) (d : Desk σ ρ ν ε) : Desk σ ρ ν ε :=
  { d with notes := d.notes ++ records }

def isRunning (d : Desk σ ρ ν ε) (i : CallId) : Bool := (d.call? i).any TestCall.isRunning

/-- Whether an editor has a test under way. -/
def isBusy (d : Desk σ ρ ν ε) (n : Nat) : Bool := (d.editor n).current.any d.isRunning

def isSavable (d : Desk σ ρ ν ε) (n : Nat) : Bool := (d.editor n).isSavable d.buffers

/-! ### What is noted -/

def deskNote (text : String) : LogRecord := ⟨.debug, .desk, text⟩

def openedNote (uri : String) : LogRecord := deskNote ("Opened editing session " ++ uri)

def cancellingNote : LogRecord := deskNote "Cancelling test run in flight"

def cancelledNote (uri : String) (request : Nat) : LogRecord :=
  deskNote ("Test run " ++ toString request ++ " of " ++ uri ++ " was cancelled")

def staleNote (uri : String) : LogRecord := deskNote ("Discarding stale report for " ++ uri)

/-! ### Operations -/

/-- Stops the run of a call. A run that waits for something is made to go on, so that it can end. -/
def stopRun (i : CallId) (d : Desk σ ρ ν ε) : Desk σ ρ ν ε :=
  match d.call? i with
  | some ⟨_, .awaiting uri request run, _⟩ =>
    let stopped := d.setPhase i (.awaiting uri request .stopping)
    match run with
    | .ended _ => d
    | .lowering _ => stopped.schedule (.run i)
    | .held _ => stopped.schedule (.run i)
    | _ => stopped
  | _ => d

/-- Stops the run that an editor has under way, if there is one. -/
def abandonRun (n : Nat) (d : Desk σ ρ ν ε) : Desk σ ρ ν ε :=
  match (d.editor n).current with
  | some i => if d.isRunning i then (d.note [cancellingNote]).stopRun i else d
  | none => d

/-- Makes the report of an editor void and stops the test under way. -/
def invalidate (n : Nat) (d : Desk σ ρ ν ε) : Desk σ ρ ν ε :=
  (d.abandonRun n).alterEditor n Editor.forget

/-- Closes the buffer that an editor has open. -/
def close (n : Nat) (d : Desk σ ρ ν ε) : Desk σ ρ ν ε :=
  let d := d.invalidate n
  let uri := (d.editor n).uri
  let d := d.alterEditor n Editor.leave
  match uri with
  | some uri => { d with buffers := d.buffers.erase uri }.note [Buffers.eraseNote uri]
  | none => d

/-- The identifier of the buffer that is opened after so many others. -/
def bufferUri (opened : Nat) : String := "inmemory://rule/" ++ toString (opened + 1)

/-- Registers the text of a new buffer. -/
def register (text : String) (d : Desk σ ρ ν ε) : Desk σ ρ ν ε :=
  { d with opened := d.opened + 1, buffers := d.buffers.insert (bufferUri d.opened) text }

/-- Opens a new buffer with the text of a stored rule, else with the template of the kind. -/
def openBuffer (p : Bench) (n : Nat) (rawRule : Option RawRule) (d : Desk σ ρ ν ε) :
    Desk σ ρ ν ε :=
  let d := if (d.editor n).uri.isSome then d.close n else d
  let uri := bufferUri d.opened
  let text := (rawRule.map RawRule.rawCode).getD p.kind.template
  ((d.register text).alterEditor n (Editor.enter rawRule uri)).note
    [Buffers.insertNote uri, openedNote uri]

/-- Replaces the text of the open buffer; any report becomes void and the listener is told. -/
def edit (p : Bench) (n : Nat) (text : String) (d : Desk σ ρ ν ε) :
    Except EditorError (Desk σ ρ ν ε) :=
  match (d.editor n).uri with
  | none => .error .notOpen
  | some uri => match d.buffers.edit uri text with
    | .error e => .error (.notRegistered e)
    | .ok buffers =>
      let d := { d with buffers }.invalidate n
      .ok (d.alterEditor n (Editor.announce p.settings.throttleInterval d.now))

/-- Performs a command of an editor. -/
def perform (p : Bench) (n : Nat) (d : Desk σ ρ ν ε) :
    Command → Except EditorError (Desk σ ρ ν ε)
  | .open rawRule => .ok (d.openBuffer p n rawRule)
  | .close => .ok (d.close n)
  | .edit text => d.edit p n text
  | .invalidate => .ok (d.invalidate n)

/-- Saves the rule that an editor has tested. `freshKey` serves a rule that has no key yet. -/
def save (n : Nat) (name : Data) (freshKey : String) (d : Desk σ ρ ν ε) :
    Except EditorError (SavedRule ν × Desk σ ρ ν ε) :=
  let e := d.editor n
  match e.savable? d.buffers with
  | none => .error .saveNotAllowed
  | some report => match SavedRule.ofSuccess report name e.rawRule freshKey with
    | .error r => .error (.refused r)
    | .ok saved =>
      let d := d.alterEditor n fun e => { e with rawRule := some saved.raw }
      .ok (saved, d.note [saved.note])

/-- Makes a test call in an editor. -/
def startCall (n : Nat) (d : Desk σ ρ ν ε) : CallId × Desk σ ρ ν ε :=
  let i := d.calls.length
  let d : Desk σ ρ ν ε := { d with calls := d.calls ++ [{ editor := n }] }
  (i, d.schedule (.call i))

/-- Takes down that the caller of a call has cancelled it. -/
def markCancelled (i : CallId) (d : Desk σ ρ ν ε) : Desk σ ρ ν ε :=
  { d with calls := d.calls.modify i fun c => { c with cancelRequested := true } }

/-- Cancels a call on behalf of its caller; tells whether there was anything left to cancel. -/
def cancelCall (i : CallId) (d : Desk σ ρ ν ε) : Bool × Desk σ ρ ν ε :=
  match (d.call? i).map TestCall.phase with
  | some .scheduled => (true, d.markCancelled i)
  | some (.awaiting ..) => (true, (d.markCancelled i).stopRun i)
  | _ => (false, d)

/-- Lets the run of a call pass, if it waits at the gate. -/
def release (d : Desk σ ρ ν ε) (i : CallId) : Desk σ ρ ν ε :=
  match (d.call? i).map TestCall.phase with
  | some (.awaiting uri request (.held a)) =>
    (d.setPhase i (.awaiting uri request (.released a))).schedule (.run i)
  | _ => d

/-- Opens or closes the gate. Runs that wait at it go on once it is open. -/
def setGate (isOpen : Bool) (d : Desk σ ρ ν ε) : Desk σ ρ ν ε :=
  let d := { d with gateOpen := isOpen }
  if isOpen then (List.range d.calls.length).foldl release d else d

end Desk

end RuleBench
