import RuleBench.Desk.Basic

/-!
# The loop

What happens at each event: calls begin and learn how their runs ended, buffers are lowered, and
runs come to their reports. A pass handles the events that are ready when it starts; those that come
up meanwhile are left to the next pass.
-/

namespace RuleBench.Desk

variable {σ ρ ν η ε : Type}

/-- Ends a call. -/
def endCall (i : CallId) (outcome : CallOutcome ρ ν ε) (d : Desk σ ρ ν ε) : Desk σ ρ ν ε :=
  d.setPhase i (.ended outcome)

/-- A call begins: it stops the run under way in its editor and asks for one of its own. -/
def beginCall (i : CallId) (n : Nat) (d : Desk σ ρ ν ε) : Desk σ ρ ν ε :=
  match (d.editor n).uri with
  | none => d.endCall i (.failed .notOpen)
  | some uri =>
    let d := d.abandonRun n
    let request := (d.editor n).request + 1
    let d := d.alterEditor n fun e => { e with request, report := none, current := some i }
    (d.setPhase i (.awaiting uri request .scheduled)).schedule (.run i)

/-- Takes over the report of a run, unless it has been overtaken. -/
def acceptReport (i : CallId) (n : Nat) (uri : String) (request : Nat) (r : Report ρ ν)
    (d : Desk σ ρ ν ε) : Desk σ ρ ν ε :=
  let stale := (d.note [staleNote uri]).endCall i .superseded
  let e := d.editor n
  if request != e.request then stale
  else match e.buffer d.buffers with
    | .error cause => d.endCall i (.failed cause)
    | .ok b =>
      if r.revision != b.revision then stale
      else (d.alterEditor n fun e => { e with report := some r }).endCall i (.report r)

/-- A call learns how its run ended. -/
def finishCall (i : CallId) (c : TestCall ρ ν ε) (uri : String) (request : Nat)
    (result : RunResult ρ ν ε) (d : Desk σ ρ ν ε) : Desk σ ρ ν ε :=
  let d := d.alterEditor c.editor (Editor.drop i)
  if c.cancelRequested then d.endCall i .cancelled
  else match result with
    | .cancelled => (d.note [cancelledNote uri request]).endCall i .superseded
    | .notRegistered cause => d.endCall i (.failed (.notRegistered cause))
    | .raised e => d.endCall i (.raised e)
    | .report r => d.acceptReport i c.editor uri request r

/-- A call begins, or goes on. -/
def advanceCall (i : CallId) (d : Desk σ ρ ν ε) : Desk σ ρ ν ε :=
  match d.call? i with
  | none => d
  | some c => match c.phase with
    | .scheduled => if c.cancelRequested then d.endCall i .cancelled else d.beginCall i c.editor
    | .awaiting uri request (.ended result) => d.finishCall i c uri request result
    | _ => d

/-- Ends a run; its call will learn of it. -/
def endRun (i : CallId) (uri : String) (request : Nat) (result : RunResult ρ ν ε)
    (d : Desk σ ρ ν ε) : Desk σ ρ ν ε :=
  (d.setPhase i (.awaiting uri request (.ended result))).schedule (.call i)

/-- Takes over what a run leaves behind, however it ended. -/
def absorb (n : Nat) (request : Nat) (out : Conclusion ρ ν ε × Generator × σ)
    (d : Desk σ ρ ν ε) : Desk σ ρ ν ε :=
  let (c, generator, world) := out
  let d := { d with generator, world }.note c.notes
  d.alterEditor n fun e => c.states.foldl (fun e s => e.reach request s) e

/-- Makes the command that follows every report go on next. -/
def followUp (n : Nat) (d : Desk σ ρ ν ε) : Desk σ ρ ν ε :=
  match d.afterRun with
  | some command => d.schedule (.command n command)
  | none => d

/-- Goes from an artifact to the end of a run. -/
def conclude (p : Bench) (host : ScriptHost σ ρ ν η ε) (i : CallId) (n : Nat) (uri : String)
    (request : Nat) (a : Artifact) (d : Desk σ ρ ν ε) : Desk σ ρ ν ε :=
  let out := p.conclude host a d.generator d.world
  let d := d.absorb n request out
  match out.1.result with
  | .ok r => (d.followUp n).endRun i uri request (.report r)
  | .error e => match host.passage? e d.world with
    | some .interrupt => { d with interrupt := some e }.endRun i uri request (.raised e)
    | some .cancellation => d.endRun i uri request .cancelled
    | none => d.endRun i uri request (.raised e)

/-- A run begins: it takes the text of its buffer as it is now. -/
def beginRun (i : CallId) (n : Nat) (uri : String) (request : Nat) (d : Desk σ ρ ν ε) :
    Desk σ ρ ν ε :=
  let d := d.alterEditor n (Editor.reach request .compiling)
  match d.buffers.start uri with
  | .error cause => d.endRun i uri request (.notRegistered cause)
  | .ok job =>
    let d := d.note [job.startNote]
    (d.setPhase i (.awaiting uri request (.lowering job))).schedule (.lowering i)

/-- A run begins, or goes on. -/
def advanceRun (p : Bench) (host : ScriptHost σ ρ ν η ε) (i : CallId) (d : Desk σ ρ ν ε) :
    Desk σ ρ ν ε :=
  match d.call? i with
  | some ⟨n, .awaiting uri request run, _⟩ => match run with
    | .scheduled => d.beginRun i n uri request
    | .stopping => d.endRun i uri request .cancelled
    | .lowered a =>
      let d := d.note (Buffers.finishNotes a)
      if d.gateOpen then d.conclude p host i n uri request a
      else d.setPhase i (.awaiting uri request (.held a))
    | .released a => d.conclude p host i n uri request a
    | _ => d
  | _ => d

/-- The buffer of a run is lowered; the run goes on with the artifact. -/
def finishLowering (i : CallId) (d : Desk σ ρ ν ε) : Desk σ ρ ν ε :=
  match d.call? i with
  | some ⟨_, .awaiting uri request (.lowering job), _⟩ =>
    (d.setPhase i (.awaiting uri request (.lowered job.finish))).schedule (.run i)
  | _ => d

/-- What an event does. A command that is refused does nothing. -/
def react (p : Bench) (host : ScriptHost σ ρ ν η ε) (d : Desk σ ρ ν ε) : Event → Desk σ ρ ν ε
  | .call i => d.advanceCall i
  | .run i => d.advanceRun p host i
  | .lowering i => d.finishLowering i
  | .command n c => (d.perform p n c).toOption.getD d

/-- Handles one event. Nothing happens once there was an interrupt. -/
def handle (p : Bench) (host : ScriptHost σ ρ ν η ε) (d : Desk σ ρ ν ε) (e : Event) :
    Desk σ ρ ν ε := if d.interrupt.isSome then d else d.react p host e

/-- Handles the events that are ready. -/
def pass (p : Bench) (host : ScriptHost σ ρ ν η ε) (d : Desk σ ρ ν ε) : Desk σ ρ ν ε :=
  d.ready.foldl (handle p host) { d with ready := [] }

def passes (p : Bench) (host : ScriptHost σ ρ ν η ε) : Nat → Desk σ ρ ν ε → Desk σ ρ ν ε
  | 0, d => d
  | n + 1, d => passes p host n (d.pass p host)

/-! ### Time -/

/-- The editors whose timers are due at some time, the earliest first. -/
def due (target : Float) (d : Desk σ ρ ν ε) : List (Float × Nat) :=
  let timers := d.editors.zipIdx.filterMap fun (e, n) => match e.notifier.deadline with
    | some t => if t ≤ target then some (t, n) else none
    | none => none
  timers.mergeSort fun a b => decide (a.1 ≤ b.1)

/-- The timer of an editor goes off at its time, or now if that has gone by. -/
def ring (d : Desk σ ρ ν ε) (timer : Float × Nat) : Desk σ ρ ν ε :=
  let now := if timer.1 ≤ d.now then d.now else timer.1
  { d with now }.alterEditor timer.2 (Editor.fire now)

/-- Lets time go by; timers go off when they are due. -/
def advance (seconds : Float) (d : Desk σ ρ ν ε) : Desk σ ρ ν ε :=
  let target := d.now + seconds
  { (d.due target).foldl ring d with now := target }

end RuleBench.Desk
