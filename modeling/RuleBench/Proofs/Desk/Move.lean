import RuleBench.Execution.Host
import RuleBench.Proofs.Desk.Effect
import RuleBench.Trace.Sample

/-!
# Moves on a desk

Everything that may happen next: an operation of an editor, a test call that is made or cancelled, a
text that is replaced past its editor, an event that the loop handles. The loop may take any event
that is ready, so a list of moves is one order of operations and events, and a statement about all
lists of moves holds for every order. The loop's own order, first come first served, is one of them
(`pass_eq_after`).
-/

namespace RuleBench

inductive Move (σ : Type) where
  | command (editor : Nat) (command : Command)
  | save (editor : Nat) (name : Data) (freshKey : String)
  /-- A test call is made in an editor. -/
  | start (editor : Nat)
  /-- A test call is cancelled by its caller. -/
  | cancel (call : CallId)
  /-- The text of a buffer is replaced, whoever has it open. -/
  | update (uri text : String)
  /-- The loop handles the event at a place among those that are ready. -/
  | turn (place : Nat)
  /-- The world of scripts changes: traces come and go. -/
  | world (world : σ)
  | gate (isOpen : Bool)
  | afterRun (command : Option Command)
  | advance (seconds : Float)

namespace Desk

variable {σ ρ ν η ε : Type} (p : Bench) (host : ScriptHost σ ρ ν η ε)

/-- Handles the event at a place among those that are ready. -/
def turn (place : Nat) (d : Desk σ ρ ν ε) : Desk σ ρ ν ε :=
  match d.ready[place]? with
  | some e => { d with ready := d.ready.eraseIdx place }.handle p host e
  | none => d

/-- Replaces the text of a buffer past its editor. -/
def update (uri text : String) (d : Desk σ ρ ν ε) : Desk σ ρ ν ε :=
  match d.buffers.edit uri text with
  | .ok buffers => { d with buffers }
  | .error _ => d

/-- Makes a move. An operation that is refused changes nothing. -/
def move (d : Desk σ ρ ν ε) : Move σ → Desk σ ρ ν ε
  | .command n c => d.react p host (.command n c)
  | .save n name freshKey => ((d.save n name freshKey).toOption.map Prod.snd).getD d
  | .start n => (d.startCall n).2
  | .cancel i => (d.cancelCall i).2
  | .update uri text => d.update uri text
  | .turn place => d.turn p host place
  | .world world => { d with world }
  | .gate isOpen => d.setGate isOpen
  | .afterRun command => { d with afterRun := command }
  | .advance seconds => d.advance seconds

/-- Makes moves one after the other. -/
def after (d : Desk σ ρ ν ε) (ms : List (Move σ)) : Desk σ ρ ν ε := ms.foldl (move p host) d

@[simp] theorem after_nil (d : Desk σ ρ ν ε) : d.after p host [] = d := rfl

@[simp] theorem after_cons (d : Desk σ ρ ν ε) (m : Move σ) (ms : List (Move σ)) :
    d.after p host (m :: ms) = (d.move p host m).after p host ms := rfl

@[simp] theorem after_append (d : Desk σ ρ ν ε) (ms ms' : List (Move σ)) :
    d.after p host (ms ++ ms') = (d.after p host ms).after p host ms' := List.foldl_append

/-- Every one of some moves has a property on the desk on which it is made. -/
def Along (P : Desk σ ρ ν ε → Move σ → Prop) : Desk σ ρ ν ε → List (Move σ) → Prop
  | _, [] => True
  | d, m :: ms => P d m ∧ Along P (d.move p host m) ms

/-- A desk on which nothing has happened yet, with editors that have nothing open. There may be
buffers already, and others may have been opened elsewhere before. -/
def fresh (listening : List Bool) (buffers : Buffers) (opened : Nat) (generator : Generator)
    (world : σ) : Desk σ ρ ν ε where
  buffers := buffers
  opened := opened
  generator := generator
  world := world
  editors := listening.map fun listening => { listening }

theorem editor_fresh (listening : List Bool) (buffers : Buffers) (opened : Nat)
    (generator : Generator) (world : σ) (n : Nat) :
    ∃ listening', (fresh listening buffers opened generator world : Desk σ ρ ν ε).editor n =
      { listening := listening' } := by
  simp only [editor, fresh, List.getElem?_map]
  cases listening[n]? with
  | none => exact ⟨true, rfl⟩
  | some listening' => exact ⟨listening', rfl⟩

/-- The desks that moves lead to. -/
inductive Reachable : Desk σ ρ ν ε → Prop where
  | fresh (listening : List Bool) (buffers : Buffers) (opened : Nat) (generator : Generator)
      (world : σ) : Reachable (fresh listening buffers opened generator world)
  | move {d : Desk σ ρ ν ε} (m : Move σ) : Reachable d → Reachable (d.move p host m)

variable {p host}

theorem Reachable.after {d : Desk σ ρ ν ε} (h : Reachable p host d) (ms : List (Move σ)) :
    Reachable p host (d.after p host ms) := by
  induction ms generalizing d with
  | nil => exact h
  | cons m ms ih => exact ih (h.move m)

/-! ### The order of the loop -/

/-- The desk with more events that go first. -/
def defer (es : List Event) (d : Desk σ ρ ν ε) : Desk σ ρ ν ε := { d with ready := es ++ d.ready }

section Defer

variable (es : List Event) (d : Desk σ ρ ν ε)

theorem defer_schedule (e : Event) : (d.defer es).schedule e = (d.schedule e).defer es := by
  simp [defer, schedule]

theorem defer_stopRun (i : CallId) : (d.defer es).stopRun i = (d.stopRun i).defer es := by
  have same : (d.defer es).call? i = d.call? i := rfl
  unfold stopRun
  rw [same]
  split
  · split
    · rfl
    · exact defer_schedule es (d.setPhase i _) _
    · exact defer_schedule es (d.setPhase i _) _
    · rfl
  · rfl

theorem defer_abandonRun (n : Nat) : (d.defer es).abandonRun n = (d.abandonRun n).defer es := by
  have same : ((d.defer es).editor n).current = (d.editor n).current := rfl
  unfold abandonRun
  rw [same]
  split
  · next i _ =>
    have running : (d.defer es).isRunning i = d.isRunning i := rfl
    rw [running]
    split
    · exact defer_stopRun es (d.note _) i
    · rfl
  · rfl

theorem defer_invalidate (n : Nat) : (d.defer es).invalidate n = (d.invalidate n).defer es := by
  unfold invalidate
  rw [defer_abandonRun]
  rfl

theorem defer_close (n : Nat) : (d.defer es).close n = (d.close n).defer es := by
  unfold close
  rw [defer_invalidate]
  have same : (((d.invalidate n).defer es).editor n).uri = ((d.invalidate n).editor n).uri := rfl
  simp only [same]
  split <;> rfl

theorem defer_perform (p : Bench) (n : Nat) (c : Command) :
    (d.defer es).perform p n c = (d.perform p n c).map (defer es) := by
  cases c with
  | «open» rawRule =>
    have same : ((d.defer es).editor n).uri = (d.editor n).uri := rfl
    simp only [perform, openBuffer, same, defer_close, Except.map]
    split <;> rfl
  | close => simp only [perform, defer_close, Except.map]
  | edit text =>
    have same : ((d.defer es).editor n).uri = (d.editor n).uri := rfl
    have buffers : (d.defer es).buffers = d.buffers := rfl
    simp only [perform, edit, same, buffers]
    split
    · rfl
    · split
      · rfl
      · next buffers _ =>
        have moved : ({ d.defer es with buffers } : Desk σ ρ ν ε).invalidate n =
            ({ d with buffers }.invalidate n).defer es := defer_invalidate es { d with buffers } n
        simp only [moved, Except.map]
        rfl
  | invalidate => simp only [perform, defer_invalidate, Except.map]

theorem defer_beginCall (i : CallId) (n : Nat) :
    (d.defer es).beginCall i n = (d.beginCall i n).defer es := by
  have same : ((d.defer es).editor n).uri = (d.editor n).uri := rfl
  simp only [beginCall, same]
  split
  · rfl
  · simp only [defer_abandonRun]
    exact defer_schedule es (((d.abandonRun n).alterEditor n _).setPhase i _) _

theorem defer_acceptReport (i : CallId) (n : Nat) (uri : String) (request : Nat)
    (r : Report ρ ν) :
    (d.defer es).acceptReport i n uri request r = (d.acceptReport i n uri request r).defer es := by
  have editor : (d.defer es).editor n = d.editor n := rfl
  have buffers : (d.defer es).buffers = d.buffers := rfl
  simp only [acceptReport, editor, buffers]
  split
  · rfl
  · split
    · rfl
    · split <;> rfl

theorem defer_advanceCall (i : CallId) :
    (d.defer es).advanceCall i = (d.advanceCall i).defer es := by
  have same : (d.defer es).call? i = d.call? i := rfl
  simp only [advanceCall, same]
  split
  · rfl
  · next c _ =>
    split
    · split
      · rfl
      · exact defer_beginCall es d i c.editor
    · next uri request result _ =>
      unfold finishCall
      split
      · rfl
      · split
        · rfl
        · rfl
        · rfl
        · exact defer_acceptReport es (d.alterEditor c.editor _) i c.editor uri request _
    · rfl

theorem defer_endRun (i : CallId) (uri : String) (request : Nat) (result : RunResult ρ ν ε) :
    (d.defer es).endRun i uri request result = (d.endRun i uri request result).defer es :=
  defer_schedule es (d.setPhase i _) _

theorem defer_followUp (n : Nat) : (d.defer es).followUp n = (d.followUp n).defer es := by
  have same : (d.defer es).afterRun = d.afterRun := rfl
  simp only [followUp, same]
  split
  · exact defer_schedule es d _
  · rfl

theorem defer_conclude (p : Bench) (host : ScriptHost σ ρ ν η ε) (i : CallId) (n : Nat)
    (uri : String) (request : Nat) (a : Artifact) :
    (d.defer es).conclude p host i n uri request a =
      (d.conclude p host i n uri request a).defer es := by
  have generator : (d.defer es).generator = d.generator := rfl
  have world : (d.defer es).world = d.world := rfl
  simp only [conclude, generator, world]
  have moved : (d.defer es).absorb n request (p.conclude host a d.generator d.world) =
      (d.absorb n request (p.conclude host a d.generator d.world)).defer es := rfl
  have same : ((d.absorb n request (p.conclude host a d.generator d.world)).defer es).world =
      (d.absorb n request (p.conclude host a d.generator d.world)).world := rfl
  simp only [moved, same]
  split
  · rw [defer_followUp, defer_endRun]
  · next e _ =>
    split
    · exact defer_endRun es
        { d.absorb n request (p.conclude host a d.generator d.world) with interrupt := some e } i
        uri request _
    · exact defer_endRun es _ i uri request _
    · exact defer_endRun es _ i uri request _

theorem defer_advanceRun (p : Bench) (host : ScriptHost σ ρ ν η ε) (i : CallId) :
    (d.defer es).advanceRun p host i = (d.advanceRun p host i).defer es := by
  have same : (d.defer es).call? i = d.call? i := rfl
  simp only [advanceRun, same]
  split
  · next n uri request run _ _ =>
    cases run with
    | scheduled =>
      have buffers : ((d.defer es).alterEditor n (Editor.reach request .compiling)).buffers =
        (d.alterEditor n (Editor.reach request .compiling)).buffers := rfl
      simp only [beginRun, buffers]
      split
      · exact defer_endRun es (d.alterEditor n _) i uri request _
      · exact defer_schedule es (((d.alterEditor n _).note _).setPhase i _) _
    | lowering => rfl
    | lowered a =>
      have gate : ((d.defer es).note (Buffers.finishNotes a)).gateOpen =
        (d.note (Buffers.finishNotes a)).gateOpen := rfl
      simp only [gate]
      split
      · exact defer_conclude es (d.note _) p host i n uri request a
      · rfl
    | held => rfl
    | released a => exact defer_conclude es d p host i n uri request a
    | stopping => exact defer_endRun es d i uri request _
    | ended => rfl
  · rfl

theorem defer_react (p : Bench) (host : ScriptHost σ ρ ν η ε) (e : Event) :
    (d.defer es).react p host e = (d.react p host e).defer es := by
  cases e with
  | call i => exact defer_advanceCall es d i
  | run i => exact defer_advanceRun es d p host i
  | lowering i =>
    have same : (d.defer es).call? i = d.call? i := rfl
    simp only [react, finishLowering, same]
    split
    · exact defer_schedule es (d.setPhase i _) _
    · rfl
  | command n c =>
    simp only [react, defer_perform]
    cases d.perform p n c <;> rfl

theorem defer_handle (p : Bench) (host : ScriptHost σ ρ ν η ε) (e : Event) :
    (d.defer es).handle p host e = (d.handle p host e).defer es := by
  have interrupt : (d.defer es).interrupt = d.interrupt := rfl
  simp only [handle, interrupt]
  split
  · rfl
  · exact defer_react es d p host e

end Defer

/-- A pass of the loop makes the first event that is ready go, as often as there were events when it
started. -/
theorem pass_eq_after (p : Bench) (host : ScriptHost σ ρ ν η ε) (d : Desk σ ρ ν ε) :
    d.pass p host = d.after p host (List.replicate d.ready.length (.turn 0)) := by
  suffices h : ∀ (es : List Event) (d : Desk σ ρ ν ε),
      es.foldl (handle p host) d =
        (d.defer es).after p host (List.replicate es.length (.turn 0)) by
    have start : d = ({ d with ready := [] } : Desk σ ρ ν ε).defer d.ready := by simp [defer]
    exact (h d.ready _).trans (by rw [← start])
  intro es
  induction es with
  | nil => intro d; rfl
  | cons e es ih =>
    intro d
    have first : (d.defer (e :: es)).move p host (.turn 0) = (d.handle p host e).defer es :=
      defer_handle es d p host e
    rw [List.foldl_cons, List.length_cons, List.replicate_succ, after_cons, first]
    exact ih _

theorem Reachable.passes {p : Bench} {host : ScriptHost σ ρ ν η ε} {d : Desk σ ρ ν ε}
    (h : Reachable p host d) (n : Nat) : Reachable p host (d.passes p host n) := by
  induction n generalizing d with
  | zero => exact h
  | succ n ih => exact ih (pass_eq_after p host d ▸ h.after _)

/-! ### A desk to try things on -/

/-- A bench for rules that group spans. It shows no outcomes, so that it never draws any. -/
def sampleBench : Bench := ⟨.spanGrouping, { sampleSize := 0 }⟩

/-- A desk with one editor, and with one trace of one span in its world. -/
def sampleDesk : Desk Execution.Scene Execution.LiveRecord Execution.Value Execution.Value :=
  fresh [true] {} 0 (.ofSeed 0)
    (.ofTraces (Trace.sample (.str "t1") [.str "checkout"]).toOption.toList)

/-- A script that groups every span. -/
def groupingScript : String := "def groupBy(span, trace):\n    return ('a', span.trace_id)\n"

/-- A stored rule is opened and tested, until the loop has handled some events. -/
def sampleTest (source : String) (turns : Nat) : List (Move Execution.Scene) :=
  .command 0 (.open (some ⟨"key", "name", source, ""⟩)) :: .start 0 ::
    List.replicate turns (.turn 0)

/-- A desk on which a rule was opened and tested. -/
def sampleAfter (source : String) (turns : Nat) :
    Desk Execution.Scene Execution.LiveRecord Execution.Value Execution.Value :=
  sampleDesk.after sampleBench Execution.host (sampleTest source turns)

theorem reachable_sampleAfter (source : String) (turns : Nat) :
    Reachable sampleBench Execution.host (sampleAfter source turns) :=
  (Reachable.fresh ..).after _

end Desk

end RuleBench
