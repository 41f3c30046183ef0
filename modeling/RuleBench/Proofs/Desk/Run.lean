import RuleBench.Proofs.Bench
import RuleBench.Proofs.Buffers
import RuleBench.Proofs.Desk.Effect

/-!
# How runs go on

What happens when the run of a call goes on, as long as the call is the latest request of its
editor: the state of the editor follows the run, and the run comes closer to its end
(`advanceRun_latest`). A run that has been stopped only ends (`advanceRun_stopping`).
-/

namespace RuleBench

variable {σ ρ ν η ε : Type} {p : Bench} {host : ScriptHost σ ρ ν η ε}

/-- The artifact with which a run goes past the gate as soon as it goes on. -/
def RunPhase.passing? (gateOpen : Bool) : RunPhase ρ ν ε → Option Artifact
  | lowered a => if gateOpen then some a else none
  | released a => some a
  | _ => none

namespace Desk

variable {d d' : Desk σ ρ ν ε} {n : Nat} {i : CallId} {uri : String} {request : Nat}
  {run : RunPhase ρ ν ε} {asked : Bool}

/-- One call goes on. Of its editor at most the state changes, and no other call is touched. -/
structure Progress (d d' : Desk σ ρ ν ε) (n : Nat) (i : CallId) (state : RunState)
    (c : TestCall ρ ν ε) : Prop where
  editor : ∀ m, d'.editor m = if m = n then { d.editor n with state } else d.editor m
  calls : ∀ j, d'.call? j = if j = i then some c else d.call? j
  buffers : d'.buffers = d.buffers
  opened : d'.opened = d.opened
  interrupt : d.interrupt.isSome → d'.interrupt.isSome

/-- The phase of a run changes and nothing else. -/
theorem progress_setPhase (found : d.call? i = some ⟨n, .awaiting uri request run, asked⟩)
    (run' : RunPhase ρ ν ε) : d.Progress (d.setPhase i (.awaiting uri request run')) n i
      (d.editor n).state ⟨n, .awaiting uri request run', asked⟩ where
  editor m := by
    by_cases h : m = n
    · simp [h]
    · simp [h]
  calls j := by simp [found]
  buffers := rfl
  opened := rfl
  interrupt := id

theorem Progress.schedule {state : RunState} {c : TestCall ρ ν ε}
    (h : d.Progress d' n i state c) (e : Event) : d.Progress (d'.schedule e) n i state c :=
  ⟨h.editor, h.calls, h.buffers, h.opened, h.interrupt⟩

/-- How the run of the latest request goes on: from one phase, with a buffer to be read, to a state
of its editor and another phase. -/
inductive Continues (p : Bench) (host : ScriptHost σ ρ ν η ε) (d : Desk σ ρ ν ε) (n : Nat)
    (uri : String) (b : Buffer) : RunPhase ρ ν ε → RunState → RunPhase ρ ν ε → Prop where
  | start : Continues p host d n uri b .scheduled .compiling (.lowering ⟨uri, b⟩)
  | hold (a : Artifact) (gate : d.gateOpen = false) :
      Continues p host d n uri b (.lowered a) (d.editor n).state (.held a)
  /-- It comes to a report, in the state of that report. -/
  | report {run : RunPhase ρ ν ε} {a : Artifact} {r : Report ρ ν}
      (passing : run.passing? d.gateOpen = some a)
      (concluded : (p.conclude host a d.generator d.world).1.result = .ok r)
      (reports : p.Reports host a r) :
      Continues p host d n uri b run r.state (.ended (.report r))
  /-- An error passes through and leaves it in the middle. -/
  | escape {run : RunPhase ρ ν ε} {a : Artifact} {e : ε} {last : RunState}
      {result : RunResult ρ ν ε} (passing : run.passing? d.gateOpen = some a)
      (concluded : (p.conclude host a d.generator d.world).1.result = .error e)
      (raised : ∃ w, host.passesThrough e w = true ∧ (e, w) ∈ p.raised host a.code d.world)
      (underWay : last.isUnderWay = true) (ends : result = .cancelled ∨ result = .raised e) :
      Continues p host d n uri b run last (.ended result)
  /-- It was stopped, and ends. -/
  | stop : Continues p host d n uri b .stopping (d.editor n).state (.ended .cancelled)
  /-- It waits for something else. -/
  | wait {run : RunPhase ρ ν ε} (waiting : (∃ job, run = .lowering job) ∨ ∃ a, run = .held a) :
      Continues p host d n uri b run (d.editor n).state run

theorem progress_refl (found : d.call? i = some ⟨n, .awaiting uri request run, asked⟩) :
    d.Progress d n i (d.editor n).state ⟨n, .awaiting uri request run, asked⟩ where
  editor m := by
    by_cases h : m = n
    · simp [h]
    · simp [h]
  calls j := by
    by_cases h : j = i
    · simp [h, found]
    · simp [h]
  buffers := rfl
  opened := rfl
  interrupt := id

/-- A run that was stopped ends, whatever its request. -/
theorem advanceRun_stopping (found : d.call? i = some ⟨n, .awaiting uri request .stopping, asked⟩) :
    d.advanceRun p host i = d.endRun i uri request .cancelled := by
  simp [advanceRun, found]

theorem advanceRun_ended {result : RunResult ρ ν ε}
    (found : d.call? i = some ⟨n, .awaiting uri request (.ended result), asked⟩) :
    d.advanceRun p host i = d := by
  simp [advanceRun, found]

/-- A run that goes past the gate ends, with a report or in the middle. -/
theorem conclude_latest (p : Bench) (host : ScriptHost σ ρ ν η ε) {a : Artifact} {b : Buffer}
    (found : d.call? i = some ⟨n, .awaiting uri request run, asked⟩)
    (latest : (d.editor n).request = request) (inside : n < d.editors.length)
    (passing : run.passing? d.gateOpen = some a) :
    ∃ state run', d.Progress (d.conclude p host i n uri request a) n i state
        ⟨n, .awaiting uri request run', asked⟩ ∧ d.Continues p host n uri b run state run' ∧
      ∀ e, run' = .ended (.raised e) →
        (d.conclude p host i n uri request a).interrupt = some e := by
  have ends {last : RunState} (result : RunResult ρ ν ε)
      (states : (p.conclude host a d.generator d.world).1.states.getLast? = some last) :
      d.Progress ((d.absorb n request (p.conclude host a d.generator d.world)).endRun i uri request
        result) n i last ⟨n, .awaiting uri request (.ended result), asked⟩ :=
    { editor := editor_absorb inside latest states
      calls := fun j => by
        have same : (d.absorb n request (p.conclude host a d.generator d.world)).call? = d.call? :=
          rfl
        simp [same, found]
      buffers := rfl
      opened := rfl
      interrupt := id }
  unfold conclude
  dsimp only
  split
  · next r concluded =>
    obtain ⟨states, reports⟩ := p.conclude_ok host concluded
    have progress := ends (.report r) states
    refine ⟨r.state, _, ⟨?_, ?_, ?_, ?_, ?_⟩, .report passing concluded reports, by simp⟩
    · simpa [(alike_followUp _ _).editor] using progress.editor
    · simpa using progress.calls
    · exact (alike_followUp _ _).buffers
    · exact (alike_followUp _ _).opened
    · intro h
      exact (congrArg Option.isSome (alike_followUp n _).interrupt).trans h
  · next e concluded =>
    obtain ⟨⟨last, states, underWay⟩, _, passes, raised⟩ := p.conclude_error host concluded
    have world : (d.absorb n request (p.conclude host a d.generator d.world)).world =
      (p.conclude host a d.generator d.world).2.2 := rfl
    rw [world]
    split
    · have progress := ends (.raised e) states
      refine ⟨last, _, ⟨progress.editor, progress.calls, rfl, rfl, fun _ => rfl⟩,
        .escape passing concluded ⟨_, passes, raised⟩ underWay (.inr rfl), ?_⟩
      intro e' same
      cases same
      rfl
    · exact ⟨last, _, ends .cancelled states,
        .escape passing concluded ⟨_, passes, raised⟩ underWay (.inl rfl), by simp⟩
    · next stays => simp [ScriptHost.passesThrough, stays] at passes

/-- The run of the latest request goes on as it should: its editor is in the state that the run has
come to. -/
theorem advanceRun_latest (p : Bench) (host : ScriptHost σ ρ ν η ε) {b : Buffer}
    (found : d.call? i = some ⟨n, .awaiting uri request run, asked⟩)
    (latest : (d.editor n).request = request) (inside : n < d.editors.length)
    (buffer : d.buffers.get? uri = some b) (going : run.isEnded = false) :
    ∃ state run', d.Progress (d.advanceRun p host i) n i state
        ⟨n, .awaiting uri request run', asked⟩ ∧ d.Continues p host n uri b run state run' ∧
      ∀ e, run' = .ended (.raised e) → (d.advanceRun p host i).interrupt = some e := by
  cases run with
  | scheduled =>
    have started := Buffers.start_of_get? buffer
    have moved : d.advanceRun p host i =
        (((d.alterEditor n (Editor.reach request .compiling)).note
          [Buffers.Job.startNote ⟨uri, b⟩]).setPhase i
            (.awaiting uri request (.lowering ⟨uri, b⟩))).schedule (.lowering i) := by
      have same : (d.alterEditor n (Editor.reach request .compiling)).buffers = d.buffers := rfl
      simp [advanceRun, found, beginRun, same, started]
    rw [moved]
    refine ⟨.compiling, _, ⟨?_, ?_, rfl, rfl, id⟩, .start, by simp⟩
    · intro m
      refine (editor_alterEditor inside m).trans ?_
      simp [Editor.reach, latest]
    · intro j
      simp [found]
  | lowering job =>
    have moved : d.advanceRun p host i = d := by simp [advanceRun, found]
    rw [moved]
    exact ⟨_, _, progress_refl found, .wait (.inl ⟨job, rfl⟩), by simp⟩
  | lowered a =>
    cases gate : d.gateOpen with
    | true =>
      have moved : d.advanceRun p host i =
          (d.note (Buffers.finishNotes a)).conclude p host i n uri request a := by
        have same : (d.note (Buffers.finishNotes a)).gateOpen = d.gateOpen := rfl
        simp [advanceRun, found, same, gate]
      have passing : (RunPhase.lowered a : RunPhase ρ ν ε).passing? d.gateOpen = some a := by
        simp [RunPhase.passing?, gate]
      rw [moved]
      have noted : (d.note (Buffers.finishNotes a)).call? i =
        some ⟨n, .awaiting uri request (.lowered a), asked⟩ := found
      obtain ⟨state, run', progress, continues, interrupt⟩ :=
        conclude_latest p host (b := b) noted latest inside passing
      refine ⟨state, run', ⟨progress.editor, progress.calls, progress.buffers, progress.opened,
        progress.interrupt⟩, ?_, interrupt⟩
      cases continues with
      | report passing concluded reports => exact .report passing concluded reports
      | escape passing concluded raised underWay ends =>
        exact .escape passing concluded raised underWay ends
      | hold a gate => exact .hold a gate
      | wait waiting => exact .wait waiting
    | false =>
      have moved : d.advanceRun p host i =
          (d.note (Buffers.finishNotes a)).setPhase i (.awaiting uri request (.held a)) := by
        have same : (d.note (Buffers.finishNotes a)).gateOpen = d.gateOpen := rfl
        simp [advanceRun, found, same, gate]
      rw [moved]
      have progress := progress_setPhase found (.held a)
      exact ⟨_, _, ⟨progress.editor, progress.calls, rfl, rfl, id⟩, .hold a gate, by simp⟩
  | held a =>
    have moved : d.advanceRun p host i = d := by simp [advanceRun, found]
    rw [moved]
    exact ⟨_, _, progress_refl found, .wait (.inr ⟨a, rfl⟩), by simp⟩
  | released a =>
    have moved : d.advanceRun p host i = d.conclude p host i n uri request a := by
      simp [advanceRun, found]
    rw [moved]
    exact conclude_latest p host found latest inside rfl
  | stopping =>
    rw [advanceRun_stopping found]
    have progress := progress_setPhase found (.ended .cancelled)
    exact ⟨_, _, progress.schedule _, .stop, by simp⟩
  | ended result => cases going

end Desk

end RuleBench
