import RuleBench.Proofs.Desk.Ready
import RuleBench.Proofs.Desk.Track

/-!
# Results that arrive

A call that nothing disturbs answers with the report of its run and in no other way, as long as its
script raises no error that passes through, and it does answer if the loop gets round to its events
(`Reachable.delivers`). A loop that takes what comes first gets round to everything
(`served_of_first`).

An error that passes through takes the report with it, also if it is a cancellation that the script
has raised itself (`cancelling_loses_report`).
-/

namespace RuleBench

variable {σ ρ ν η ε : Type} {p : Bench} {host : ScriptHost σ ρ ν η ε}

namespace Desk

variable {d : Desk σ ρ ν ε} {n : Nat} {i : CallId} {uri : String} {b : Buffer}
  {phase : CallPhase ρ ν ε} {e : Event} {m : Move σ}

/-- A call is not as it was when the event that was due has happened. -/
theorem call?_move_of_due {c : TestCall ρ ν ε} (due : c.due i = some e) (acts : d.act m = some e) :
    (d.move p host m).call? i ≠ some c := by
  obtain ⟨ready, same⟩ := move_of_act (η := η) acts
  rw [same]
  exact fun found => due_react (TestCall.call?_of_due due) found due

/-- A run that waits at the gate passes when the gate is opened. -/
theorem call?_gate_of_held {request : Nat} {a : Artifact} {asked : Bool}
    (found : d.call? i = some ⟨n, .awaiting uri request (.held a), asked⟩) :
    (d.move p host (.gate true)).call? i ≠
      some ⟨n, .awaiting uri request (.held a), asked⟩ := by
  have passes : (d.move p host (.gate true)).call? i =
      some ⟨n, .awaiting uri request (.released a), asked⟩ := by
    simp [move, call?_setGate, found, TestCall.letPass]
  simp [passes]

/-! ### Courses -/

section Courses

variable (p host) (d : Desk σ ρ ν ε) (ms : Nat → Move σ)

/-- The desk after so many moves of an endless course. -/
def course : Nat → Desk σ ρ ν ε
  | 0 => d
  | k + 1 => (course k).move p host (ms k)

/-- A call has answered after so many moves, and not before. -/
structure AnswersAt (i : CallId) (k : Nat) : Prop where
  answered : (d.course p host ms k).outcome? i ≠ none
  before : ∀ l < k, (d.course p host ms l).outcome? i = none

/-- The loop gets round to a call: no interrupt stops it, every event of the call that is ready
happens at some time, and the gate is opened at some time if the run waits there. -/
structure Fair (i : CallId) : Prop where
  going : ∀ k, (d.course p host ms k).interrupt = none
  served : ∀ k e, e ∈ (d.course p host ms k).ready → e.call? = some i →
    ∃ l, k ≤ l ∧ (d.course p host ms l).act (ms l) = some e
  opens : ∀ k n uri request a asked, (d.course p host ms k).call? i =
    some ⟨n, .awaiting uri request (.held a), asked⟩ → ∃ l, k ≤ l ∧ ms l = .gate true

end Courses

variable {ms : Nat → Move σ}

theorem Reachable.course (h : Reachable p host d) (k : Nat) :
    Reachable p host (d.course p host ms k) := by
  induction k with
  | zero => exact h
  | succ k ih => exact ih.move (ms k)

theorem getElem?_mono {l l' : List Event} (h : l <+: l') {place : Nat}
    (found : l[place]? = some e) : l'[place]? = some e := by
  obtain ⟨rest, rfl⟩ := h
  obtain ⟨inside, _⟩ := List.getElem?_eq_some_iff.mp found
  rw [List.getElem?_append_left inside, found]

/-- The first event happens. -/
theorem turn_first {rest : List Event} (going : d.interrupt = none) (ready : d.ready = e :: rest) :
    d.turn p host 0 = ({ d with ready := rest } : Desk σ ρ ν ε).react p host e := by
  simp [turn, ready, handle, going]

/-- When the first event happens, all others move up by one place. -/
theorem ready_turn_first (going : d.interrupt = none) {place : Nat}
    (found : d.ready[place + 1]? = some e) :
    (d.turn p host 0).ready[place]? = some e := by
  cases ready : d.ready with
  | nil => simp [ready] at found
  | cons first rest =>
    have carries := carries_react p host first
      ({ d with ready := rest } : Desk σ ρ ν ε)
    rw [turn_first going ready]
    exact getElem?_mono carries.ready (by simpa [ready] using found)

/-- Until the loop takes its next turn, every event keeps its place. -/
theorem ready_until_turn (first : ∀ k place, ms k = .turn place → place = 0)
    (often : ∀ k, ∃ l, k ≤ l ∧ ms l = .turn 0) {place k : Nat}
    (found : (d.course p host ms k).ready[place]? = some e) :
    ∃ l, k ≤ l ∧ ms l = .turn 0 ∧ (d.course p host ms l).ready[place]? = some e := by
  obtain ⟨l, le, turns⟩ := often k
  obtain ⟨gap, rfl⟩ := Nat.exists_eq_add_of_le le
  induction gap generalizing k with
  | zero => exact ⟨k, Nat.le_refl k, turns, found⟩
  | succ gap ih =>
    by_cases turned : ms k = .turn 0
    · exact ⟨k, Nat.le_refl k, turned, found⟩
    · have carries := carries_move (d := d.course p host ms k) (m := ms k) p host
        fun place same => turned (first k place same ▸ same)
      obtain ⟨l, le, rest⟩ := ih (k := k + 1) (getElem?_mono carries.ready found)
        (Nat.le_add_right _ _) (by rwa [Nat.add_right_comm])
      exact ⟨l, Nat.le_of_succ_le le, rest⟩

/-- The loop is fair if it always takes the event that is first, and never stops to do so. -/
theorem served_of_first (going : ∀ k, (d.course p host ms k).interrupt = none)
    (first : ∀ k place, ms k = .turn place → place = 0) (often : ∀ k, ∃ l, k ≤ l ∧ ms l = .turn 0)
    {k : Nat} (ready : e ∈ (d.course p host ms k).ready) :
    ∃ l, k ≤ l ∧ (d.course p host ms l).act (ms l) = some e := by
  obtain ⟨place, found⟩ := List.mem_iff_getElem?.mp ready
  -- at every turn the event moves up by one place
  induction place generalizing k with
  | zero =>
    obtain ⟨l, le, turns, found⟩ := ready_until_turn first often found
    exact ⟨l, le, by simpa [act, turns, going l] using found⟩
  | succ place ih =>
    obtain ⟨l, le, turns, found⟩ := ready_until_turn first often found
    have moved : (d.course p host ms (l + 1)).ready[place]? = some e := by
      rw [course, turns]
      exact ready_turn_first (going l) found
    obtain ⟨l', le', acts⟩ := ih (List.mem_of_getElem? moved) moved
    exact ⟨l', Nat.le_trans le (Nat.le_of_succ_le le'), acts⟩

/-- At some time the loop, or the gate, takes a call on its way out of the phase that it is in. -/
theorem Fair.leaves (fair : d.Fair p host ms i) (reachable : Reachable p host d) {k : Nat}
    (h : (d.course p host ms k).Ongoing p host n i uri b phase) :
    ∃ l, k ≤ l ∧ ((d.course p host ms l).Ongoing p host n i uri b phase →
      (d.course p host ms (l + 1)).call? i ≠ some ⟨n, phase, false⟩) := by
  cases due : TestCall.due i ⟨n, phase, false⟩ with
  | some e =>
    have ready := (reachable.course k).due_ready (fair.going k) i _ e h.found due
    obtain ⟨l, le, acts⟩ := fair.served k e ready (TestCall.call?_of_due due)
    exact ⟨l, le, fun _ => call?_move_of_due due acts⟩
  | none =>
    have track := h.onTrack
    cases phase with
    | scheduled => cases due
    | ended outcome => exact track.elim
    | awaiting uri' request run =>
      cases run with
      | held a =>
        obtain ⟨l, le, opens⟩ := fair.opens k n uri' request a false h.found
        refine ⟨l, le, fun h' => ?_⟩
        rw [course, opens]
        exact call?_gate_of_held h'.found
      | _ => cases due

/-! ### Answers -/

section Answers

variable (reachable : Reachable p host d)
  (undisturbed : ∀ k, (d.course p host ms k).outcome? i = none →
    ¬ (d.course p host ms k).Disturbs n i uri (ms k))
  (contained : ∀ k, (d.course p host ms k).act (ms k) = some (.run i) →
    Contained p host (Buffers.Job.finish ⟨uri, b⟩).code (d.course p host ms k).world)

include reachable undisturbed contained

theorem Ongoing.next {k : Nat} (h : (d.course p host ms k).Ongoing p host n i uri b phase) :
    (d.course p host ms (k + 1)).Nears p host n i uri b phase :=
  h.move (reachable.course k).sound (undisturbed k h.outcome?) (contained k)

/-- Until it answers, the call stays on its track. -/
theorem ongoing_or_delivered (h : d.Ongoing p host n i uri b phase) {k : Nat}
    (before : ∀ l < k, (d.course p host ms l).outcome? i = none) :
    (d.course p host ms k).Delivered p host n i uri b ∨
      ∃ phase', (d.course p host ms k).Ongoing p host n i uri b phase' := by
  induction k with
  | zero => exact .inr ⟨phase, h⟩
  | succ k ih =>
    rcases ih fun l lt => before l (Nat.lt_succ_of_lt lt) with delivered | ⟨phase', ongoing⟩
    · obtain ⟨r, answered, _⟩ := delivered
      rw [before k (Nat.lt_succ_self k)] at answered
      cases answered
    · cases ongoing.next reachable undisturbed contained with
      | delivered delivered => exact .inl delivered
      | same ongoing => exact .inr ⟨_, ongoing⟩
      | closer phase'' ongoing _ => exact .inr ⟨phase'', ongoing⟩

/-- As long as it does not come closer to its answer, the call stays in its phase. -/
theorem Ongoing.stays {k : Nat} (h : (d.course p host ms k).Ongoing p host n i uri b phase)
    (before : ∀ l < k, (d.course p host ms l).outcome? i = none)
    (rests : ∀ l phase', (d.course p host ms l).Ongoing p host n i uri b phase' →
      (∀ l' < l, (d.course p host ms l').outcome? i = none) → phase.left ≤ phase'.left)
    (silent : ∀ l, ¬ d.AnswersAt p host ms i l) (gap : Nat) :
    (d.course p host ms (k + gap)).Ongoing p host n i uri b phase ∧
      ∀ l < k + gap, (d.course p host ms l).outcome? i = none := by
  induction gap with
  | zero => exact ⟨h, before⟩
  | succ gap ih =>
    obtain ⟨ongoing, before⟩ := ih
    have before' : ∀ l < k + gap + 1, (d.course p host ms l).outcome? i = none := by
      intro l lt
      rcases Nat.lt_succ_iff_lt_or_eq.mp lt with lt | rfl
      · exact before l lt
      · exact ongoing.outcome?
    cases ongoing.next reachable undisturbed contained with
    | delivered delivered =>
      obtain ⟨r, answered, _⟩ := delivered
      exact absurd ⟨by rw [answered]; simp, before'⟩ (silent (k + gap + 1))
    | same ongoing' => exact ⟨ongoing', before'⟩
    | closer phase' ongoing' less =>
      exact absurd (rests _ phase' ongoing' before') (Nat.not_le_of_lt less)

/-- If the loop is fair, the call answers at some time. -/
theorem Ongoing.answers (fair : d.Fair p host ms i) {k : Nat}
    (h : (d.course p host ms k).Ongoing p host n i uri b phase)
    (before : ∀ l < k, (d.course p host ms l).outcome? i = none) :
    ∃ l, d.AnswersAt p host ms i l := by
  induction size : phase.left using Nat.strongRecOn generalizing k phase with
  | ind size ih =>
    subst size
    refine Classical.byContradiction fun unanswered => ?_
    have silent (l : Nat) : ¬ d.AnswersAt p host ms i l := fun answers => unanswered ⟨l, answers⟩
    have rests (l : Nat) (phase' : CallPhase ρ ν ε)
        (ongoing : (d.course p host ms l).Ongoing p host n i uri b phase')
        (before' : ∀ l' < l, (d.course p host ms l').outcome? i = none) :
        phase.left ≤ phase'.left :=
      Nat.le_of_not_lt fun less => unanswered (ih phase'.left less ongoing before' rfl)
    obtain ⟨l, le, leaves⟩ := fair.leaves reachable h
    obtain ⟨gap, rfl⟩ := Nat.exists_eq_add_of_le le
    have stays := h.stays reachable undisturbed contained before rests silent
    exact leaves (stays gap).1 (stays (gap + 1)).1.found

end Answers

/-- No result is lost. A call in an open editor that nothing disturbs until it answers, and whose
script raises no error that passes through, answers with the report about the text of its buffer
whenever it answers, and it does answer if the loop is fair to it. -/
theorem Reachable.delivers (reachable : Reachable p host d)
    (made : d.call? i = some ⟨n, .scheduled, false⟩) (opened : (d.editor n).uri = some uri)
    (buffer : d.buffers.get? uri = some b)
    (undisturbed : ∀ k, (d.course p host ms k).outcome? i = none →
      ¬ (d.course p host ms k).Disturbs n i uri (ms k))
    (contained : ∀ k, (d.course p host ms k).act (ms k) = some (.run i) →
      Contained p host (Buffers.Job.finish ⟨uri, b⟩).code (d.course p host ms k).world) :
    (∀ k, d.AnswersAt p host ms i k → (d.course p host ms k).Delivered p host n i uri b) ∧
      (d.Fair p host ms i → ∃ k, d.AnswersAt p host ms i k) := by
  have start : d.Ongoing p host n i uri b .scheduled := ⟨made, opened, buffer, trivial⟩
  refine ⟨fun k answers => ?_, fun fair => ?_⟩
  · rcases ongoing_or_delivered reachable undisturbed contained start answers.before with
      delivered | ⟨phase, ongoing⟩
    · exact delivered
    · exact absurd ongoing.outcome? answers.answered
  · exact Ongoing.answers reachable undisturbed contained fair (k := 0) start
      fun l lt => absurd lt (Nat.not_lt_zero l)

/-! ### A call on its own -/

theorem ready_conclude (unfollowed : d.afterRun = none) (i : CallId) (n : Nat) (uri : String)
    (request : Nat) (a : Artifact) :
    (d.conclude p host i n uri request a).ready = d.ready ++ [.call i] := by
  unfold conclude
  dsimp only
  split
  · have idle : (d.absorb n request (p.conclude host a d.generator d.world)).followUp n =
        d.absorb n request (p.conclude host a d.generator d.world) := by
      simp [followUp, absorb, alterEditor, note, unfollowed]
    rw [idle]
    rfl
  · split <;> rfl

/-- Only a script that raises an interrupt leaves one behind. -/
theorem interrupt_conclude {a : Artifact} (contained : Contained p host a.code d.world)
    (i : CallId) (n : Nat) (uri : String) (request : Nat) :
    (d.conclude p host i n uri request a).interrupt = d.interrupt := by
  unfold conclude
  dsimp only
  split
  · exact (alike_followUp _ _).interrupt
  · next e concluded =>
    obtain ⟨_, _, passes, raised⟩ := p.conclude_error host concluded
    simp [ScriptHost.passesThrough, contained _ _ raised] at passes

/-- The run of a call on its own ends. -/
theorem turn_of_lowered (p : Bench) (host : ScriptHost σ ρ ν η ε) {request : Nat} {a : Artifact}
    {asked : Bool}
    (ready : d.ready = [.run i]) (going : d.interrupt = none) (gate : d.gateOpen = true)
    (unfollowed : d.afterRun = none)
    (found : d.call? i = some ⟨n, .awaiting uri request (.lowered a), asked⟩) :
    (d.turn p host 0).ready = [.call i] ∧
      (∃ result, (d.turn p host 0).call? i =
        some ⟨n, .awaiting uri request (.ended result), asked⟩) ∧
      (Contained p host a.code d.world → (d.turn p host 0).interrupt = none) := by
  let d' : Desk σ ρ ν ε := { d with ready := [] }.note (Buffers.finishNotes a)
  have moved : d.turn p host 0 = d'.conclude p host i n uri request a := by
    have found' : ({ d with ready := [] } : Desk σ ρ ν ε).call? i =
      some ⟨n, .awaiting uri request (.lowered a), asked⟩ := found
    have gate' : (({ d with ready := [] } : Desk σ ρ ν ε).note
      (Buffers.finishNotes a)).gateOpen = true := gate
    rw [turn_first going ready]
    simp only [react, advanceRun, found', gate', if_true]
    rfl
  have found' : d'.call? i = some ⟨n, .awaiting uri request (.lowered a), asked⟩ := found
  obtain ⟨result, after, _⟩ := call?_conclude p host i n uri request a d'
  rw [moved]
  refine ⟨ready_conclude (d := d') unfollowed i n uri request a, ⟨result, ?_⟩, fun contained => ?_⟩
  · rw [after, found', Option.map_some]
  · exact (interrupt_conclude (d := d') contained i n uri request).trans going

/-- A call on its own learns that its run has ended. -/
theorem turn_of_ended {request : Nat} {result : RunResult ρ ν ε} {asked : Bool}
    (ready : d.ready = [.call i])
    (found : d.call? i = some ⟨n, .awaiting uri request (.ended result), asked⟩) :
    (d.turn p host 0).ready = [] ∧ (d.interrupt = none →
      (d.turn p host 0).interrupt = none ∧
        ∃ outcome, (d.turn p host 0).call? i = some ⟨n, .ended outcome, asked⟩) := by
  cases interrupt : d.interrupt with
  | some e => exact ⟨by simp [turn, ready, handle, interrupt], by simp⟩
  | none =>
    have found' : ({ d with ready := [] } : Desk σ ρ ν ε).call? i =
      some ⟨n, .awaiting uri request (.ended result), asked⟩ := found
    have moved : d.turn p host 0 = ({ d with ready := [] } : Desk σ ρ ν ε).finishCall i
        ⟨n, .awaiting uri request (.ended result), asked⟩ uri request result := by
      rw [turn_first interrupt ready]
      simp only [react, advanceCall, found']
    have after := call?_finishCall i ⟨n, .awaiting uri request (.ended result), asked⟩ uri request
      result ({ d with ready := [] } : Desk σ ρ ν ε) i
    rw [if_pos rfl, found', Option.map_some] at after
    rw [moved]
    refine ⟨?_, fun _ => ⟨?_, _, after⟩⟩
    · obtain ⟨records, same⟩ := finishCall_eq i
        ⟨n, .awaiting uri request (.ended result), asked⟩ uri request result
        ({ d with ready := [] } : Desk σ ρ ν ε)
      rw [same]
      rfl
    · rw [(alike_finishCall _ _ _ _ _ _).interrupt]
      exact interrupt

theorem sampleAfter_succ (source : String) (turns : Nat) : sampleAfter source (turns + 1) =
    (sampleAfter source turns).turn sampleBench Execution.host 0 := by
  have longer : sampleTest source (turns + 1) = sampleTest source turns ++ [.turn 0] := by
    simp [sampleTest, List.replicate_succ']
  rw [sampleAfter, longer, after_append]
  rfl

theorem course_sampleAfter (source : String) (k : Nat) :
    (sampleAfter source 0).course sampleBench Execution.host (fun _ => .turn 0) k =
      sampleAfter source k := by
  induction k with
  | zero => rfl
  | succ k ih =>
    rw [course, ih, sampleAfter_succ]
    rfl

/-- A rule that is tested on its own: after four turns its run has ended, and after five nothing is
left to do. -/
theorem sampleAfter_four (source : String) :
    (sampleAfter source 4).ready = [.call 0] ∧
      (∃ result, (sampleAfter source 4).call? 0 =
        some ⟨0, .awaiting (bufferUri 0) 1 (.ended result), false⟩) ∧
      (Contained sampleBench Execution.host
          (Buffers.Job.finish ⟨bufferUri 0, ⟨source, 0⟩⟩).code sampleDesk.world →
        (sampleAfter source 4).interrupt = none) := by
  have found : (sampleAfter source 3).call? 0 = some ⟨0, .awaiting (bufferUri 0) 1
    (.lowered (Buffers.Job.finish ⟨bufferUri 0, ⟨source, 0⟩⟩)), false⟩ := rfl
  have last := turn_of_lowered (i := 0) sampleBench Execution.host
    (d := sampleAfter source 3) rfl rfl rfl rfl found
  rwa [← sampleAfter_succ] at last

theorem sampleAfter_five (source : String) :
    (sampleAfter source 5).ready = [] ∧ ((sampleAfter source 4).interrupt = none →
      (sampleAfter source 5).interrupt = none ∧
        ∃ outcome, (sampleAfter source 5).call? 0 = some ⟨0, .ended outcome, false⟩) := by
  obtain ⟨ready, ⟨result, ended⟩, _⟩ := sampleAfter_four source
  rw [sampleAfter_succ source 4]
  exact turn_of_ended ready ended

theorem sampleAfter_add_five (source : String) (k : Nat) :
    sampleAfter source (k + 5) = sampleAfter source 5 := by
  induction k with
  | zero => rw [Nat.zero_add]
  | succ k ih =>
    rw [Nat.add_right_comm, sampleAfter_succ, ih, turn, (sampleAfter_five source).1]
    rfl

/-- What is ready while a rule is tested on its own belongs to the test. -/
theorem ready_sampleAfter (source : String) (k : Nat) :
    ∀ e ∈ (sampleAfter source k).ready, e.call? = some 0 := by
  match k with
  | 0 => simp [show (sampleAfter source 0).ready = [.call 0] from rfl, Event.call?]
  | 1 => simp [show (sampleAfter source 1).ready = [.run 0] from rfl, Event.call?]
  | 2 => simp [show (sampleAfter source 2).ready = [.lowering 0] from rfl, Event.call?]
  | 3 => simp [show (sampleAfter source 3).ready = [.run 0] from rfl, Event.call?]
  | 4 => simp [(sampleAfter_four source).1, Event.call?]
  | k + 5 => simp [sampleAfter_add_five, (sampleAfter_five source).1]

theorem undisturbed_sampleAfter (source : String) (k : Nat) :
    ¬ (sampleAfter source k).Disturbs 0 0 (bufferUri 0) (.turn 0) := by
  have own (e : Event) (acts : (sampleAfter source k).act (.turn 0) = some e) :
      e.call? = some 0 := by
    simp only [act] at acts
    split at acts
    · cases acts
    · exact ready_sampleAfter source k e (List.mem_of_getElem? acts)
  intro disturbs
  cases disturbs with
  | command c acts => cases own _ acts
  | newer j e acts begins other =>
    obtain ⟨rfl, _⟩ := begins
    exact other (Option.some.inj (own _ acts))
  | update text same => cases same
  | cancel same => cases same

/-- Before its run goes on, a test on its own leaves the world as it is. -/
theorem world_sampleAfter {source : String} {k : Nat}
    (acts : (sampleAfter source k).act (.turn 0) = some (.run 0)) :
    (sampleAfter source k).world = sampleDesk.world := by
  rcases k with _ | _ | _ | _ | _ | k
  · rfl
  · rfl
  · rfl
  · rfl
  · simp only [act, (sampleAfter_four source).1] at acts
    split at acts <;> cases acts
  · simp only [sampleAfter_add_five, act, (sampleAfter_five source).1] at acts
    split at acts <;> cases acts

/-- The loop is fair to a test on its own. -/
theorem fair_sampleAfter {source : String} (contained : Contained sampleBench Execution.host
    (Buffers.Job.finish ⟨bufferUri 0, ⟨source, 0⟩⟩).code sampleDesk.world) :
    (sampleAfter source 0).Fair sampleBench Execution.host (fun _ => .turn 0) 0 := by
  obtain ⟨_, ⟨result, ended⟩, going⟩ := sampleAfter_four source
  obtain ⟨going', outcome, answered⟩ := (sampleAfter_five source).2 (going contained)
  have going (k : Nat) : (sampleAfter source k).interrupt = none := by
    rcases k with _ | _ | _ | _ | _ | k
    · rfl
    · rfl
    · rfl
    · rfl
    · exact going contained
    · rw [sampleAfter_add_five, going']
  refine ⟨fun k => ?_, fun k e ready _ => ?_, fun k n uri request a asked held => ?_⟩
  · rw [course_sampleAfter]
    exact going k
  · refine served_of_first (fun k => ?_) (fun k place same => ?_) (fun k => ⟨k, Nat.le_refl k, rfl⟩)
      ready
    · rw [course_sampleAfter]
      exact going k
    · cases same
      rfl
  · rw [course_sampleAfter] at held
    rcases k with _ | _ | _ | _ | _ | k
    · cases held
    · cases held
    · cases held
    · cases held
    · rw [ended] at held
      cases held
    · rw [sampleAfter_add_five, answered] at held
      cases held
/-- A script that groups every span delivers its report. -/
theorem grouping_delivers :
    ∃ k, ((sampleAfter groupingScript 0).course sampleBench Execution.host (fun _ => .turn 0)
      k).Delivered sampleBench Execution.host 0 0 (bufferUri 0) ⟨groupingScript, 0⟩ := by
  have contained : Contained sampleBench Execution.host
      (Buffers.Job.finish ⟨bufferUri 0, ⟨groupingScript, 0⟩⟩).code sampleDesk.world := by
    have quiet : (sampleBench.raised Execution.host
        (Buffers.Job.finish ⟨bufferUri 0, ⟨groupingScript, 0⟩⟩).code
          sampleDesk.world).isEmpty = true := by
      decide +kernel
    intro e w member
    rw [List.isEmpty_iff.mp quiet] at member
    cases member
  obtain ⟨delivers, answers⟩ := Reachable.delivers (reachable_sampleAfter groupingScript 0)
    (n := 0) (i := 0) (b := ⟨groupingScript, 0⟩) rfl rfl rfl
    (fun k _ => by
      rw [course_sampleAfter]
      exact undisturbed_sampleAfter groupingScript k)
    (fun k acts => by
      rw [course_sampleAfter] at acts ⊢
      rw [world_sampleAfter acts]
      exact contained)
  obtain ⟨k, answered⟩ := answers (fair_sampleAfter contained)
  exact ⟨k, delivers k answered⟩

/-- A script that raises a cancellation of its own accord. -/
def cancellingScript : String := "from asyncio import CancelledError\nraise CancelledError\n"

/-- It is not enough that a script raises no interrupt: if it raises a cancellation, its call
answers without a report, as if it had been superseded. -/
theorem cancelling_loses_report :
    ¬ ∀ (d : Desk Execution.Scene Execution.LiveRecord Execution.Value Execution.Value) (n : Nat)
      (i : CallId) (uri : String) (b : Buffer) (ms : Nat → Move Execution.Scene),
      Reachable sampleBench Execution.host d →
      d.call? i = some ⟨n, .scheduled, false⟩ → (d.editor n).uri = some uri →
      d.buffers.get? uri = some b →
      (∀ k, (d.course sampleBench Execution.host ms k).outcome? i = none →
        ¬ (d.course sampleBench Execution.host ms k).Disturbs n i uri (ms k)) →
      (∀ k, (d.course sampleBench Execution.host ms k).act (ms k) = some (.run i) →
        ∀ e w, (e, w) ∈ sampleBench.raised Execution.host (Buffers.Job.finish ⟨uri, b⟩).code
            (d.course sampleBench Execution.host ms k).world →
          Execution.host.passage? e w ≠ some .interrupt) →
      ∀ k, d.AnswersAt sampleBench Execution.host ms i k →
        (d.course sampleBench Execution.host ms k).Delivered sampleBench Execution.host n i uri
          b := by
  intro always
  have uninterrupted : (sampleBench.raised Execution.host
      (Buffers.Job.finish ⟨bufferUri 0, ⟨cancellingScript, 0⟩⟩).code sampleDesk.world).all
        (fun raised => Execution.host.passage? raised.1 raised.2 != some .interrupt) = true := by
    decide +kernel
  have superseded : ((sampleAfter cancellingScript 5).outcome? 0).any
      (fun o => match o with | .superseded => true | _ => false) = true := by
    decide +kernel
  obtain ⟨_, ⟨result, ended⟩, _⟩ := sampleAfter_four cancellingScript
  have answers : (sampleAfter cancellingScript 0).AnswersAt sampleBench Execution.host
      (fun _ => .turn 0) 0 5 := by
    refine ⟨fun unanswered => ?_, fun l lt => ?_⟩
    · rw [course_sampleAfter] at unanswered
      simp [unanswered] at superseded
    · rw [course_sampleAfter]
      rcases l with _ | _ | _ | _ | _ | l
      · rfl
      · rfl
      · rfl
      · rfl
      · simp [outcome?, ended, TestCall.outcome?]
      · omega
  obtain ⟨r, answered, _⟩ := always (sampleAfter cancellingScript 0) 0 0 (bufferUri 0)
    ⟨cancellingScript, 0⟩ (fun _ => .turn 0) (reachable_sampleAfter cancellingScript 0) rfl rfl rfl
    (fun k _ => by
      rw [course_sampleAfter]
      exact undisturbed_sampleAfter cancellingScript k)
    (fun k acts e w member => by
      rw [course_sampleAfter] at acts member
      rw [world_sampleAfter acts] at member
      simpa using List.all_eq_true.mp uninterrupted (e, w) member)
    5 answers
  rw [course_sampleAfter] at answered
  simp [answered] at superseded

end Desk

end RuleBench
