import Mathlib.Data.List.Induction
import RuleBench.Proofs.Desk.Ready
import RuleBench.Proofs.Trial
import RuleBench.Proofs.Trial.Verdict

/-!
# The records that a run tests

Traces come and go while runs wait for their compilations. A run looks at the stage once: when it goes
past its compilation and its code is loaded. The main statement is that a success covers the records
of that moment, in trace order and then in span order, whatever happened before and whatever the
function does to the stage. They are those of the moment at which the run was asked for as long as
nothing has changed the world in between.
-/

namespace RuleBench

variable {σ ρ ν η ε : Type} {p : Bench} {host : ScriptHost σ ρ ν η ε}

/-- A success is about the artifact of its run, and its outcomes are the records that there were
when the code of the artifact had been loaded. -/
theorem Bench.records_of_success {a : Artifact} {g : Generator} {s : σ} {success : Success ρ ν}
    (h : (p.conclude host a g s).1.result = .ok (.success success)) :
    success.artifact = a ∧ ∃ w, exportedFunction host p.kind a.code s = .ok success.function w ∧
      success.outcomes.map Outcome.record = host.records w := by
  unfold conclude at h
  split at h
  · cases h
  · split at h
    · next function w exported =>
      have tried := Trial.testAll_cases host p.kind function (host.records w) w
      simp only [Conclusion.after, execute, Trial.run] at h
      split at tried
      · next os t accepted =>
        simp only [accepted, Except.ok.injEq, Report.success.injEq] at h
        subst h
        exact ⟨rfl, w, exported, tried.1⟩
      · next stop t stopped =>
        simp only [stopped] at h
        split at h <;> simp at h
    · split at h <;> simp at h

namespace TestCall

/-- The success that the run of a call has come to. -/
def success? (c : TestCall ρ ν ε) : Option (Success ρ ν) :=
  match c.phase with
  | .awaiting _ _ (.ended (.report (.success s))) => some s
  | _ => none

theorem success?_stop {c : TestCall ρ ν ε} {s : Success ρ ν} (h : c.stop.success? = some s) :
    c.success? = some s := by
  obtain ⟨n, phase, asked⟩ := c
  cases phase with
  | awaiting uri request run =>
    cases run with
    | ended result => exact h
    | _ => cases h
  | _ => exact h

theorem success?_letPass {c : TestCall ρ ν ε} {s : Success ρ ν} (h : c.letPass.success? = some s) :
    c.success? = some s := by
  obtain ⟨n, phase, asked⟩ := c
  cases phase with
  | awaiting uri request run =>
    cases run with
    | held a => cases h
    | _ => exact h
  | _ => exact h

end TestCall

namespace Desk

variable {d : Desk σ ρ ν ε} {n : Nat} {i j : CallId} {e : Event} {m : Move σ} {c : TestCall ρ ν ε}

/-! ### How a run comes to a success -/

/-- The run of a call goes past its compilation when this event happens. -/
inductive PassesOn (d : Desk σ ρ ν ε) (i : CallId) (a : Artifact) : Event → Prop
  | intro {n request : Nat} {uri : String} {run : RunPhase ρ ν ε} {asked : Bool}
      (found : d.call? i = some ⟨n, .awaiting uri request run, asked⟩)
      (passing : run.passing? d.gateOpen = some a) : PassesOn d i a (.run i)

/-- The run of a call goes past its compilation with this move. -/
def Passes (d : Desk σ ρ ν ε) (m : Move σ) (i : CallId) (a : Artifact) : Prop :=
  ∃ e, d.act m = some e ∧ d.PassesOn i a e

/-- What becomes of a call: it stays there, and if its run has a success then it had it before, or
the run goes past its compilation and its bench comes to that success. -/
def Follows (p : Bench) (host : ScriptHost σ ρ ν η ε) (d : Desk σ ρ ν ε) (i : CallId)
    (c : TestCall ρ ν ε) (passes : Artifact → Prop) (d' : Desk σ ρ ν ε) : Prop :=
  ∃ c', d'.call? i = some c' ∧ ∀ s, c'.success? = some s → c.success? = some s ∨
    ∃ a, passes a ∧ (p.conclude host a d.generator d.world).1.result = .ok (.success s)

theorem follows_of_same {d' : Desk σ ρ ν ε} (found : d.call? i = some c)
    (passes : Artifact → Prop) (same : d'.call? i = d.call? i) :
    d.Follows p host i c passes d' := ⟨c, same.trans found, fun _ had => .inl had⟩

/-- A call is put into a phase in which its run has no success. -/
theorem follows_of_phase {d' : Desk σ ρ ν ε} (phase : CallPhase ρ ν ε)
    (passes : Artifact → Prop) (same : d'.call? i = some { c with phase })
    (unsuccessful : ({ c with phase } : TestCall ρ ν ε).success? = none) :
    d.Follows p host i c passes d' := ⟨_, same, fun s has => by simp [unsuccessful] at has⟩

/-- A run goes on. -/
theorem follows_advanceRun (p : Bench) (host : ScriptHost σ ρ ν η ε)
    (found : d.call? i = some c) (due : c.due i = some (.run i)) :
    d.Follows p host i c (fun a => d.PassesOn i a (.run i)) (d.advanceRun p host i) := by
  obtain ⟨n, phase, asked⟩ := c
  cases phase with
  | scheduled => cases due
  | ended outcome => cases due
  | awaiting uri request run =>
    have concluded {d' : Desk σ ρ ν ε} {a : Artifact} (alike : d.Alike d')
        (same : d'.call? i = d.call? i) (passing : run.passing? d.gateOpen = some a) :
        d.Follows p host i ⟨n, .awaiting uri request run, asked⟩
          (fun a => d.PassesOn i a (.run i)) (d'.conclude p host i n uri request a) := by
      obtain ⟨result, after, reported⟩ := call?_conclude p host i n uri request a d'
      rw [alike.generator, alike.world] at reported
      refine ⟨⟨n, .awaiting uri request (.ended result), asked⟩, by simp [after, same, found], ?_⟩
      intro s has
      refine .inr ⟨a, .intro found passing, reported _ ?_⟩
      simp only [TestCall.success?] at has
      split at has
      · next same =>
        cases same
        cases has
        rfl
      · cases has
    simp only [advanceRun, found]
    cases run with
    | scheduled =>
      simp only [beginRun]
      split
      · next cause _ =>
        exact follows_of_phase (.awaiting uri request (.ended (.notRegistered cause))) _
          (by simp [found]) rfl
      · next job _ =>
        exact follows_of_phase (.awaiting uri request (.lowering job)) _ (by simp [found]) rfl
    | stopping =>
      exact follows_of_phase (.awaiting uri request (.ended .cancelled)) _ (by simp [found]) rfl
    | lowered a =>
      dsimp only
      split
      · next gate =>
        have gate : d.gateOpen = true := gate
        exact concluded (alike_note _ d) rfl (by simp [RunPhase.passing?, gate])
      · exact follows_of_phase (.awaiting uri request (.held a)) _ (by simp [found]) rfl
    | released a => exact concluded (.refl d) rfl rfl
    | lowering job => cases due
    | held a => cases due
    | ended result => cases due

/-- A call goes on by itself. -/
theorem follows_advanceCall (p : Bench) (host : ScriptHost σ ρ ν η ε)
    (found : d.call? i = some c) (due : c.due i = some (.call i)) (passes : Artifact → Prop) :
    d.Follows p host i c passes (d.advanceCall i) := by
  obtain ⟨n, phase, asked⟩ := c
  simp only [advanceCall, found]
  cases phase with
  | scheduled =>
    cases asked with
    | true => exact follows_of_phase (.ended .cancelled) _ (by simp [found]) rfl
    | false =>
      cases opened : (d.editor n).uri with
      | none =>
        exact follows_of_phase (.ended (.failed .notOpen)) _
          (by simp [beginCall, opened, found]) rfl
      | some uri =>
        refine follows_of_phase (.awaiting uri ((d.editor n).request + 1) .scheduled) _ ?_ rfl
        simp [call?_beginCall opened, call?_abandonRun, found, TestCall.stop]
  | awaiting uri request run =>
    cases run with
    | ended result =>
      exact follows_of_phase (.ended (d.answer n request asked result)) _ (by simp [found]) rfl
    | _ => cases due
  | ended outcome => cases due

theorem follows_react (p : Bench) (host : ScriptHost σ ρ ν η ε) (found : d.call? i = some c)
    (e : Event) : d.Follows p host i c (fun a => d.PassesOn i a e) (d.react p host e) := by
  by_cases own : e.call? = some i
  · by_cases due : c.due i = some e
    · cases e with
      | call j =>
        obtain rfl : j = i := by simpa [Event.call?] using own
        exact follows_advanceCall p host found due _
      | run j =>
        obtain rfl : j = i := by simpa [Event.call?] using own
        exact follows_advanceRun p host found due
      | lowering j =>
        obtain rfl : j = i := by simpa [Event.call?] using own
        simp only [react, finishLowering]
        split
        · next uri request job asked same =>
          obtain rfl : _ = c := Option.some.inj (same.symm.trans found)
          exact follows_of_phase (.awaiting uri request (.lowered job.finish)) _
            (by simp [found]) rfl
        · exact follows_of_same found _ rfl
      | command k command => cases own
    · exact follows_of_same found _ (by rw [react_of_not_due own found due])
  · rcases call?_react_of_ne p host own with same | ⟨k, stopped, _⟩
    · exact follows_of_same found _ same
    · rw [call?_abandonRun] at stopped
      split at stopped
      · refine ⟨c.stop, by rw [stopped, found]; rfl, ?_⟩
        exact fun s has => .inl (TestCall.success?_stop has)
      · exact follows_of_same found _ stopped

theorem follows_move (p : Bench) (host : ScriptHost σ ρ ν η ε) (found : d.call? i = some c)
    (m : Move σ) : d.Follows p host i c (d.Passes m i) (d.move p host m) := by
  cases acts : d.act m with
  | none =>
    obtain ⟨c', found', change⟩ := call?_move_of_quiet p host acts found
    refine ⟨c', found', fun s has => .inl ?_⟩
    rcases change with rfl | ⟨_, rfl⟩ | ⟨_, rfl⟩
    · exact has
    · exact TestCall.success?_stop has
    · exact TestCall.success?_letPass has
  | some e =>
    obtain ⟨ready, same⟩ := move_of_act (η := η) acts
    obtain ⟨c', found', news⟩ := follows_react p host
      (show ({ d with ready } : Desk σ ρ ν ε).call? i = some c from found) e
    refine ⟨c', same p host ▸ found', fun s has => ?_⟩
    rcases news s has with had | ⟨a, ⟨found, passing⟩, concluded⟩
    · exact .inl had
    · exact .inr ⟨a, ⟨.run i, acts, .intro found passing⟩, concluded⟩

/-- A call is never lost. -/
theorem exists_call?_after (p : Bench) (host : ScriptHost σ ρ ν η ε) (found : d.call? i = some c)
    (ms : List (Move σ)) :
    ∃ c', (d.after p host ms).call? i = some c' := by
  induction ms generalizing d c with
  | nil => exact ⟨c, found⟩
  | cons m ms ih =>
    obtain ⟨c', found', _⟩ := follows_move p host found m
    exact ih found'

/-- A run that comes to a success goes past its compilation once on the way, and then its bench
comes to that success. -/
theorem passes_of_success {s : Success ρ ν} {ms : List (Move σ)} (found : d.call? i = some c)
    (open' : c.success? = none)
    (ended : ((d.after p host ms).call? i).bind TestCall.success? = some s) :
    ∃ before m behind a, ms = before ++ m :: behind ∧ (d.after p host before).Passes m i a ∧
      (p.conclude host a (d.after p host before).generator
        (d.after p host before).world).1.result = .ok (.success s) := by
  -- The induction is from the last move on, which has brought the success or found it there.
  induction ms using List.reverseRecOn with
  | nil => simp [found, open'] at ended
  | append_singleton ms m ih =>
    obtain ⟨c', found'⟩ := exists_call?_after p host found ms
    obtain ⟨c'', found'', news⟩ := follows_move p host found' m
    have has : c''.success? = some s := by simpa [found''] using ended
    rcases news s has with had | ⟨a, passes, concluded⟩
    · obtain ⟨before, m', behind, a, rfl, passes, concluded⟩ := ih (by simp [found', had])
      exact ⟨before, m', behind ++ [m], a, by simp, passes, concluded⟩
    · exact ⟨ms, m, [], a, rfl, passes, concluded⟩

/-! ### What changes the world -/

/-- Records may come and go with this move: the world is changed from outside, or some run goes past
its compilation and has its code loaded and tried. -/
def Restages (d : Desk σ ρ ν ε) (m : Move σ) : Prop :=
  (∃ world, m = .world world) ∨ ∃ j a, d.Passes m j a

theorem world_close (n : Nat) (d : Desk σ ρ ν ε) : (d.close n).world = d.world := by
  unfold close
  dsimp only
  split <;> exact (alike_abandonRun n d).world

theorem world_perform {d' : Desk σ ρ ν ε} {command : Command}
    (ok : d.perform p n command = .ok d') : d'.world = d.world := by
  cases command with
  | «open» rawRule =>
    cases ok
    unfold openBuffer
    dsimp only
    split
    · exact world_close n d
    · rfl
  | close =>
    cases ok
    exact world_close n d
  | edit text =>
    simp only [perform, edit] at ok
    split at ok
    · cases ok
    · split at ok
      · cases ok
      · next buffers _ =>
        cases ok
        exact (alike_abandonRun n { d with buffers }).world
  | invalidate =>
    cases ok
    exact (alike_abandonRun n d).world

theorem world_advanceCall (i : CallId) (d : Desk σ ρ ν ε) : (d.advanceCall i).world = d.world := by
  unfold advanceCall
  split
  · rfl
  · next c _ =>
    split
    · split
      · rfl
      · unfold beginCall
        split
        · rfl
        · exact (alike_abandonRun c.editor d).world
    · exact (alike_finishCall _ _ _ _ _ _).world
    · rfl

/-- A run that does not go past its compilation leaves the world alone. -/
theorem world_advanceRun (waits : ∀ a, ¬ d.PassesOn i a (.run i)) :
    (d.advanceRun p host i).world = d.world := by
  unfold advanceRun
  split
  · next n uri request run asked found =>
    cases run with
    | scheduled =>
      unfold beginRun
      dsimp only
      split <;> rfl
    | lowered a =>
      dsimp only
      split
      · next gate =>
        have gate : d.gateOpen = true := gate
        exact absurd (.intro found (by simp [RunPhase.passing?, gate])) (waits a)
      · rfl
    | released a => exact absurd (.intro found rfl) (waits a)
    | _ => rfl
  · rfl

theorem world_react (waits : ∀ j a, ¬ d.PassesOn j a e) : (d.react p host e).world = d.world := by
  cases e with
  | call i => exact world_advanceCall i d
  | run i => exact world_advanceRun (waits i)
  | lowering i =>
    simp only [react, finishLowering]
    split <;> rfl
  | command n command =>
    change ((d.perform p n command).toOption.getD d).world = _
    cases performed : d.perform p n command with
    | ok d' => exact world_perform performed
    | error cause => rfl

theorem world_advance (seconds : Float) (d : Desk σ ρ ν ε) :
    (d.advance seconds).world = d.world := by
  have rung (timers : List (Float × Nat)) (d : Desk σ ρ ν ε) :
      (timers.foldl ring d).world = d.world := by
    induction timers generalizing d with
    | nil => rfl
    | cons timer rest ih => exact ih (d.ring timer)
  exact rung (d.due (d.now + seconds)) d

/-- Only a change from outside and a run that goes past its compilation change the world. -/
theorem world_move (p : Bench) (host : ScriptHost σ ρ ν η ε) (still : ¬ d.Restages m) :
    (d.move p host m).world = d.world := by
  cases acts : d.act m with
  | some e =>
    obtain ⟨ready, same⟩ := move_of_act (η := η) acts
    rw [same]
    refine world_react (d := { d with ready }) fun j a passes => still (.inr ⟨j, a, e, acts, ?_⟩)
    obtain ⟨found, passing⟩ := passes
    exact .intro found passing
  | none =>
    cases m with
    | command n c => cases acts
    | save n name freshKey =>
      simp only [move]
      cases saved : d.save n name freshKey with
      | error cause => rfl
      | ok result =>
        simp only [save] at saved
        split at saved
        · cases saved
        · split at saved
          · cases saved
          · cases saved
            rfl
    | start n => rfl
    | cancel i => exact (alike_cancelCall i d).world
    | update uri text =>
      simp only [move, update]
      split <;> rfl
    | turn place =>
      obtain ⟨ready, same⟩ := turn_of_quiet p host acts
      simp [move, same]
    | world world => exact absurd (.inl ⟨world, rfl⟩) still
    | gate isOpen => exact (alike_setGate isOpen d).world
    | afterRun command => rfl
    | advance seconds => exact world_advance seconds d

theorem world_after {ms : List (Move σ)}
    (still : Along p host (fun d m => ¬ d.Restages m) d ms) :
    (d.after p host ms).world = d.world := by
  induction ms generalizing d with
  | nil => rfl
  | cons m ms ih => exact (ih still.2).trans (world_move p host still.1)

/-! ### The records of a success -/

/-- A run that was asked for and comes to a success has tested the records that were on the stage
when it went past its compilation and its code had been loaded, in trace order and then in span
order. Until then the world is as it was when the run was asked for, unless it was changed from
outside or some other run went past its compilation. -/
theorem success_tests_stage {τ π : Type} (stage : σ → TraceStore τ) (spans : σ → τ → List π)
    (record : π → τ → ρ) {uri : String} {request : Nat} {asked : Bool} {ms : List (Move σ)}
    {s : Success ρ ν} (waiting : d.call? i = some ⟨n, .awaiting uri request .scheduled, asked⟩)
    (ended : ((d.after p (host.onStage stage spans record) ms).call? i).bind TestCall.success? =
      some s) :
    let host := host.onStage stage spans record
    ∃ before m behind w, ms = before ++ m :: behind ∧
      (d.after p host before).Passes m i s.artifact ∧
      exportedFunction host p.kind s.artifact.code (d.after p host before).world =
        .ok s.function w ∧
      s.outcomes.map Outcome.record =
        ((stage w).traces.flatMap fun t => (spans w t).map fun span => record span t) ∧
      (Along p host (fun d m => ¬ d.Restages m) d before →
        (d.after p host before).world = d.world) := by
  intro host
  obtain ⟨before, m, behind, a, split, passes, concluded⟩ := passes_of_success waiting rfl ended
  obtain ⟨rfl, w, exported, records⟩ := Bench.records_of_success concluded
  exact ⟨before, m, behind, w, split, passes, exported, records, world_after⟩

/-- A trace that comes while the run of a test waits for its compilation. -/
def visitedTest : List (Move Execution.Scene) :=
  [.turn 0, .world ((Trace.sample (.str "t2") [.str "cart"]).toOption.toList.foldl
    Execution.Scene.withTrace sampleDesk.world), .turn 0, .turn 0]

/-- Two outcomes, of which one is for the trace that came. -/
theorem exists_success_visitedTest :
    ∃ s, (((sampleAfter groupingScript 1).after sampleBench Execution.host visitedTest).call?
        0).bind TestCall.success? = some s ∧ s.outcomes.length = 2 := by
  have both : ((((sampleAfter groupingScript 1).after sampleBench Execution.host
      visitedTest).call? 0).bind TestCall.success?).map (·.outcomes.length) = some 2 := by
    decide +kernel
  exact Option.map_eq_some_iff.mp both

/-- The trace that came is tested too. -/
theorem visited_tests_stage :
    (sampleAfter groupingScript 1).call? 0 = some ⟨0, .awaiting (bufferUri 0) 1 .scheduled, false⟩ ∧
      ∃ s, (((sampleAfter groupingScript 1).after sampleBench Execution.host visitedTest).call?
          0).bind TestCall.success? = some s ∧
        ∃ before w, exportedFunction Execution.host sampleBench.kind s.artifact.code
            ((sampleAfter groupingScript 1).after sampleBench Execution.host before).world =
              .ok s.function w ∧
          s.outcomes.map Outcome.record = Execution.host.records w := by
  have waiting : (sampleAfter groupingScript 1).call? 0 =
      some ⟨0, .awaiting (bufferUri 0) 1 .scheduled, false⟩ := rfl
  obtain ⟨s, ended, -⟩ := exists_success_visitedTest
  obtain ⟨before, m, behind, w, _, _, exported, records, _⟩ :=
    success_tests_stage Execution.Scene.store _ Execution.LiveRecord.mk waiting
      (Execution.host_onStage _ ▸ ended)
  exact ⟨waiting, s, ended, before, w, exported, records⟩

/-- A success does not cover the records of the moment at which its run was asked for. -/
theorem success_misses_start :
    ¬ ∀ (p : Bench)
      (d : Desk Execution.Scene Execution.LiveRecord Execution.Value Execution.Value)
      (ms : List (Move Execution.Scene)) (i : CallId) (n : Nat) (uri : String) (request : Nat)
      (s : Success Execution.LiveRecord Execution.Value), Reachable p Execution.host d →
      d.call? i = some ⟨n, .awaiting uri request .scheduled, false⟩ →
      ((d.after p Execution.host ms).call? i).bind TestCall.success? = some s →
      s.outcomes.map Outcome.record = Execution.host.records d.world := by
  intro always
  have alone : (Execution.host.records (sampleAfter groupingScript 1).world).length = 1 := by
    decide +kernel
  obtain ⟨s, ended, two⟩ := exists_success_visitedTest
  have same := always sampleBench (sampleAfter groupingScript 1) visitedTest 0 0 (bufferUri 0) 1 s
    (reachable_sampleAfter groupingScript 1) rfl ended
  have lengths := congrArg List.length same
  rw [List.length_map, two, alone] at lengths
  omega

end Desk

end RuleBench
