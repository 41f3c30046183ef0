import RuleBench.Proofs.Desk.Superseded

/-!
# Editors that are stuck

An editor is stuck when its state says that a run is under way although none is. Two things cut a
run off like that: its caller cancels it, and its script lets an error pass through. Neither of them
puts the state back to rest, as an invalidation does. Nothing else leaves an editor stuck
(`never_stuck_iff`).
-/

namespace RuleBench

variable {σ ρ ν η ε : Type} {p : Bench} {host : ScriptHost σ ρ ν η ε}

theorem TestCall.isRunning_stop (c : TestCall ρ ν ε) : c.stop.isRunning = c.isRunning := by
  obtain ⟨n, phase, asked⟩ := c
  cases phase with
  | awaiting uri request run => cases run <;> rfl
  | _ => rfl

theorem TestCall.isRunning_letPass (c : TestCall ρ ν ε) : c.letPass.isRunning = c.isRunning := by
  obtain ⟨n, phase, asked⟩ := c
  cases phase with
  | awaiting uri request run => cases run <;> rfl
  | _ => rfl

namespace Desk

variable {d d' : Desk σ ρ ν ε} {n : Nat} {i : CallId} {uri : String} {request : Nat}
  {run : RunPhase ρ ν ε} {asked : Bool} {e : Event}

/-- The state says that a run is under way, but there is none. -/
def Stuck (d : Desk σ ρ ν ε) (n : Nat) : Prop :=
  d.isBusy n = false ∧ (d.editor n).state.isUnderWay = true

/-- Why the run of a call ends without a report: its caller has cancelled it, or the script lets an
error pass through. -/
inductive EndsEarly (p : Bench) (host : ScriptHost σ ρ ν η ε) (d : Desk σ ρ ν ε) (n : Nat) :
    RunPhase ρ ν ε → Bool → Prop where
  | byCaller (underWay : (d.editor n).state.isUnderWay = true) :
      EndsEarly p host d n .stopping true
  | byScript {run : RunPhase ρ ν ε} {asked : Bool} {a : Artifact} {e : ε}
      (passing : run.passing? d.gateOpen = some a)
      (concluded : (p.conclude host a d.generator d.world).1.result = .error e) :
      EndsEarly p host d n run asked

/-- A move cuts off the run of an editor's latest request. -/
def CutsOff (p : Bench) (host : ScriptHost σ ρ ν η ε) (d : Desk σ ρ ν ε) (n : Nat) (m : Move σ) :
    Prop :=
  ∃ i uri request run asked, d.act m = some (.run i) ∧ (d.editor n).current = some i ∧
    d.call? i = some ⟨n, .awaiting uri request run, asked⟩ ∧ d.EndsEarly p host n run asked

theorem isBusy_of_current (current : (d.editor n).current = some i) {c : TestCall ρ ν ε}
    (found : d.call? i = some c) : d.isBusy n = c.isRunning := by
  simp [isBusy, current, isRunning, found]

/-- A run that ends early leaves the state as it is while the run was under way. -/
theorem EndsEarly.of_continues {b : Buffer} {state : RunState} {run' : RunPhase ρ ν ε}
    (early : d.EndsEarly p host n run asked)
    (continues : d.Continues p host n uri b run state run') :
    run'.isEnded = true ∧ state.isUnderWay = true := by
  cases early with
  | byCaller underWay =>
    cases continues with
    | report passing => cases passing
    | escape passing => cases passing
    | stop => exact ⟨rfl, underWay⟩
    | wait waiting => rcases waiting with ⟨job, h⟩ | ⟨a, h⟩ <;> cases h
  | byScript passing concluded =>
    cases continues with
    | start => cases passing
    | hold a gate => simp [RunPhase.passing?, gate] at passing
    | report passing' concluded' =>
      rw [passing, Option.some.injEq] at passing'
      subst passing'
      simp [concluded] at concluded'
    | escape _ _ _ underWay => exact ⟨rfl, underWay⟩
    | stop => cases passing
    | wait waiting => rcases waiting with ⟨job, rfl⟩ | ⟨a, rfl⟩ <;> cases passing

/-- A run that does not end early goes on as long as the state says so. -/
theorem Continues.going {b : Buffer} {state : RunState} {run' : RunPhase ρ ν ε}
    (continues : d.Continues p host n uri b run state run')
    (latest : d.Latest p host n i uri request run asked)
    (early : ¬ d.EndsEarly p host n run asked) (underWay : state.isUnderWay = true) :
    run'.isEnded = false := by
  cases continues with
  | start => rfl
  | hold a gate => rfl
  | report passing concluded reports => simp [Report.state_isUnderWay] at underWay
  | escape passing concluded => exact absurd (.byScript passing concluded) early
  | stop =>
    obtain rfl : asked = true := latest.fits
    exact absurd (.byCaller underWay) early
  | wait waiting => rcases waiting with ⟨job, rfl⟩ | ⟨a, rfl⟩ <;> rfl

theorem EndsEarly.taken (early : d.EndsEarly p host n run asked) (ready : List Event) :
    ({ d with ready } : Desk σ ρ ν ε).EndsEarly p host n run asked := by
  cases early with
  | byCaller underWay => exact .byCaller underWay
  | byScript passing concluded => exact .byScript passing concluded

/-- The editor of a run that ends early is stuck. -/
theorem stuck_of_endsEarly (sound : d.Sound p host) (current : (d.editor n).current = some i)
    (found : d.call? i = some ⟨n, .awaiting uri request run, asked⟩)
    (early : d.EndsEarly p host n run asked) : (d.advanceRun p host i).Stuck n := by
  have latest := ((sound.inOrder n).calls i uri request run asked found).resolve_right
    fun overtaken => (sound.inOrder n).current_ne_of_lt found overtaken.request current
  obtain ⟨_, b, buffer⟩ := (sound.inOrder n).buffer uri latest.opened
  have going : run.isEnded = false := by
    cases early with
    | byCaller => rfl
    | byScript passing =>
      cases run with
      | ended result => cases passing
      | _ => rfl
  obtain ⟨state, run', progress, continues, _⟩ :=
    advanceRun_latest p host found latest.request (lt_of_uri latest.opened) buffer going
  have editor : (d.advanceRun p host i).editor n = { d.editor n with state } :=
    (progress.editor n).trans (if_pos rfl)
  have after := (progress.calls i).trans (if_pos rfl)
  have named : ((d.advanceRun p host i).editor n).current = some i := by
    rw [editor]
    exact current
  obtain ⟨ended, underWay⟩ := early.of_continues continues
  refine ⟨?_, ?_⟩
  · rw [isBusy_of_current named after]
    simp [TestCall.isRunning, ended]
  · rw [editor]
    exact underWay

/-! ### Nothing else leaves an editor stuck -/

/-- Whatever leaves the state alone, and a run under way if there is one, leaves no editor stuck. -/
theorem not_stuck_of_same (h : ¬ d.Stuck n) (state : (d'.editor n).state = (d.editor n).state)
    (busy : d.isBusy n = true → d'.isBusy n = true) : ¬ d'.Stuck n := by
  rintro ⟨idle, underWay⟩
  refine h ⟨?_, state ▸ underWay⟩
  cases before : d.isBusy n with
  | false => rfl
  | true => rw [busy before] at idle; cases idle

/-- A call that an editor names keeps it busy as long as its run is under way. -/
theorem isBusy_mono (current : (d'.editor n).current = (d.editor n).current)
    (calls : ∀ i c, (d.editor n).current = some i → d.call? i = some c →
      ∃ c', d'.call? i = some c' ∧ c'.isRunning = c.isRunning)
    (busy : d.isBusy n = true) : d'.isBusy n = true := by
  cases named : (d.editor n).current with
  | none => simp [isBusy, named] at busy
  | some i =>
    cases found : d.call? i with
    | none => simp [isBusy, named, isRunning, found] at busy
    | some c =>
      obtain ⟨c', found', same⟩ := calls i c named found
      rw [isBusy_of_current (current.trans named) found', same,
        ← isBusy_of_current named found, busy]

theorem not_stuck_of_quiet {m : Move σ} (h : ¬ d.Stuck n) (quiet : d.act m = none) :
    ¬ (d.move p host m).Stuck n := by
  have alike := editor_move_of_quiet p host quiet n
  refine not_stuck_of_same h alike.state (isBusy_mono alike.current fun i c _ found => ?_)
  obtain ⟨c', found', rfl | ⟨_, rfl⟩ | ⟨_, rfl⟩⟩ :=
    call?_move_of_quiet p host quiet found
  · exact ⟨_, found', rfl⟩
  · exact ⟨_, found', c.isRunning_stop⟩
  · exact ⟨_, found', c.isRunning_letPass⟩

theorem isRunning_react_of_ne (other : e.call? ≠ some i) {c : TestCall ρ ν ε}
    (found : d.call? i = some c) :
    ∃ c', (d.react p host e).call? i = some c' ∧ c'.isRunning = c.isRunning := by
  rcases call?_react_of_ne p host other with same | ⟨k, stopped, _⟩
  · exact ⟨c, same.trans found, rfl⟩
  · rw [stopped, call?_abandonRun]
    split
    · exact ⟨c.stop, by simp [found], c.isRunning_stop⟩
    · exact ⟨c, found, rfl⟩

/-- An event of a call that its editor does not name leaves that editor busy. -/
theorem not_stuck_react_of_ne (h : ¬ d.Stuck n)
    (other : ∀ i, (d.editor n).current = some i → e.call? ≠ some i)
    (same : (d.react p host e).editor n = d.editor n) : ¬ (d.react p host e).Stuck n :=
  not_stuck_of_same h (by rw [same])
    (isBusy_mono (by rw [same]) fun i _ named found => isRunning_react_of_ne (other i named) found)

/-- An event of the latest request's call leaves its editor stuck only if the run ends early. -/
theorem not_stuck_react_latest (sound : d.Sound p host) (h : ¬ d.Stuck n)
    (found : d.call? i = some ⟨n, .awaiting uri request run, asked⟩)
    (latest : d.Latest p host n i uri request run asked) (own : e.call? = some i)
    (early : e = .run i → ¬ d.EndsEarly p host n run asked) : ¬ (d.react p host e).Stuck n := by
  have busy := isBusy_of_current latest.current found
  by_cases due : TestCall.due i ⟨n, .awaiting uri request run, asked⟩ = some e
  · -- a run that goes on, if it is not lowered or over already
    have goesOn (runs : e = .run i) (going : run.isEnded = false) :
        ¬ (d.react p host e).Stuck n := by
      subst runs
      obtain ⟨_, b, buffer⟩ := (sound.inOrder n).buffer uri latest.opened
      obtain ⟨state, run', progress, continues, _⟩ :=
        advanceRun_latest p host found latest.request (lt_of_uri latest.opened) buffer going
      have editor := (progress.editor n).trans (if_pos rfl)
      have after := (progress.calls i).trans (if_pos rfl)
      have named : ((d.advanceRun p host i).editor n).current = some i := by
        rw [editor]
        exact latest.current
      rintro ⟨idle, underWay⟩
      change (d.advanceRun p host i).isBusy n = false at idle
      change ((d.advanceRun p host i).editor n).state.isUnderWay = true at underWay
      rw [editor] at underWay
      have going := continues.going latest (early rfl) underWay
      rw [isBusy_of_current named after] at idle
      simp [TestCall.isRunning, going] at idle
    cases run with
    | ended result =>
      cases due
      -- the run has ended before, so the state cannot say that it is under way
      have moved : d.react p host (.call i) =
          d.finishCall i ⟨n, .awaiting uri request (.ended result), asked⟩ uri request result := by
        simp [react, advanceCall, found]
      rw [moved]
      rintro ⟨_, underWay⟩
      rw [editor_finishCall (c := ⟨n, .awaiting uri request (.ended result), asked⟩)
        (lt_of_uri latest.opened), if_pos rfl, Editor.state_settle] at underWay
      exact h ⟨busy, underWay⟩
    | lowering job =>
      cases due
      have moved : d.react p host (.lowering i) =
          (d.setPhase i (.awaiting uri request (.lowered job.finish))).schedule (.run i) := by
        simp [react, finishLowering, found]
      rw [moved]
      rintro ⟨idle, _⟩
      have after : ((d.setPhase i (.awaiting uri request (.lowered job.finish))).schedule
          (.run i)).call? i = some ⟨n, .awaiting uri request (.lowered job.finish), asked⟩ := by
        simp [found]
      have named : (((d.setPhase i (.awaiting uri request (.lowered job.finish))).schedule
          (.run i)).editor n).current = some i := latest.current
      rw [isBusy_of_current named after] at idle
      cases idle
    | held a => cases due
    | _ => exact goesOn (Option.some.inj due).symm rfl
  · rwa [react_of_not_due own found due]

/-- A call that begins keeps its editor busy. -/
theorem not_stuck_beginCall (h : ¬ d.Stuck n) (current : (d.editor n).current ≠ some i)
    (found : d.call? i = some ⟨n, .scheduled, asked⟩) : ¬ (d.beginCall i n).Stuck n := by
  cases opened : (d.editor n).uri with
  | none =>
    have ends : d.beginCall i n = d.endCall i (.failed .notOpen) := by simp [beginCall, opened]
    rw [ends]
    refine not_stuck_of_same h rfl (isBusy_mono rfl fun j c named found => ⟨c, ?_, rfl⟩)
    have ne : j ≠ i := by
      rintro rfl
      exact current named
    simpa [ne] using found
  | some uri =>
    rintro ⟨idle, _⟩
    have named : ((d.beginCall i n).editor n).current = some i := by
      rw [editor_beginCall opened, if_pos rfl]
    have begun : (d.beginCall i n).call? i =
        some ⟨n, .awaiting uri ((d.editor n).request + 1) .scheduled, asked⟩ := by
      simp [call?_beginCall opened, call?_abandonRun, found, TestCall.stop]
    rw [isBusy_of_current named begun] at idle
    cases idle

/-- An event of a call that its editor does not name does not leave that editor stuck. -/
theorem not_stuck_react_other (sound : d.Sound p host) (h : ¬ d.Stuck n)
    (going : d.interrupt.isSome = false) {c : TestCall ρ ν ε} (found : d.call? i = some c)
    (site : c.editor = n) (own : e.call? = some i) (current : (d.editor n).current ≠ some i) :
    ¬ (d.react p host e).Stuck n := by
  obtain ⟨k, phase, asked⟩ := c
  obtain rfl : k = n := site
  have other (j : CallId) (named : (d.editor k).current = some j) : e.call? ≠ some j := by
    rw [own]
    rintro same
    exact current (named.trans same.symm)
  cases phase with
  | awaiting uri request run =>
    have overtaken := ((sound.inOrder k).calls i uri request run asked found).resolve_left
      fun latest => current latest.current
    have isOver := overtaken.isOver
    rw [going] at isOver
    have alike := (alike_react_of_overtaken p host found overtaken.request isOver
      current own).1
    exact not_stuck_react_of_ne h other (alike.editor k)
  | ended outcome => rwa [react_of_ended found own]
  | scheduled =>
    by_cases due : e = .call i
    · subst due
      cases asked with
      | true =>
        refine not_stuck_react_of_ne h other ?_
        simp [react, advanceCall, found]
      | false =>
        have begins : d.react p host (.call i) = d.beginCall i k := by
          simp [react, advanceCall, found]
        rw [begins]
        exact not_stuck_beginCall h current found
    · rwa [react_of_not_due own found (by simpa [TestCall.due, eq_comm] using due)]

/-- An event leaves an editor stuck only by letting the run of its latest request end early. -/
theorem not_stuck_react (sound : d.Sound p host) (h : ¬ d.Stuck n)
    (going : ∀ i, e.call? = some i → d.interrupt.isSome = false)
    (early : ∀ i uri request run asked, e = .run i → (d.editor n).current = some i →
      d.call? i = some ⟨n, .awaiting uri request run, asked⟩ →
        ¬ d.EndsEarly p host n run asked) : ¬ (d.react p host e).Stuck n := by
  by_cases site : e.site d = some n
  · have driven {i : CallId} (own : e.call? = some i)
        (site : (d.call? i).map TestCall.editor = some n) : ¬ (d.react p host e).Stuck n := by
      obtain ⟨c, found, site⟩ := Option.map_eq_some_iff.mp site
      by_cases current : (d.editor n).current = some i
      · obtain ⟨uri, request, run, asked, found', latest⟩ :=
          (sound.inOrder n).latest_of_current current
        exact not_stuck_react_latest sound h found' latest own fun runs =>
          early i uri request run asked runs current found'
      · exact not_stuck_react_other sound h (going i own) found site own current
    cases e with
    | call i => exact driven rfl site
    | run i => exact driven rfl site
    | lowering i => exact driven rfl site
    | command k c =>
      obtain rfl : k = n := by simpa [Event.site] using site
      change ¬ ((d.perform p k c).toOption.getD d).Stuck k
      cases performed : d.perform p k c with
      | ok d' =>
        rintro ⟨_, underWay⟩
        have cleared := Cleared.perform (sound.inOrder k) performed
        change (d'.editor k).state.isUnderWay = true at underWay
        rw [cleared.state] at underWay
        cases underWay
      | error cause => exact h
  · refine not_stuck_react_of_ne h (fun i named own => ?_) (editor_react_of_ne site)
    obtain ⟨uri, run, asked, found⟩ := (sound.inOrder n).current i named
    refine site ?_
    cases e with
    | command k c => cases own
    | _ =>
      obtain rfl := Option.some.inj own
      simp [Event.site, found]

/-- A move that cuts off no run leaves no editor stuck. -/
theorem not_stuck_move (sound : d.Sound p host) (h : ¬ d.Stuck n) {m : Move σ}
    (fine : ¬ d.CutsOff p host n m) : ¬ (d.move p host m).Stuck n := by
  cases acts : d.act m with
  | none => exact not_stuck_of_quiet h acts
  | some e =>
    obtain ⟨ready, same⟩ := move_of_act (η := η) acts
    have taken := sound.taken ready
    rw [same]
    refine not_stuck_react taken h (fun i own => interrupt_of_act (d := d) acts own) ?_
    rintro i uri request run asked rfl current found early
    exact fine ⟨i, uri, request, run, asked, acts, current, found, early.taken d.ready⟩

theorem stuck_move (sound : d.Sound p host) {m : Move σ} (cuts : d.CutsOff p host n m) :
    (d.move p host m).Stuck n := by
  obtain ⟨i, uri, request, run, asked, acts, current, found, early⟩ := cuts
  obtain ⟨ready, same⟩ := move_of_act (η := η) acts
  have taken := sound.taken ready
  rw [same]
  exact stuck_of_endsEarly (d := { d with ready }) taken current found (early.taken ready)

/-- From a desk on which an editor is not stuck: whatever the moves are, it never gets stuck exactly
if none of them cuts off the run of its latest request. -/
theorem Reachable.never_stuck_iff (reachable : Reachable p host d) (h : ¬ d.Stuck n)
    (ms : List (Move σ)) : (∀ k, ¬ (d.after p host (ms.take k)).Stuck n) ↔
      Along p host (fun d m => ¬ d.CutsOff p host n m) d ms := by
  induction ms generalizing d with
  | nil => simpa [Along] using h
  | cons m ms ih =>
    have next := reachable.move m
    constructor
    · intro never
      have fine : ¬ d.CutsOff p host n m := fun cuts => never 1 (by
        simpa using stuck_move reachable.sound cuts)
      refine ⟨fine, (ih next (not_stuck_move reachable.sound h fine)).mp fun k => ?_⟩
      simpa using never (k + 1)
    · rintro ⟨fine, rest⟩ k
      cases k with
      | zero => exact h
      | succ k =>
        simpa using (ih next (not_stuck_move reachable.sound h fine)).mpr rest k

/-- Exactly the moves that cut off the run of an editor's latest request leave it stuck: from the
start it is never stuck if and only if there is none. -/
theorem stuck_only_if_cut_off (listening : List Bool) (buffers : Buffers) (opened : Nat)
    (generator : Generator) (world : σ) (n : Nat) (ms : List (Move σ)) :
    (∀ k, ¬ ((fresh listening buffers opened generator world : Desk σ ρ ν ε).after p host
      (ms.take k)).Stuck n) ↔
    Along p host (fun d m => ¬ d.CutsOff p host n m)
      (fresh listening buffers opened generator world : Desk σ ρ ν ε) ms := by
  have start : Reachable p host (fresh listening buffers opened generator world : Desk σ ρ ν ε) :=
    .fresh ..
  refine start.never_stuck_iff (fun stuck => ?_) ms
  obtain ⟨listening', editor⟩ := editor_fresh listening buffers opened generator world n
  have underWay := stuck.2
  rw [editor] at underWay
  cases underWay

/-- A caller that cancels its call while the buffer is being lowered leaves the editor stuck. -/
theorem stuck_after_cancellation :
    ¬ ∀ d n, Reachable sampleBench Execution.host d → d.isBusy n = false →
      (d.editor n).state.isUnderWay = false := by
  intro never
  have reachable := (reachable_sampleAfter groupingScript 2).after
    [.cancel 0, .turn 0, .turn 0, .turn 0]
  have rests := never _ 0 reachable rfl
  cases rests

end Desk

end RuleBench
