import Mathlib.Data.List.Induction
import RuleBench.Proofs.Desk.Ready
import RuleBench.Proofs.Desk.Saving
import RuleBench.Proofs.Desk.Superseded

/-!
# Report and state agree

A report on hand is that of the latest request: the call that began last in its editor has answered
with it, and neither a command nor another call has come since. The state of the editor is the one
that this report ends in, and nothing is under way any more.

State and report are written at different moments, the state by the run and the report by the call
that waits for it. What links the two is that a call which waits for the run of the latest request
is the one that began last (`Attributed`).
-/

namespace RuleBench

variable {σ ρ ν η ε : Type} {p : Bench} {host : ScriptHost σ ρ ν η ε}

namespace TestCall

@[simp] theorem editor_stop (c : TestCall ρ ν ε) : c.stop.editor = c.editor := by
  unfold stop
  split <;> rfl

@[simp] theorem editor_letPass (c : TestCall ρ ν ε) : c.letPass.editor = c.editor := by
  unfold letPass
  split <;> rfl

end TestCall

namespace Desk

variable {d d₀ : Desk σ ρ ν ε} {n : Nat} {i : CallId} {e : Event} {m : Move σ} {ms : List (Move σ)}
  {c : TestCall ρ ν ε} {uri : String} {request : Nat} {run : RunPhase ρ ν ε} {asked : Bool}
  {r : Report ρ ν}

/-! ### Calls that wait -/

/-- A call that is not there does not come into being by an event. -/
theorem call?_react_of_none (p : Bench) (host : ScriptHost σ ρ ν η ε) (absent : d.call? i = none)
    (e : Event) : (d.react p host e).call? i = none := by
  by_cases own : e.call? = some i
  · have idle : d.react p host e = d := by
      cases e with
      | command k c => cases own
      | _ =>
        obtain rfl := Option.some.inj own
        simp [react, advanceCall, advanceRun, finishLowering, absent]
    rw [idle, absent]
  · rcases call?_react_of_ne p host own with same | ⟨k, stopped, _⟩
    · exact same.trans absent
    · rw [stopped, call?_abandonRun]
      simp [absent]

/-- A call that is not there at most is made, by a quiet move. -/
theorem call?_move_of_none (p : Bench) (host : ScriptHost σ ρ ν η ε) (absent : d.call? i = none)
    (quiet : d.act m = none) :
    (d.move p host m).call? i = none ∨ ∃ k, (d.move p host m).call? i = some { editor := k } := by
  have kept {d' : Desk σ ρ ν ε} (same : d'.call? i = d.call? i) :
      d'.call? i = none ∨ ∃ k, d'.call? i = some { editor := k } := .inl (same.trans absent)
  cases m with
  | command k c => cases quiet
  | save k name freshKey =>
    exact kept (congrArg (·[i]?) (keeps_save p host k name freshKey d).calls)
  | start k =>
    have made : (d.move p host (.start k)).call? i = [({ editor := k } : TestCall ρ ν ε)][
        i - d.calls.length]? :=
      List.getElem?_append_right (List.getElem?_eq_none_iff.mp absent)
    rw [made, List.getElem?_singleton]
    split
    · exact .inr ⟨k, rfl⟩
    · exact .inl rfl
  | cancel j =>
    by_cases own : j = i
    · subst own
      exact kept (by simp [move, cancelCall, absent])
    · refine kept ?_
      simp only [move, cancelCall]
      split
      · simp [Ne.symm own]
      · simp [call?_stopRun, Ne.symm own]
      · rfl
  | update uri text =>
    refine kept ?_
    simp only [move, update]
    split <;> rfl
  | turn place =>
    obtain ⟨ready, same⟩ := turn_of_quiet p host quiet
    exact kept (congrArg (·.call? i) same)
  | world world => exact kept rfl
  | gate isOpen =>
    refine .inl ?_
    simp [move, call?_setGate, absent]
  | afterRun command => exact kept rfl
  | advance seconds => exact kept (congrArg (·[i]?) (keeps_advance seconds d).calls)

/-- A call waits for the run of some request of an editor. -/
def Waits (d : Desk σ ρ ν ε) (n : Nat) (i : CallId) (request : Nat) : Prop :=
  ∃ uri run asked, d.call? i = some ⟨n, .awaiting uri request run, asked⟩

/-- A call that is stopped or let past the gate waits for what it has waited for. -/
theorem waits_of_stop (found : d.call? i = some c)
    (stops : c.stop.phase = .awaiting uri request run) (site : c.editor = n) :
    d.Waits n i request := by
  obtain ⟨k, phase, asked⟩ := c
  obtain rfl : k = n := site
  cases phase with
  | awaiting uri' request' run' =>
    obtain ⟨_, rfl, _⟩ := CallPhase.awaiting.inj stops
    exact ⟨_, _, _, found⟩
  | _ => cases stops

theorem waits_of_letPass (found : d.call? i = some c)
    (passes : c.letPass.phase = .awaiting uri request run) (site : c.editor = n) :
    d.Waits n i request := by
  obtain ⟨k, phase, asked⟩ := c
  obtain rfl : k = n := site
  cases phase with
  | awaiting uri' request' run' =>
    cases run' <;>
    · obtain ⟨_, rfl, _⟩ := CallPhase.awaiting.inj passes
      exact ⟨_, _, _, found⟩
  | _ => cases passes

/-- A run that goes on is still the run of its call. -/
theorem call?_advanceRun (p : Bench) (host : ScriptHost σ ρ ν η ε)
    (found : d.call? i = some ⟨n, .awaiting uri request run, asked⟩) :
    ∃ run', (d.advanceRun p host i).call? i = some ⟨n, .awaiting uri request run', asked⟩ := by
  have concluded {d' : Desk σ ρ ν ε} (same : d'.call? i = d.call? i) (a : Artifact) :
      ∃ run', (d'.conclude p host i n uri request a).call? i =
        some ⟨n, .awaiting uri request run', asked⟩ := by
    obtain ⟨result, after, _⟩ := call?_conclude p host i n uri request a d'
    exact ⟨.ended result, by simp [after, same, found]⟩
  simp only [advanceRun, found]
  cases run with
  | scheduled =>
    simp only [beginRun]
    split
    · next cause _ => exact ⟨.ended (.notRegistered cause), by simp [found]⟩
    · next job _ => exact ⟨.lowering job, by simp [found]⟩
  | stopping => exact ⟨.ended .cancelled, by simp [found]⟩
  | lowered a =>
    dsimp only
    split
    · exact concluded (call?_note _ d i) a
    · exact ⟨.held a, by simp [found]⟩
  | released a => exact concluded rfl a
  | _ => exact ⟨_, found⟩

/-- A call that has a run and goes on by itself has answered. -/
theorem waits_advanceCall (waits : (d.advanceCall i).Waits n i request) :
    d.Waits n i request ∨ d.Begins n i (.call i) := by
  cases found : d.call? i with
  | none =>
    have idle : d.advanceCall i = d := by simp [advanceCall, found]
    exact .inl (idle ▸ waits)
  | some c =>
    obtain ⟨k, phase, asked⟩ := c
    obtain ⟨uri, run, asked', found'⟩ := waits
    cases phase with
    | scheduled =>
      cases asked with
      | true => simp [advanceCall, found] at found'
      | false =>
        have begins : d.advanceCall i = d.beginCall i k := by simp [advanceCall, found]
        rw [begins] at found'
        cases opened : (d.editor k).uri with
        | none => simp [beginCall, opened, found] at found'
        | some uri' =>
          rw [call?_beginCall opened, if_pos rfl, call?_abandonRun, found] at found'
          obtain rfl : k = n := by
            split at found' <;> exact congrArg TestCall.editor (Option.some.inj found')
          exact .inr ⟨rfl, found⟩
    | awaiting uri' request' run' =>
      cases run' with
      | ended result => simp [advanceCall, found] at found'
      | _ =>
        have idle : d.advanceCall i = d := by simp [advanceCall, found]
        exact .inl ⟨_, _, _, idle ▸ found'⟩
    | ended outcome =>
      have idle : d.advanceCall i = d := by simp [advanceCall, found]
      exact .inl ⟨_, _, _, idle ▸ found'⟩

/-- A call that waits after an event has waited before it, or begins with it. -/
theorem waits_react (waits : (d.react p host e).Waits n i request) :
    d.Waits n i request ∨ d.Begins n i e := by
  cases found : d.call? i with
  | none =>
    obtain ⟨uri, run, asked, found'⟩ := waits
    rw [call?_react_of_none p host found] at found'
    cases found'
  | some c =>
    by_cases own : e.call? = some i
    · cases e with
      | call j =>
        obtain rfl : j = i := by simpa [Event.call?] using own
        exact waits_advanceCall waits
      | run j =>
        obtain rfl : j = i := by simpa [Event.call?] using own
        obtain ⟨k, phase, asked⟩ := c
        obtain ⟨uri', run', asked', found'⟩ := waits
        cases phase with
        | awaiting uri request' run =>
          obtain ⟨run'', after⟩ := call?_advanceRun p host found
          simp only [react, after, Option.some.injEq, TestCall.mk.injEq,
            CallPhase.awaiting.injEq] at found'
          obtain ⟨rfl, ⟨rfl, rfl, rfl⟩, rfl⟩ := found'
          exact .inl ⟨_, _, _, found⟩
        | _ =>
          have idle : d.react p host (.run j) = d := by simp [react, advanceRun, found]
          exact .inl ⟨_, _, _, idle ▸ found'⟩
      | lowering j =>
        obtain rfl : j = i := by simpa [Event.call?] using own
        obtain ⟨uri', run', asked', found'⟩ := waits
        simp only [react, finishLowering] at found'
        split at found'
        · next lowered =>
          simp only [call?_schedule, call?_setPhase, if_true, lowered, Option.map_some,
            Option.some.injEq, TestCall.mk.injEq, CallPhase.awaiting.injEq] at found'
          obtain ⟨rfl, ⟨rfl, rfl, rfl⟩, rfl⟩ := found'
          exact .inl ⟨_, _, _, lowered⟩
        · exact .inl ⟨_, _, _, found'⟩
      | command k command => cases own
    · left
      obtain ⟨uri, run, asked, found'⟩ := waits
      rcases call?_react_of_ne p host own with same | ⟨k, stopped, _⟩
      · exact ⟨uri, run, asked, same.symm.trans found'⟩
      · rw [stopped, call?_abandonRun, found] at found'
        split at found'
        · have stops : c.stop = ⟨n, .awaiting uri request run, asked⟩ := by simpa using found'
          refine waits_of_stop found (congrArg TestCall.phase stops) ?_
          rw [← TestCall.editor_stop, stops]
        · exact ⟨uri, run, asked, found.trans found'⟩

/-- A call that waits after a move has waited before it, or begins with it. -/
theorem waits_move (waits : (d.move p host m).Waits n i request) :
    d.Waits n i request ∨ ∃ e, d.act m = some e ∧ d.Begins n i e := by
  cases acts : d.act m with
  | some e =>
    obtain ⟨ready, same⟩ := move_of_act (η := η) acts
    rw [same] at waits
    exact (waits_react waits).imp id fun begins => ⟨e, rfl, begins⟩
  | none =>
    left
    obtain ⟨uri, run, asked, found'⟩ := waits
    cases found : d.call? i with
    | none =>
      rcases call?_move_of_none p host found acts with absent | ⟨k, made⟩
      · rw [absent] at found'
        cases found'
      · rw [made] at found'
        cases found'
    | some c =>
      obtain ⟨c', after, rfl | ⟨_, rfl⟩ | ⟨_, rfl⟩⟩ := call?_move_of_quiet p host acts found
      · exact ⟨uri, run, asked, found.trans (after.symm.trans found')⟩
      · have stops := Option.some.inj (after.symm.trans found')
        have phase : c.stop.phase = .awaiting uri request run := congrArg TestCall.phase stops
        refine waits_of_stop found phase ?_
        rw [← TestCall.editor_stop]
        exact congrArg TestCall.editor stops
      · have passes := Option.some.inj (after.symm.trans found')
        refine waits_of_letPass found (congrArg TestCall.phase passes) ?_
        rw [← TestCall.editor_letPass, passes]

/-! ### Answers -/

/-- A call that has answered keeps its answer. -/
theorem outcome?_move (p : Bench) (host : ScriptHost σ ρ ν η ε) {outcome : CallOutcome ρ ν ε}
    (answered : d.outcome? i = some outcome) (m : Move σ) :
    (d.move p host m).outcome? i = some outcome := by
  obtain ⟨c, found, ended⟩ := Option.bind_eq_some_iff.mp answered
  obtain ⟨k, phase, asked⟩ := c
  cases phase with
  | ended outcome' =>
    obtain rfl : outcome' = outcome := by simpa [TestCall.outcome?] using ended
    suffices kept : ∃ asked', (d.move p host m).call? i = some ⟨k, .ended outcome', asked'⟩ by
      obtain ⟨asked', kept⟩ := kept
      simp [outcome?, kept, TestCall.outcome?]
    cases acts : d.act m with
    | none =>
      obtain ⟨c', after, rfl | ⟨_, rfl⟩ | ⟨_, rfl⟩⟩ := call?_move_of_quiet p host acts found
      · exact ⟨_, after⟩
      · exact ⟨_, after⟩
      · exact ⟨_, after⟩
    | some e =>
      obtain ⟨ready, same⟩ := move_of_act (η := η) acts
      have taken : ({ d with ready } : Desk σ ρ ν ε).call? i = some ⟨k, .ended outcome', asked⟩ :=
        found
      rw [same]
      by_cases own : e.call? = some i
      · rw [react_of_ended taken own]
        exact ⟨_, taken⟩
      · rcases call?_react_of_ne p host own with kept | ⟨l, stopped, _⟩
        · exact ⟨_, kept.trans taken⟩
        · rw [stopped, call?_abandonRun, taken]
          split <;> exact ⟨_, rfl⟩
  | _ => simp [TestCall.outcome?] at ended

/-! ### Where a report comes from -/

/-- An event leaves the requests of an editor as they are: it is no command there, and no call
begins there. -/
def Unasked (d : Desk σ ρ ν ε) (n : Nat) (e : Event) : Prop :=
  (∀ c, e ≠ .command n c) ∧ ∀ j, ¬ d.Begins n j e

/-- The call of the latest request learns that its run has come to a report, and answers with it. -/
def Reports (d : Desk σ ρ ν ε) (n : Nat) (i : CallId) (r : Report ρ ν) (e : Event) : Prop :=
  e = .call i ∧ d.answer n (d.editor n).request false (.report r) = .report r ∧
    ∃ uri, d.call? i = some ⟨n, .awaiting uri (d.editor n).request (.ended (.report r)), false⟩

theorem report_advanceCall (sound : d.Sound p host)
    (reported : ((d.advanceCall i).editor n).report = some r) :
    ((d.editor n).report = some r ∧ d.Unasked n (.call i)) ∨ d.Reports n i r (.call i) := by
  have kept (same : (d.advanceCall i).editor n = d.editor n) (unbegun : ¬ d.Begins n i (.call i)) :
      ((d.editor n).report = some r ∧ d.Unasked n (.call i)) ∨ d.Reports n i r (.call i) := by
    refine .inl ⟨same ▸ reported, by simp, fun j begins => ?_⟩
    obtain rfl := Event.call.inj begins.1
    exact unbegun begins
  cases found : d.call? i with
  | none => exact kept (by simp [advanceCall, found]) fun begins => by simpa [found] using begins.2
  | some c =>
    obtain ⟨k, phase, asked⟩ := c
    cases phase with
    | scheduled =>
      cases asked with
      | true =>
        exact kept (by simp [advanceCall, found]) fun begins => by simpa [found] using begins.2
      | false =>
        have begins : d.advanceCall i = d.beginCall i k := by simp [advanceCall, found]
        by_cases own : n = k
        · subst own
          exfalso
          rw [begins] at reported
          cases opened : (d.editor n).uri with
          | none =>
            have before : (d.editor n).report = some r := by
              simpa [beginCall, opened] using reported
            obtain ⟨_, _, uri, _, opened', _⟩ := (sound.inOrder n).report r before
            rw [opened] at opened'
            cases opened'
          | some uri =>
            rw [editor_beginCall opened, if_pos rfl] at reported
            cases reported
        · refine kept ?_ fun begins => own ?_
          · rw [begins]
            exact editor_beginCall_of_ne own i d
          · simpa [found, eq_comm] using begins.2
    | awaiting uri request run =>
      have unbegun : ¬ d.Begins n i (.call i) := fun begins => by simpa [found] using begins.2
      cases run with
      | ended result =>
        have ends : d.advanceCall i = d.finishCall i ⟨k, .awaiting uri request (.ended result),
            asked⟩ uri request result := by simp [advanceCall, found]
        by_cases own : n = k
        · subst own
          have inside := (sound.inOrder n).lt_of_awaiting found
          rw [ends, editor_finishCall (c := ⟨n, .awaiting uri request (.ended result), asked⟩)
            inside, if_pos rfl] at reported
          cases answers : d.answer n request asked result with
          | report r' =>
            rw [answers, Editor.report_settle_report, Option.some.injEq] at reported
            subst reported
            obtain ⟨rfl, rfl, rfl, _⟩ := of_answer_eq_report answers
            exact .inr ⟨rfl, answers, uri, found⟩
          | _ =>
            rw [answers, Editor.report_settle (by simp)] at reported
            refine .inl ⟨reported, by simp, fun j begins => ?_⟩
            obtain rfl := Event.call.inj begins.1
            exact unbegun begins
        · exact kept (ends ▸ editor_finishCall_of_ne own _ _ _ _ _) unbegun
      | _ => exact kept (by simp [advanceCall, found]) unbegun
    | ended outcome =>
      exact kept (by simp [advanceCall, found]) fun begins => by simpa [found] using begins.2

/-- A report on hand after an event was on hand before and the event has asked for nothing, or the
call of the latest request learns of it. -/
theorem report_react (sound : d.Sound p host)
    (reported : ((d.react p host e).editor n).report = some r) :
    ((d.editor n).report = some r ∧ d.Unasked n e) ∨ ∃ i, d.Reports n i r e := by
  cases e with
  | call i => exact (report_advanceCall sound reported).imp id fun reports => ⟨i, reports⟩
  | run i =>
    obtain ⟨state, same⟩ := editor_advanceRun p host i n d
    have same : ((d.react p host (.run i)).editor n).report = (d.editor n).report :=
      congrArg (·.report) same
    exact .inl ⟨same ▸ reported, by simp, fun j begins => by cases begins.1⟩
  | lowering i =>
    have same : ((d.react p host (.lowering i)).editor n).report = (d.editor n).report := by
      simp only [react, finishLowering]
      split <;> rfl
    exact .inl ⟨same ▸ reported, by simp, fun j begins => by cases begins.1⟩
  | command k c =>
    by_cases own : n = k
    · subst own
      exfalso
      change (((d.perform p n c).toOption.getD d).editor n).report = some r at reported
      cases performed : d.perform p n c with
      | ok d' =>
        have cleared := Cleared.perform (sound.inOrder n) performed
        rw [performed] at reported
        exact absurd (cleared.report.symm.trans reported) (by simp)
      | error cause =>
        rw [performed] at reported
        obtain ⟨_, _, uri, _, opened, _⟩ := (sound.inOrder n).report r reported
        exact absurd ((closed_of_perform_error (sound.inOrder n) performed).symm.trans opened)
          (by simp)
    · have same : (d.react p host (.command k c)).editor n = d.editor n :=
        editor_react_of_ne (by simpa [Event.site, eq_comm] using own)
      refine .inl ⟨same ▸ reported, ?_, fun j begins => by cases begins.1⟩
      rintro c' ⟨⟩
      exact own rfl

/-! ### The call that began last -/

/-- The last request of an editor was made by this call: it began with one of the moves, and since
then no command was given in the editor and no other call began there. -/
def LastBegun (p : Bench) (host : ScriptHost σ ρ ν η ε) (d₀ : Desk σ ρ ν ε) (n : Nat) (i : CallId)
    (ms : List (Move σ)) : Prop :=
  ∃ before m behind e, ms = before ++ m :: behind ∧
    (d₀.after p host before).act m = some e ∧ (d₀.after p host before).Begins n i e ∧
    Along p host (fun d m => ¬ d.Supersedes n i m) (d₀.after p host (before ++ [m])) behind

theorem along_append_singleton {P : Desk σ ρ ν ε → Move σ → Prop} (along : Along p host P d ms)
    (last : P (d.after p host ms) m) : Along p host P d (ms ++ [m]) := by
  induction ms generalizing d with
  | nil => exact ⟨last, trivial⟩
  | cons m' ms ih => exact ⟨along.1, ih along.2 last⟩

theorem LastBegun.of_begins (acts : (d₀.after p host ms).act m = some e)
    (begins : (d₀.after p host ms).Begins n i e) : LastBegun p host d₀ n i (ms ++ [m]) :=
  ⟨ms, m, [], e, rfl, acts, begins, trivial⟩

theorem LastBegun.append_singleton (h : LastBegun p host d₀ n i ms)
    (stays : ¬ (d₀.after p host ms).Supersedes n i m) : LastBegun p host d₀ n i (ms ++ [m]) := by
  obtain ⟨before, m', behind, e, rfl, acts, begins, along⟩ := h
  refine ⟨before, m', behind ++ [m], e, by simp, acts, begins, along_append_singleton along ?_⟩
  rwa [← after_append, List.append_assoc, List.singleton_append]

/-- What is known of the call that began last: every call that waits for the run of the latest
request is that one, and so is the one that has answered with the report on hand. -/
structure Attributed (p : Bench) (host : ScriptHost σ ρ ν η ε) (d₀ : Desk σ ρ ν ε) (n : Nat)
    (ms : List (Move σ)) : Prop where
  waiting : ∀ i, (d₀.after p host ms).Waits n i ((d₀.after p host ms).editor n).request →
    LastBegun p host d₀ n i ms
  reported : ∀ r, ((d₀.after p host ms).editor n).report = some r →
    ∃ i, LastBegun p host d₀ n i ms ∧ (d₀.after p host ms).outcome? i = some (.report r)

theorem request_move_le (p : Bench) (host : ScriptHost σ ρ ν η ε) (m : Move σ) (n : Nat)
    (d : Desk σ ρ ν ε) : (d.editor n).request ≤ ((d.move p host m).editor n).request := by
  cases acts : d.act m with
  | none => exact Nat.le_of_eq (editor_move_of_quiet p host acts n).request.symm
  | some e =>
    obtain ⟨ready, same⟩ := move_of_act (η := η) acts
    rw [same]
    exact request_react_le p host e n { d with ready }

/-- A call that has waited and still waits for the run of the latest request was not superseded. -/
theorem not_supersedes_of_waits (sound : d.Sound p host)
    (before : d.Waits n i ((d.move p host m).editor n).request)
    (waits : (d.move p host m).Waits n i ((d.move p host m).editor n).request) :
    ¬ d.Supersedes n i m := by
  intro supersedes
  obtain ⟨uri, run, asked, found⟩ := before
  obtain ⟨uri', run', asked', found'⟩ := waits
  cases Spent.of_supersedes sound found supersedes with
  | waiting k _ request _ _ same old =>
    rw [found', Option.some.injEq, TestCall.mk.injEq, CallPhase.awaiting.injEq] at same
    obtain ⟨rfl, ⟨_, rfl, _⟩, _⟩ := same
    exact Nat.lt_irrefl _ old
  | superseded k asked same => simp [found'] at same
  | cancelled k same => simp [found'] at same

theorem Attributed.append_singleton (reachable : Reachable p host d₀)
    (h : Attributed p host d₀ n ms) (m : Move σ) : Attributed p host d₀ n (ms ++ [m]) := by
  have sound := (reachable.after ms).sound
  have last : d₀.after p host (ms ++ [m]) = (d₀.after p host ms).move p host m := after_append ..
  refine ⟨fun i waits => ?_, fun r reported => ?_⟩
  · rw [last] at waits
    rcases waits_move waits with before | ⟨e, acts, begins⟩
    · refine (h.waiting i ?_).append_singleton (not_supersedes_of_waits sound before waits)
      obtain ⟨uri, run, asked, found⟩ := before
      -- the latest request was made before this move, since the call has waited for its run
      have latest : ((d₀.after p host ms).editor n).request =
          (((d₀.after p host ms).move p host m).editor n).request := by
        refine Nat.le_antisymm (request_move_le p host m n _) ?_
        rcases (sound.inOrder n).calls i uri _ run asked found with latest | overtaken
        · exact Nat.le_of_eq latest.request.symm
        · exact Nat.le_of_lt overtaken.request
      exact ⟨uri, run, asked, latest ▸ found⟩
    · exact .of_begins acts begins
  · rw [last] at reported
    rw [last]
    cases acts : (d₀.after p host ms).act m with
    | none =>
      rw [(editor_move_of_quiet p host acts n).report] at reported
      obtain ⟨i, begun, answered⟩ := h.reported r reported
      refine ⟨i, begun.append_singleton ?_, outcome?_move p host answered m⟩
      rintro ⟨e, acts', _⟩
      rw [acts] at acts'
      cases acts'
    | some e =>
      obtain ⟨ready, same⟩ := move_of_act (η := η) acts
      rw [same] at reported
      rcases report_react (sound.taken ready) reported with
        ⟨before, unasked⟩ | ⟨i, rfl, answers, uri, found⟩
      · obtain ⟨i, begun, answered⟩ := h.reported r before
        refine ⟨i, begun.append_singleton ?_, outcome?_move p host answered m⟩
        rintro ⟨e', acts', what⟩
        obtain rfl := Option.some.inj (acts.symm.trans acts')
        rcases what with ⟨c, rfl⟩ | ⟨j, _, begins⟩
        · exact unasked.1 c rfl
        · exact unasked.2 j begins
      · refine ⟨i, (h.waiting i ⟨uri, _, _, found⟩).append_singleton ?_, ?_⟩
        · rintro ⟨e', acts', what⟩
          obtain rfl := Option.some.inj (acts.symm.trans acts')
          rcases what with ⟨c, same⟩ | ⟨j, other, begins⟩
          · cases same
          · exact other (Event.call.inj begins.1).symm
        · rw [same, react, advanceCall, found]
          simp [outcome?, found, answers, TestCall.outcome?]

theorem attributed_of_fresh (listening : List Bool) (buffers : Buffers) (opened : Nat)
    (generator : Generator) (world : σ) (n : Nat) (ms : List (Move σ)) :
    Attributed p host (fresh listening buffers opened generator world) n ms := by
  induction ms using List.reverseRecOn with
  | nil =>
    refine ⟨fun i waits => ?_, fun r reported => ?_⟩
    · obtain ⟨uri, run, asked, found⟩ := waits
      cases found
    · obtain ⟨listening', same⟩ := editor_fresh (ρ := ρ) (ν := ν) (ε := ε) listening buffers opened
        generator world n
      rw [after_nil, same] at reported
      cases reported
  | append_singleton ms m ih => exact ih.append_singleton (.fresh ..) m

/-- Report and state agree. Whatever moves were made: while an editor has a report on hand, no test
is under way in it, and of calls that still wait there the run is over. The report is the answer of
the call that began last in the editor, and no command was given there since. The state of the
editor is the one that this report ends in. -/
theorem report_and_state_agree (listening : List Bool) (buffers : Buffers) (opened : Nat)
    (generator : Generator) (world : σ) (ms : List (Move σ)) (n : Nat) (r : Report ρ ν) :
    let start : Desk σ ρ ν ε := fresh listening buffers opened generator world
    let d := start.after p host ms
    (d.editor n).report = some r →
      d.isBusy n = false ∧
      (∀ i uri request run asked, d.call? i = some ⟨n, .awaiting uri request run, asked⟩ →
        d.Overtaken n request run) ∧
      (∃ i, LastBegun p host start n i ms ∧ d.outcome? i = some (.report r)) ∧
      (d.editor n).state = r.state := by
  intro start d reported
  have reachable : Reachable p host d := (Reachable.fresh ..).after ms
  have inOrder := reachable.sound.inOrder n
  obtain ⟨state, current, _⟩ := inOrder.report r reported
  have attributed : Attributed p host start n ms :=
    attributed_of_fresh listening buffers opened generator world n ms
  refine ⟨?_, ?_, attributed.reported r reported, state⟩
  · simp [isBusy, current]
  · intro i uri request run asked found
    refine (inOrder.calls i uri request run asked found).resolve_left fun latest => ?_
    rw [latest.report] at reported
    cases reported

/-- An undisturbed test of a script that passes leaves a report on hand. -/
theorem grouping_agrees :
    ∃ r, ((sampleAfter groupingScript 5).editor 0).report = some r ∧
      (sampleAfter groupingScript 5).isBusy 0 = false ∧
      (∃ i, LastBegun sampleBench Execution.host sampleDesk 0 i (sampleTest groupingScript 5) ∧
        (sampleAfter groupingScript 5).outcome? i = some (.report r)) ∧
      ((sampleAfter groupingScript 5).editor 0).state = r.state := by
  obtain ⟨_, _, saved, -⟩ := exists_save_sampleAfter
  obtain ⟨s, savable⟩ := Option.isSome_iff_exists.mp (isSavable_of_save saved)
  obtain ⟨_, _, _, _, reported, _⟩ :=
    (reachable_sampleAfter groupingScript 5).sound.tests_of_savable savable
  obtain ⟨idle, _, last, state⟩ := report_and_state_agree _ _ _ _ _ _ 0 (.success s) reported
  exact ⟨.success s, reported, idle, last, state⟩

end Desk

end RuleBench
