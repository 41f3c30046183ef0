import RuleBench.Proofs.Desk.Quiet

/-!
# What is left to do

Every call has at most one event that is due: the one that makes it, or its run, go on. Unless there
was an interrupt, that event is ready, so that no call is ever forgotten (`Reachable.due_ready`).
Only a run that waits at the gate has none.
-/

namespace RuleBench

variable {σ ρ ν η ε : Type} {p : Bench} {host : ScriptHost σ ρ ν η ε}

namespace Desk

variable {d d' d₁ d₂ d₃ : Desk σ ρ ν ε} {n : Nat} {i j : CallId} {e : Event}

/-- What is left to do is carried over: whatever was ready still is and keeps its turn, and whatever
is due now is ready or was due before. -/
structure Carries (d d' : Desk σ ρ ν ε) : Prop where
  ready : d.ready <+: d'.ready
  due : ∀ i c' e, d'.call? i = some c' → c'.due i = some e →
    e ∈ d'.ready ∨ ∃ c, d.call? i = some c ∧ c.due i = some e

namespace Carries

theorem of_same (ready : d'.ready = d.ready) (calls : d'.calls = d.calls) : d.Carries d' where
  ready := ready ▸ List.prefix_rfl
  due i c' e found due := .inr ⟨c', by rw [call?, ← calls]; exact found, due⟩

theorem refl (d : Desk σ ρ ν ε) : d.Carries d := of_same rfl rfl

theorem trans (h₁ : d₁.Carries d₂) (h₂ : d₂.Carries d₃) : d₁.Carries d₃ where
  ready := h₁.ready.trans h₂.ready
  due i c' e found due := by
    rcases h₂.due i c' e found due with ready | ⟨c, found', due'⟩
    · exact .inl ready
    · rcases h₁.due i c e found' due' with ready | before
      · exact .inl (h₂.ready.subset ready)
      · exact .inr before

end Carries

theorem ready_schedule (e : Event) (d : Desk σ ρ ν ε) : d.ready <+: (d.schedule e).ready :=
  List.prefix_append _ _

theorem mem_ready_schedule (e : Event) (d : Desk σ ρ ν ε) : e ∈ (d.schedule e).ready := by
  simp [schedule]

/-- A call is put into another phase, whose event is made ready. -/
theorem carries_schedule {phase : CallPhase ρ ν ε} {e : Event}
    (due : ∀ c : TestCall ρ ν ε, ({ c with phase } : TestCall ρ ν ε).due i = some e) :
    d.Carries ((d.setPhase i phase).schedule e) where
  ready := ready_schedule e (d.setPhase i phase)
  due j c' e' found due' := by
    rw [call?_schedule, call?_setPhase] at found
    by_cases h : j = i
    · subst h
      rw [if_pos rfl, Option.map_eq_some_iff] at found
      obtain ⟨c, _, rfl⟩ := found
      rw [due c, Option.some.injEq] at due'
      exact .inl (due' ▸ mem_ready_schedule e _)
    · rw [if_neg h] at found
      exact .inr ⟨c', found, due'⟩

/-- A call is put into another phase, in which the same is due as before or nothing. -/
theorem carries_setPhase {phase : CallPhase ρ ν ε}
    (due : ∀ c e, d.call? i = some c →
      ({ c with phase } : TestCall ρ ν ε).due i = some e → c.due i = some e) :
    d.Carries (d.setPhase i phase) where
  ready := List.prefix_rfl
  due j c' e' found due' := by
    rw [call?_setPhase] at found
    by_cases h : j = i
    · subst h
      rw [if_pos rfl, Option.map_eq_some_iff] at found
      obtain ⟨c, found, rfl⟩ := found
      exact .inr ⟨c, found, due c e' found due'⟩
    · rw [if_neg h] at found
      exact .inr ⟨c', found, due'⟩

theorem carries_note (records : List LogRecord) (d : Desk σ ρ ν ε) : d.Carries (d.note records) :=
  .of_same rfl rfl

theorem carries_alterEditor (n : Nat) (f : Editor ρ ν → Editor ρ ν) (d : Desk σ ρ ν ε) :
    d.Carries (d.alterEditor n f) := .of_same rfl rfl

theorem carries_endCall (i : CallId) (outcome : CallOutcome ρ ν ε) (d : Desk σ ρ ν ε) :
    d.Carries (d.endCall i outcome) :=
  carries_setPhase fun _ _ _ due => by cases due

theorem carries_endRun (i : CallId) (uri : String) (request : Nat) (result : RunResult ρ ν ε)
    (d : Desk σ ρ ν ε) : d.Carries (d.endRun i uri request result) :=
  carries_schedule fun _ => rfl

/-! ### Runs that are stopped -/

/-- A run that is stopped has an event that is ready, or was due to go on already. -/
theorem carries_stopRun (i : CallId) (d : Desk σ ρ ν ε) : d.Carries (d.stopRun i) := by
  unfold stopRun
  split
  · next n uri request run asked found =>
    dsimp only
    cases run with
    | ended result => exact .refl d
    | lowering job => exact carries_schedule fun _ => rfl
    | held a => exact carries_schedule fun _ => rfl
    | _ =>
      refine carries_setPhase fun c e found' due => ?_
      rw [found, Option.some.injEq] at found'
      subst found'
      exact due
  · exact .refl d

theorem carries_abandonRun (n : Nat) (d : Desk σ ρ ν ε) : d.Carries (d.abandonRun n) := by
  unfold abandonRun
  split
  · split
    · exact (carries_note _ d).trans (carries_stopRun _ _)
    · exact .refl d
  · exact .refl d

theorem carries_release (i : CallId) (d : Desk σ ρ ν ε) : d.Carries (d.release i) := by
  unfold release
  split
  · exact carries_schedule fun _ => rfl
  · exact .refl d

/-! ### Operations of editors -/

theorem carries_invalidate (n : Nat) (d : Desk σ ρ ν ε) : d.Carries (d.invalidate n) :=
  (carries_abandonRun n d).trans (carries_alterEditor _ _ _)

theorem carries_close (n : Nat) (d : Desk σ ρ ν ε) : d.Carries (d.close n) := by
  have left := (carries_invalidate n d).trans (carries_alterEditor n Editor.leave _)
  unfold close
  dsimp only
  split
  · exact left.trans (.of_same rfl rfl)
  · exact left

theorem carries_perform {c : Command} (ok : d.perform p n c = .ok d') : d.Carries d' := by
  cases c with
  | «open» rawRule =>
    cases ok
    unfold openBuffer
    dsimp only
    split
    · exact (carries_close n d).trans (.of_same rfl rfl)
    · exact .of_same rfl rfl
  | close =>
    cases ok
    exact carries_close n d
  | edit text =>
    simp only [perform, edit] at ok
    split at ok
    · cases ok
    · split at ok
      · cases ok
      · next bs _ =>
        cases ok
        have edited : d.Carries { d with buffers := bs } := .of_same rfl rfl
        exact (edited.trans (carries_invalidate n _)).trans (carries_alterEditor _ _ _)
  | invalidate =>
    cases ok
    exact carries_invalidate n d

/-! ### Events -/

theorem carries_beginCall (i : CallId) (n : Nat) (d : Desk σ ρ ν ε) :
    d.Carries (d.beginCall i n) := by
  cases opened : (d.editor n).uri with
  | none =>
    have ends : d.beginCall i n = d.endCall i (.failed .notOpen) := by simp [beginCall, opened]
    exact ends ▸ carries_endCall i _ d
  | some uri =>
    rw [beginCall_eq opened]
    exact ((carries_abandonRun n d).trans (carries_alterEditor n _ _)).trans
      (carries_schedule fun _ => rfl)

theorem carries_finishCall (i : CallId) (c : TestCall ρ ν ε) (uri : String) (request : Nat)
    (result : RunResult ρ ν ε) (d : Desk σ ρ ν ε) :
    d.Carries (d.finishCall i c uri request result) := by
  obtain ⟨records, same⟩ := finishCall_eq i c uri request result d
  rw [same]
  exact ((carries_alterEditor _ _ d).trans (carries_note _ _)).trans (carries_endCall _ _ _)

theorem carries_followUp (n : Nat) (d : Desk σ ρ ν ε) : d.Carries (d.followUp n) := by
  unfold followUp
  split
  · exact ⟨ready_schedule _ d, fun i c e found due => .inr ⟨c, found, due⟩⟩
  · exact .refl d

theorem carries_conclude (i : CallId) (n : Nat) (uri : String) (request : Nat) (a : Artifact)
    (d : Desk σ ρ ν ε) : d.Carries (d.conclude p host i n uri request a) := by
  have absorbed : d.Carries (d.absorb n request (p.conclude host a d.generator d.world)) :=
    .of_same rfl rfl
  unfold conclude
  dsimp only
  split
  · exact (absorbed.trans (carries_followUp _ _)).trans (carries_endRun _ _ _ _ _)
  · next e _ =>
    have interrupted : d.Carries
        { d.absorb n request (p.conclude host a d.generator d.world) with interrupt := some e } :=
      .of_same rfl rfl
    split
    · exact interrupted.trans (carries_endRun _ _ _ _ _)
    · exact absorbed.trans (carries_endRun _ _ _ _ _)
    · exact absorbed.trans (carries_endRun _ _ _ _ _)

theorem carries_beginRun (i : CallId) (n : Nat) (uri : String) (request : Nat)
    (d : Desk σ ρ ν ε) : d.Carries (d.beginRun i n uri request) := by
  have reached := carries_alterEditor n (Editor.reach request .compiling) d
  unfold beginRun
  dsimp only
  split
  · exact reached.trans (carries_endRun _ _ _ _ _)
  · exact (reached.trans (carries_note _ _)).trans (carries_schedule fun _ => rfl)

theorem carries_advanceRun (i : CallId) (d : Desk σ ρ ν ε) :
    d.Carries (d.advanceRun p host i) := by
  unfold advanceRun
  split
  · split
    · exact carries_beginRun _ _ _ _ d
    · exact carries_endRun _ _ _ _ d
    · dsimp only
      split
      · exact (carries_note _ d).trans (carries_conclude _ _ _ _ _ _)
      · exact (carries_note _ d).trans (carries_setPhase fun _ _ _ due => by cases due)
    · exact carries_conclude _ _ _ _ _ d
    · exact .refl d
  · exact .refl d

theorem carries_react (p : Bench) (host : ScriptHost σ ρ ν η ε) (e : Event) (d : Desk σ ρ ν ε) :
    d.Carries (d.react p host e) := by
  cases e with
  | call i =>
    unfold react advanceCall
    dsimp only
    split
    · exact .refl d
    · split
      · split
        · exact carries_endCall _ _ d
        · exact carries_beginCall _ _ d
      · exact carries_finishCall _ _ _ _ _ d
      · exact .refl d
  | run i => exact carries_advanceRun i d
  | lowering i =>
    unfold react finishLowering
    dsimp only
    split
    · exact carries_schedule fun _ => rfl
    · exact .refl d
  | command n c =>
    change d.Carries ((d.perform p n c).toOption.getD d)
    cases performed : d.perform p n c with
    | ok d' => exact carries_perform performed
    | error cause => exact .refl d

/-! ### Events that have happened -/

/-- A run that goes past its compilation ends; it has a report only if its bench comes to one. -/
theorem call?_conclude (p : Bench) (host : ScriptHost σ ρ ν η ε) (i : CallId) (n : Nat)
    (uri : String) (request : Nat) (a : Artifact)
    (d : Desk σ ρ ν ε) : ∃ result, (d.conclude p host i n uri request a).call? i =
      ((d.call? i).map fun c => { c with phase := .awaiting uri request (.ended result) }) ∧
      ∀ r, result = .report r → (p.conclude host a d.generator d.world).1.result = .ok r := by
  unfold conclude
  dsimp only
  split
  · next r concluded =>
    refine ⟨.report r, ?_, ?_⟩
    · rw [call?_endRun, if_pos rfl, call?_followUp]
      rfl
    · rintro _ ⟨⟩
      exact concluded
  · split <;> exact ⟨_, (call?_endRun _ _ _ _ _ _).trans (if_pos rfl), by simp⟩

/-- When a run goes on, it waits for something else. -/
theorem due_advanceRun {uri : String} {request : Nat} {run : RunPhase ρ ν ε} {asked : Bool}
    (found : d.call? i = some ⟨n, .awaiting uri request run, asked⟩)
    (due : run.due i = some (.run i)) {c' : TestCall ρ ν ε} (found' : (d.advanceRun p host i).call? i = some c') :
    c'.due i ≠ some (.run i) := by
  have concluded {d' : Desk σ ρ ν ε} {a : Artifact} (same : d'.call? i = d.call? i)
      (found' : (d'.conclude p host i n uri request a).call? i = some c') :
      c'.due i ≠ some (.run i) := by
    obtain ⟨result, after, _⟩ := call?_conclude p host i n uri request a d'
    have ended : c' = ⟨n, .awaiting uri request (.ended result), asked⟩ := by
      simpa [after, same, found, eq_comm] using found'
    simp [ended, TestCall.due, RunPhase.due]
  simp only [advanceRun, found] at found'
  cases run with
  | scheduled =>
    simp only [beginRun] at found'
    split at found'
    · next cause _ =>
      have ended : c' = ⟨n, .awaiting uri request (.ended (.notRegistered cause)), asked⟩ := by
        simpa [found, eq_comm] using found'
      simp [ended, TestCall.due, RunPhase.due]
    · next job _ =>
      have started : c' = ⟨n, .awaiting uri request (.lowering job), asked⟩ := by
        simpa [found, eq_comm] using found'
      simp [started, TestCall.due, RunPhase.due]
  | lowered a =>
    dsimp only at found'
    split at found'
    · exact concluded (call?_note _ d i) found'
    · have waits : c' = ⟨n, .awaiting uri request (.held a), asked⟩ := by
        simpa [found, eq_comm] using found'
      simp [waits, TestCall.due, RunPhase.due]
  | released a => exact concluded rfl found'
  | stopping =>
    have ended : c' = ⟨n, .awaiting uri request (.ended .cancelled), asked⟩ := by
      simpa [found, eq_comm] using found'
    simp [ended, TestCall.due, RunPhase.due]
  | lowering job => cases due
  | held a => cases due
  | ended result => cases due

/-- When a call goes on by itself, it waits for its run or has answered. -/
theorem due_advanceCall {c : TestCall ρ ν ε} (found : d.call? i = some c)
    (due : c.due i = some (.call i)) {c' : TestCall ρ ν ε}
    (found' : (d.advanceCall i).call? i = some c') : c'.due i ≠ some (.call i) := by
  obtain ⟨n, phase, asked⟩ := c
  cases phase with
  | scheduled =>
    cases asked with
    | true =>
      have ended : c' = ⟨n, .ended .cancelled, true⟩ := by
        simpa [advanceCall, found, eq_comm] using found'
      simp [ended, TestCall.due]
    | false =>
      have begins : d.advanceCall i = d.beginCall i n := by simp [advanceCall, found]
      rw [begins] at found'
      cases opened : (d.editor n).uri with
      | none =>
        have ended : c' = ⟨n, .ended (.failed .notOpen), false⟩ := by
          simpa [beginCall, opened, found, eq_comm] using found'
        simp [ended, TestCall.due]
      | some uri =>
        have begun : c' = ⟨n, .awaiting uri ((d.editor n).request + 1) .scheduled, false⟩ := by
          simpa [call?_beginCall opened, call?_abandonRun, found, TestCall.stop, eq_comm]
            using found'
        simp [begun, TestCall.due, RunPhase.due]
  | awaiting uri request run =>
    cases run with
    | ended result =>
      have ended : c' = ⟨n, .ended (d.answer n request asked result), asked⟩ := by
        simpa [advanceCall, found, eq_comm] using found'
      simp [ended, TestCall.due]
    | _ => cases due
  | ended outcome => cases due

/-- An event that has happened is due no more. -/
theorem due_react (own : e.call? = some i) {c' : TestCall ρ ν ε}
    (found' : (d.react p host e).call? i = some c') : c'.due i ≠ some e := by
  cases found : d.call? i with
  | none =>
    have idle : d.react p host e = d := by
      cases e with
      | command k c => cases own
      | _ =>
        obtain rfl := Option.some.inj own
        simp [react, advanceCall, advanceRun, finishLowering, found]
    simp [idle, found] at found'
  | some c =>
    by_cases due : c.due i = some e
    · cases e with
      | call j =>
        obtain rfl : j = i := by simpa [Event.call?] using own
        exact due_advanceCall found due found'
      | run j =>
        obtain rfl : j = i := by simpa [Event.call?] using own
        obtain ⟨n, phase, asked⟩ := c
        cases phase with
        | awaiting uri request run => exact due_advanceRun found due found'
        | _ => cases due
      | lowering j =>
        obtain rfl : j = i := by simpa [Event.call?] using own
        obtain ⟨n, phase, asked⟩ := c
        cases phase with
        | awaiting uri request run =>
          cases run with
          | lowering job =>
            have lowered : c' = ⟨n, .awaiting uri request (.lowered job.finish), asked⟩ := by
              simpa [react, finishLowering, found, eq_comm] using found'
            simp [lowered, TestCall.due, RunPhase.due]
          | _ => cases due
        | _ => cases due
      | command k c => cases own
    · rw [react_of_not_due own found due, found, Option.some.injEq] at found'
      exact found' ▸ due

/-! ### Moves -/

theorem interrupt_perform {c : Command} (ok : d.perform p n c = .ok d') :
    d'.interrupt = d.interrupt := by
  have closed : (d.close n).interrupt = d.interrupt := by
    unfold close
    dsimp only
    split <;> exact (alike_abandonRun n d).interrupt
  cases c with
  | «open» rawRule =>
    cases ok
    unfold openBuffer
    dsimp only
    split
    · exact closed
    · rfl
  | close =>
    cases ok
    exact closed
  | edit text =>
    simp only [perform, edit] at ok
    split at ok
    · cases ok
    · split at ok
      · cases ok
      · next bs _ =>
        cases ok
        exact (alike_abandonRun n { d with buffers := bs }).interrupt
  | invalidate =>
    cases ok
    exact (alike_abandonRun n d).interrupt

/-- Nothing takes an interrupt back. -/
theorem interrupt_of_move {m : Move σ} (h : (d.move p host m).interrupt = none) :
    d.interrupt = none := by
  cases acts : d.act m with
  | none => rwa [interrupt_move_of_quiet acts] at h
  | some e =>
    cases m with
    | command n c =>
      change ((d.perform p n c).toOption.getD d).interrupt = none at h
      cases performed : d.perform p n c with
      | ok d' =>
        rw [performed] at h
        exact (interrupt_perform performed).symm.trans h
      | error cause => rwa [performed] at h
    | turn place =>
      simp only [act] at acts
      split at acts
      · cases acts
      · next going => simpa using going
    | _ => cases acts

theorem carries_startCall (n : Nat) (d : Desk σ ρ ν ε) : d.Carries (d.startCall n).2 where
  ready := List.prefix_append _ _
  due i c' e found due := by
    change (d.calls ++ [{ editor := n }])[i]? = some c' at found
    rw [List.getElem?_append] at found
    split at found
    · exact .inr ⟨c', found, due⟩
    · next beyond =>
      rw [List.getElem?_singleton] at found
      split at found
      · next first =>
        cases found
        cases due
        have last : i = d.calls.length :=
          Nat.le_antisymm (Nat.le_of_sub_eq_zero first) (Nat.le_of_not_lt beyond)
        exact .inl (last ▸ mem_ready_schedule _ _)
      · cases found

theorem carries_markCancelled (i : CallId) (d : Desk σ ρ ν ε) : d.Carries (d.markCancelled i) where
  ready := List.prefix_rfl
  due j c' e found due := by
    rw [call?_markCancelled] at found
    split at found
    · next own =>
      subst own
      obtain ⟨c, before, rfl⟩ := Option.map_eq_some_iff.mp found
      exact .inr ⟨c, before, due⟩
    · exact .inr ⟨c', found, due⟩

theorem carries_cancelCall (i : CallId) (d : Desk σ ρ ν ε) : d.Carries (d.cancelCall i).2 := by
  unfold cancelCall
  split
  · exact carries_markCancelled i d
  · exact (carries_markCancelled i d).trans (carries_stopRun i _)
  · exact .refl d

theorem carries_setGate (isOpen : Bool) (d : Desk σ ρ ν ε) : d.Carries (d.setGate isOpen) := by
  have released (is : List CallId) (d : Desk σ ρ ν ε) : d.Carries (is.foldl release d) := by
    induction is generalizing d with
    | nil => exact .refl d
    | cons i rest ih => exact (carries_release i d).trans (ih _)
  have set : d.Carries { d with gateOpen := isOpen } := .of_same rfl rfl
  unfold setGate
  dsimp only
  split
  · exact set.trans (released _ _)
  · exact set

/-- A move that is no turn of the loop loses nothing of what is left to do. -/
theorem carries_move (p : Bench) (host : ScriptHost σ ρ ν η ε) {m : Move σ}
    (other : ∀ place, m ≠ .turn place) :
    d.Carries (d.move p host m) := by
  cases m with
  | command n c => exact carries_react p host (.command n c) d
  | save n name freshKey =>
    have keeps := keeps_save p host n name freshKey d
    exact .of_same keeps.ready keeps.calls
  | start n => exact carries_startCall n d
  | cancel i => exact carries_cancelCall i d
  | update uri text =>
    simp only [move, update]
    split
    · exact .of_same rfl rfl
    · exact .refl d
  | turn place => exact absurd rfl (other place)
  | world world => exact .of_same rfl rfl
  | gate isOpen => exact carries_setGate isOpen d
  | afterRun command => exact .of_same rfl rfl
  | advance seconds =>
    exact .of_same (keeps_advance seconds d).ready (keeps_advance seconds d).calls

/-- Every event that is due is ready. -/
def Driven (d : Desk σ ρ ν ε) : Prop :=
  ∀ i c e, d.call? i = some c → c.due i = some e → e ∈ d.ready

theorem Carries.driven (h : d.Carries d') (driven : d.Driven) : d'.Driven := by
  intro i c' e found due
  rcases h.due i c' e found due with ready | ⟨c, found, due⟩
  · exact ready
  · exact h.ready.subset (driven i c e found due)

theorem mem_eraseIdx_of_ne {l : List Event} {place : Nat} {e e' : Event}
    (first : l[place]? = some e) (ne : e' ≠ e) (member : e' ∈ l) : e' ∈ l.eraseIdx place := by
  obtain ⟨k, found⟩ := List.mem_iff_getElem?.mp member
  refine List.mem_eraseIdx_iff_getElem?.mpr ⟨k, ?_, found⟩
  rintro rfl
  rw [first, Option.some.injEq] at found
  exact ne found.symm

/-- The event that happens is due no more; all others stay ready. -/
theorem Driven.turn (h : d.Driven) (place : Nat) (going : d.interrupt = none) :
    (d.turn p host place).Driven := by
  unfold Desk.turn
  split
  · next e first =>
    have handled : ({ d with ready := d.ready.eraseIdx place } : Desk σ ρ ν ε).handle p host e =
        ({ d with ready := d.ready.eraseIdx place } : Desk σ ρ ν ε).react p host e := by
      simp [handle, going]
    rw [handled]
    have carries := carries_react p host e
      ({ d with ready := d.ready.eraseIdx place } : Desk σ ρ ν ε)
    intro i c' e' found' due'
    rcases carries.due i c' e' found' due' with ready | ⟨c, found, due⟩
    · exact ready
    · have ne : e' ≠ e := by
        rintro rfl
        exact due_react (TestCall.call?_of_due due') found' due'
      exact carries.ready.subset (mem_eraseIdx_of_ne first ne (h i c e' found due))
  · exact h

/-- No call is ever forgotten: what is due is ready, as long as there was no interrupt. -/
theorem Reachable.due_ready (h : Reachable p host d) (going : d.interrupt = none) : d.Driven := by
  induction h with
  | fresh listening buffers opened generator world =>
    intro i c e found
    cases found
  | move m _ ih =>
    have before := interrupt_of_move going
    by_cases turns : ∃ place, m = .turn place
    · obtain ⟨place, rfl⟩ := turns
      exact (ih before).turn place before
    · exact (carries_move p host fun place same => turns ⟨place, same⟩).driven (ih before)

end Desk

end RuleBench
