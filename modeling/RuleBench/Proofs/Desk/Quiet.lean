import RuleBench.Proofs.Desk.Act

/-!
# Quiet moves

What the moves do that make no event happen: they leave every editor as it is, but for the rule
that it edits and whom it tells, and touch a call only by cancelling it or by opening the gate to
its run.
-/

namespace RuleBench

variable {σ ρ ν η ε : Type} {p : Bench} {host : ScriptHost σ ρ ν η ε}

namespace Desk

variable {d : Desk σ ρ ν ε} {i : CallId}

/-- A turn that makes nothing happen at most loses an event, after an interrupt. -/
theorem turn_of_quiet (p : Bench) (host : ScriptHost σ ρ ν η ε) {place : Nat}
    (quiet : d.act (.turn place : Move σ) = none) :
    ∃ ready, d.turn p host place = { d with ready } := by
  simp only [act] at quiet
  unfold turn
  split
  · next e found =>
    split at quiet
    · next stopped =>
      refine ⟨d.ready.eraseIdx place, ?_⟩
      simp only [handle, stopped, if_true]
    · rw [found] at quiet
      cases quiet
  · exact ⟨d.ready, rfl⟩

/-- Two desks that differ neither in their calls and what goes on next, nor in their buffers. -/
structure Keeps (d d' : Desk σ ρ ν ε) : Prop where
  calls : d'.calls = d.calls
  ready : d'.ready = d.ready
  buffers : d'.buffers = d.buffers
  interrupt : d'.interrupt = d.interrupt

theorem keeps_save (p : Bench) (host : ScriptHost σ ρ ν η ε) (n : Nat) (name : Data)
    (freshKey : String) (d : Desk σ ρ ν ε) :
    d.Keeps (d.move p host (.save n name freshKey)) := by
  simp only [move]
  cases saved : d.save n name freshKey with
  | error cause => exact ⟨rfl, rfl, rfl, rfl⟩
  | ok result =>
    unfold save at saved
    dsimp only at saved
    split at saved
    · cases saved
    · split at saved
      · cases saved
      · cases saved
        exact ⟨rfl, rfl, rfl, rfl⟩

theorem keeps_advance (seconds : Float) (d : Desk σ ρ ν ε) : d.Keeps (d.advance seconds) := by
  have rung (timers : List (Float × Nat)) (d : Desk σ ρ ν ε) : d.Keeps (timers.foldl ring d) := by
    induction timers generalizing d with
    | nil => exact ⟨rfl, rfl, rfl, rfl⟩
    | cons timer rest ih =>
      have rest := ih (d.ring timer)
      exact ⟨rest.calls, rest.ready, rest.buffers, rest.interrupt⟩
  have all := rung (d.due (d.now + seconds)) d
  exact ⟨all.calls, all.ready, all.buffers, all.interrupt⟩

theorem alike_release (d : Desk σ ρ ν ε) (i : CallId) : d.Alike (d.release i) := by
  unfold release
  split
  · exact (alike_setPhase _ _ _).trans (alike_schedule _ _)
  · exact .refl d

/-- Nothing but the gate itself is altered, and what waits at it. -/
theorem alike_setGate (isOpen : Bool) (d : Desk σ ρ ν ε) :
    ({ d with gateOpen := isOpen } : Desk σ ρ ν ε).Alike (d.setGate isOpen) := by
  have released (is : List CallId) (d : Desk σ ρ ν ε) : d.Alike (is.foldl release d) := by
    induction is generalizing d with
    | nil => exact .refl d
    | cons i rest ih => exact (alike_release d i).trans (ih _)
  unfold setGate
  dsimp only
  split
  · exact released _ _
  · exact .refl _

theorem alike_cancelCall (i : CallId) (d : Desk σ ρ ν ε) : d.Alike (d.cancelCall i).2 := by
  unfold cancelCall
  split
  · exact alike_markCancelled i d
  · exact (alike_markCancelled i d).trans (alike_stopRun i _)
  · exact .refl d

theorem alike_advance (seconds : Float) (d : Desk σ ρ ν ε) (n : Nat) :
    (d.editor n).Alike ((d.advance seconds).editor n) := by
  have rung (timers : List (Float × Nat)) (d : Desk σ ρ ν ε) :
      (d.editor n).Alike ((timers.foldl ring d).editor n) := by
    induction timers generalizing d with
    | nil => exact .refl _
    | cons timer rest ih =>
      have first : (d.editor n).Alike ((d.ring timer).editor n) :=
        related_alterEditor .refl (Editor.alike_fire _) _ n _
      exact first.trans (ih _)
  exact rung (d.due (d.now + seconds)) d

/-- A quiet move that neither saves a rule nor lets time go by leaves every editor as it is. -/
theorem editor_move_of_still (p : Bench) (host : ScriptHost σ ρ ν η ε) {m : Move σ}
    (quiet : d.act m = none) (unsaved : ∀ k name freshKey, m ≠ .save k name freshKey)
    (timeless : ∀ seconds, m ≠ .advance seconds) (n : Nat) :
    (d.move p host m).editor n = d.editor n := by
  cases m with
  | command k c => cases quiet
  | save k name freshKey => exact absurd rfl (unsaved k name freshKey)
  | start k => rfl
  | cancel i => exact (alike_cancelCall i d).editor n
  | update uri text =>
    simp only [move, update]
    split <;> rfl
  | turn place =>
    obtain ⟨ready, same⟩ := turn_of_quiet p host quiet
    exact congrArg (·.editor n) same
  | world world => rfl
  | gate isOpen => exact (alike_setGate isOpen d).editor n
  | afterRun command => rfl
  | advance seconds => exact absurd rfl (timeless seconds)

/-- To save a rule alters of an editor at most the rule that it edits. -/
theorem editor_move_save (p : Bench) (host : ScriptHost σ ρ ν η ε) (k : Nat) (name : Data)
    (freshKey : String) (n : Nat) (d : Desk σ ρ ν ε) :
    ∃ rawRule, (d.move p host (.save k name freshKey)).editor n = { d.editor n with rawRule } := by
  simp only [move]
  cases saved : d.save k name freshKey with
  | error cause => exact ⟨_, rfl⟩
  | ok result =>
    unfold save at saved
    dsimp only at saved
    split at saved
    · cases saved
    · split at saved
      · cases saved
      · cases saved
        exact related_alterEditor (R := fun e e' => ∃ rawRule, e' = { e with rawRule })
          (fun e => ⟨e.rawRule, rfl⟩) (fun _ => ⟨_, rfl⟩) k n d

/-- A quiet move leaves every editor as it is, but for the rule that it edits and whom it tells. -/
theorem editor_move_of_quiet (p : Bench) (host : ScriptHost σ ρ ν η ε) {m : Move σ}
    (quiet : d.act m = none) (n : Nat) :
    (d.editor n).Alike ((d.move p host m).editor n) := by
  by_cases saving : ∃ k name freshKey, m = .save k name freshKey
  · obtain ⟨k, name, freshKey, rfl⟩ := saving
    obtain ⟨rawRule, same⟩ := editor_move_save p host k name freshKey n d
    rw [same]
    exact ⟨rfl, rfl, rfl, rfl, rfl⟩
  · by_cases timed : ∃ seconds, m = .advance seconds
    · obtain ⟨seconds, rfl⟩ := timed
      exact alike_advance seconds d n
    · exact .of_eq (editor_move_of_still p host quiet
        (fun k name freshKey same => saving ⟨k, name, freshKey, same⟩)
        (fun seconds same => timed ⟨seconds, same⟩) n)

/-- Opening the gate lets every call past it whose run waits there. -/
theorem call?_release (i j : CallId) (d : Desk σ ρ ν ε) :
    (d.release j).call? i = if i = j then (d.call? i).map TestCall.letPass else d.call? i := by
  by_cases h : i = j
  · subst h
    unfold release
    split
    · next uri request a phase =>
      obtain ⟨⟨n, _, asked⟩, found, rfl⟩ := Option.map_eq_some_iff.mp phase
      simp [found, TestCall.letPass]
    · next other =>
      cases found : d.call? i with
      | none => simp
      | some c =>
        have stays : c.letPass = c := by
          unfold TestCall.letPass
          split
          · next phase => exact absurd (by rw [found, Option.map_some, phase]) (other _ _ _)
          · rfl
        simp [stays]
  · unfold release
    split <;> simp [h]

theorem call?_setGate (isOpen : Bool) (d : Desk σ ρ ν ε) (i : CallId) :
    (d.setGate isOpen).call? i =
      if isOpen then (d.call? i).map TestCall.letPass else d.call? i := by
  have released (is : List CallId) (d : Desk σ ρ ν ε) :
      (is.foldl release d).call? i =
        if i ∈ is then (d.call? i).map TestCall.letPass else d.call? i := by
    induction is generalizing d with
    | nil => simp
    | cons j rest ih =>
      rw [List.foldl_cons, ih, call?_release]
      by_cases h : i = j
      · have twice : TestCall.letPass ∘ TestCall.letPass =
            (TestCall.letPass : TestCall ρ ν ε → TestCall ρ ν ε) :=
          funext TestCall.letPass_letPass
        simp [h, twice]
      · simp [h]
  cases isOpen with
  | false => rfl
  | true =>
    have everyone := released (List.range d.calls.length) { d with gateOpen := true }
    by_cases known : i < d.calls.length
    · exact everyone.trans (if_pos (List.mem_range.mpr known))
    · have absent : d.call? i = none := List.getElem?_eq_none (Nat.le_of_not_lt known)
      rw [absent]
      exact (everyone.trans (if_neg (by simpa using known))).trans absent

/-- What a quiet move does to a call: its caller may cancel it, and its run may be let past the
gate. -/
theorem call?_move_of_quiet (p : Bench) (host : ScriptHost σ ρ ν η ε) {m : Move σ}
    (quiet : d.act m = none) {c : TestCall ρ ν ε} (found : d.call? i = some c) :
    ∃ c', (d.move p host m).call? i = some c' ∧
      (c' = c ∨ (m = .cancel i ∧ c' = { c.stop with cancelRequested := true }) ∨
        m = .gate true ∧ c' = c.letPass) := by
  have kept {d' : Desk σ ρ ν ε} (same : d'.call? i = d.call? i) : ∃ c', d'.call? i = some c' ∧
      (c' = c ∨ (m = .cancel i ∧ c' = { c.stop with cancelRequested := true }) ∨
        m = .gate true ∧ c' = c.letPass) := ⟨c, same.trans found, .inl rfl⟩
  cases m with
  | command k c => cases quiet
  | save k name freshKey =>
    exact kept (congrArg (·[i]?) (keeps_save p host k name freshKey d).calls)
  | start k =>
    refine kept ?_
    have known : i < d.calls.length := by
      refine Nat.lt_of_not_le fun beyond => ?_
      rw [call?, List.getElem?_eq_none beyond] at found
      cases found
    exact List.getElem?_append_left known
  | cancel j =>
    by_cases own : j = i
    · subst own
      obtain ⟨n, phase, asked⟩ := c
      cases phase with
      | scheduled =>
        have after : (d.move p host (.cancel j)).call? j = some ⟨n, .scheduled, true⟩ := by
          simp [move, cancelCall, found]
        exact ⟨_, after, .inr (.inl ⟨rfl, rfl⟩)⟩
      | awaiting uri request run =>
        have after : (d.move p host (.cancel j)).call? j =
            some ⟨n, .awaiting uri request run.stop, true⟩ := by
          simp [move, cancelCall, found, call?_stopRun, TestCall.stop]
        exact ⟨_, after, .inr (.inl ⟨rfl, rfl⟩)⟩
      | ended outcome => exact kept (by simp [move, cancelCall, found])
    · refine kept ?_
      simp only [move, cancelCall]
      split
      · simp [Ne.symm own]
      · simp [call?_stopRun, Ne.symm own]
      · rfl
  | update uri text =>
    refine kept ?_
    simp only [move, update]
    split <;> rfl
  | turn place =>
    obtain ⟨ready, same⟩ := turn_of_quiet p host quiet
    exact kept (congrArg (·.call? i) same)
  | world world => exact kept rfl
  | gate isOpen =>
    cases isOpen with
    | false => exact kept rfl
    | true => exact ⟨c.letPass, by simp [move, call?_setGate, found], .inr (.inr ⟨rfl, rfl⟩)⟩
  | afterRun command => exact kept rfl
  | advance seconds => exact kept (congrArg (·[i]?) (keeps_advance seconds d).calls)

theorem interrupt_move_of_quiet {m : Move σ} (quiet : d.act m = none) :
    (d.move p host m).interrupt = d.interrupt := by
  cases m with
  | command n c => cases quiet
  | save n name freshKey => exact (keeps_save p host n name freshKey d).interrupt
  | cancel i => exact (alike_cancelCall i d).interrupt
  | update uri text =>
    simp only [move, update]
    split <;> rfl
  | turn place =>
    obtain ⟨ready, same⟩ := turn_of_quiet p host quiet
    exact congrArg (·.interrupt) same
  | gate isOpen => exact (alike_setGate isOpen d).interrupt
  | advance seconds => exact (keeps_advance seconds d).interrupt
  | _ => rfl

/-- A quiet move leaves a buffer alone, unless it replaces its text. -/
theorem get?_move_of_quiet (p : Bench) (host : ScriptHost σ ρ ν η ε) {m : Move σ} {uri : String}
    (quiet : d.act m = none) (other : ∀ text, m ≠ .update uri text) :
    (d.move p host m).buffers.get? uri = d.buffers.get? uri := by
  cases m with
  | command n c => cases quiet
  | save n name freshKey =>
    exact congrArg (·.get? uri) (keeps_save p host n name freshKey d).buffers
  | cancel i => exact congrArg (·.get? uri) (alike_cancelCall i d).buffers
  | update u text =>
    simp only [move, update]
    split
    · next bs edited =>
      obtain ⟨_, _, found⟩ := Buffers.get?_of_edit edited
      have ne : uri ≠ u := by
        rintro rfl
        exact other text rfl
      exact (found uri).trans (if_neg ne)
    · rfl
  | turn place =>
    obtain ⟨ready, same⟩ := turn_of_quiet p host quiet
    exact congrArg (·.buffers.get? uri) same
  | gate isOpen => exact congrArg (·.get? uri) (alike_setGate isOpen d).buffers
  | advance seconds => exact congrArg (·.get? uri) (keeps_advance seconds d).buffers
  | _ => rfl

end Desk

end RuleBench
