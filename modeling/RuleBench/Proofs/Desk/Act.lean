import RuleBench.Proofs.Desk.Sound

/-!
# What a move acts on

A move either makes an event happen, at once or by the loop (`act`), or it is a quiet one that
leaves all editors and runs alone. An event happens in one editor. It may stop the run of that
editor's latest request, and beyond that it touches no call but its own.
-/

namespace RuleBench

variable {σ ρ ν η ε : Type} {p : Bench} {host : ScriptHost σ ρ ν η ε}

namespace Event

/-- The call that an event belongs to. -/
def call? : Event → Option CallId
  | call i => some i
  | run i => some i
  | lowering i => some i
  | command _ _ => none

/-- The editor in which an event happens. -/
def site (d : Desk σ ρ ν ε) : Event → Option Nat
  | call i => (d.call? i).map TestCall.editor
  | run i => (d.call? i).map TestCall.editor
  | lowering i => (d.call? i).map TestCall.editor
  | command n _ => some n

end Event

/-- The event with which the run of a call goes on, or with which the call learns that it ended. -/
def RunPhase.due (i : CallId) : RunPhase ρ ν ε → Option Event
  | scheduled => some (.run i)
  | lowering _ => some (.lowering i)
  | lowered _ => some (.run i)
  | held _ => none
  | released _ => some (.run i)
  | stopping => some (.run i)
  | ended _ => some (.call i)

/-- The event with which a call goes on. -/
def TestCall.due (i : CallId) (c : TestCall ρ ν ε) : Option Event :=
  match c.phase with
  | .scheduled => some (.call i)
  | .awaiting _ _ run => run.due i
  | .ended _ => none

theorem TestCall.call?_of_due {i : CallId} {c : TestCall ρ ν ε} {e : Event}
    (due : c.due i = some e) : e.call? = some i := by
  obtain ⟨n, phase, asked⟩ := c
  cases phase with
  | scheduled =>
    cases due
    rfl
  | awaiting uri request run => cases run <;> cases due <;> rfl
  | ended outcome => cases due

namespace Desk

variable {d d' : Desk σ ρ ν ε} {m n : Nat} {i j : CallId} {e : Event}

/-- The event that a move makes happen. The loop does nothing any more after an interrupt. -/
def act (d : Desk σ ρ ν ε) : Move σ → Option Event
  | .command n c => some (.command n c)
  | .turn place => if d.interrupt.isSome then none else d.ready[place]?
  | _ => none

/-- An event of a call that is not due does nothing. -/
theorem react_of_not_due (own : e.call? = some i) {c : TestCall ρ ν ε} (found : d.call? i = some c)
    (undue : c.due i ≠ some e) : d.react p host e = d := by
  obtain ⟨n, phase, asked⟩ := c
  cases e with
  | call j =>
    obtain rfl : j = i := by simpa [Event.call?] using own
    cases phase with
    | scheduled => exact absurd rfl undue
    | awaiting uri request run =>
      cases run with
      | ended result => exact absurd rfl undue
      | _ => simp [react, advanceCall, found]
    | ended outcome => simp [react, advanceCall, found]
  | run j =>
    obtain rfl : j = i := by simpa [Event.call?] using own
    cases phase with
    | awaiting uri request run =>
      cases run with
      | lowering job => simp [react, advanceRun, found]
      | held a => simp [react, advanceRun, found]
      | ended result => simp [react, advanceRun, found]
      | _ => exact absurd rfl undue
    | _ => simp [react, advanceRun, found]
  | lowering j =>
    obtain rfl : j = i := by simpa [Event.call?] using own
    cases phase with
    | awaiting uri request run =>
      cases run with
      | lowering job => exact absurd rfl undue
      | _ => simp [react, finishLowering, found]
    | _ => simp [react, finishLowering, found]
  | command n c => cases own

/-- A move that makes an event happen does what the event does. -/
theorem move_of_act {m : Move σ} (h : d.act m = some e) :
    ∃ ready, ∀ (p : Bench) (host : ScriptHost σ ρ ν η ε),
      d.move p host m = ({ d with ready } : Desk σ ρ ν ε).react p host e := by
  cases m with
  | command n c =>
    cases h
    exact ⟨d.ready, fun _ _ => rfl⟩
  | turn place =>
    simp only [act] at h
    split at h
    · cases h
    · next going =>
      have going : d.interrupt.isSome = false := by simpa using going
      exact ⟨d.ready.eraseIdx place, fun _ _ => by simp [move, turn, h, handle, going]⟩
  | _ => cases h

/-! ### Other editors -/

theorem editor_abandonRun (n m : Nat) (d : Desk σ ρ ν ε) :
    (d.abandonRun n).editor m = d.editor m := (alike_abandonRun n d).editor m

theorem editor_close_of_ne (other : m ≠ n) (d : Desk σ ρ ν ε) :
    (d.close n).editor m = d.editor m := by
  have left : ((d.invalidate n).alterEditor n Editor.leave).editor m = d.editor m := by
    rw [editor_alterEditor_of_ne other, editor_invalidate_of_ne other]
  unfold close
  dsimp only
  split <;> exact left

theorem editor_openBuffer_of_ne (other : m ≠ n) (rawRule : Option RawRule) (d : Desk σ ρ ν ε) :
    (d.openBuffer p n rawRule).editor m = d.editor m := by
  unfold openBuffer
  dsimp only
  split
  · rw [editor_note, editor_alterEditor_of_ne other]
    exact editor_close_of_ne other d
  · rw [editor_note, editor_alterEditor_of_ne other]
    rfl

theorem editor_perform_of_ne (other : m ≠ n) {c : Command} (ok : d.perform p n c = .ok d') :
    d'.editor m = d.editor m := by
  cases c with
  | «open» rawRule =>
    cases ok
    exact editor_openBuffer_of_ne other rawRule d
  | close =>
    cases ok
    exact editor_close_of_ne other d
  | edit text =>
    simp only [perform, edit] at ok
    split at ok
    · cases ok
    · split at ok
      · cases ok
      · cases ok
        rw [editor_alterEditor_of_ne other, editor_invalidate_of_ne other]
        rfl
  | invalidate =>
    cases ok
    exact editor_invalidate_of_ne other

theorem editor_beginCall_of_ne (other : m ≠ n) (i : CallId) (d : Desk σ ρ ν ε) :
    (d.beginCall i n).editor m = d.editor m := by
  cases opened : (d.editor n).uri with
  | none => simp [beginCall, opened]
  | some uri => rw [editor_beginCall opened, if_neg other]

theorem editor_finishCall_of_ne {c : TestCall ρ ν ε} (other : m ≠ c.editor) (i : CallId)
    (uri : String) (request : Nat) (result : RunResult ρ ν ε) (d : Desk σ ρ ν ε) :
    (d.finishCall i c uri request result).editor m = d.editor m := by
  rw [(alike_finishCall i c uri request result d).editor, editor_alterEditor_of_ne other]

theorem editor_conclude_of_ne (other : m ≠ n) (i : CallId) (uri : String) (request : Nat)
    (a : Artifact) (d : Desk σ ρ ν ε) :
    (d.conclude p host i n uri request a).editor m = d.editor m := by
  have absorbed : (d.absorb n request (p.conclude host a d.generator d.world)).editor m =
      d.editor m := editor_alterEditor_of_ne other
  unfold conclude
  dsimp only
  split
  · rw [editor_endRun, (alike_followUp _ _).editor, absorbed]
  · split <;> exact absorbed

theorem editor_advanceRun_of_ne {c : TestCall ρ ν ε} (found : d.call? i = some c)
    (other : m ≠ c.editor) : (d.advanceRun p host i).editor m = d.editor m := by
  unfold advanceRun
  split
  · next n uri request run asked found' =>
    rw [found, Option.some.injEq] at found'
    subst found'
    split
    · have reached : (d.alterEditor n (Editor.reach request .compiling)).editor m = d.editor m :=
        editor_alterEditor_of_ne other
      unfold beginRun
      dsimp only
      split <;> exact reached
    · rfl
    · dsimp only
      split
      · exact editor_conclude_of_ne other _ _ _ _ _
      · rfl
    · exact editor_conclude_of_ne other _ _ _ _ _
    · rfl
  · rfl

/-- An event leaves all editors alone but the one in which it happens. -/
theorem editor_react_of_ne (other : e.site d ≠ some n) :
    (d.react p host e).editor n = d.editor n := by
  cases e with
  | call i =>
    unfold react advanceCall
    dsimp only
    split
    · rfl
    · next c found =>
      have other : n ≠ c.editor := by simpa [Event.site, found, eq_comm] using other
      split
      · split
        · rfl
        · exact editor_beginCall_of_ne other i d
      · exact editor_finishCall_of_ne other _ _ _ _ _
      · rfl
  | run i =>
    cases found : d.call? i with
    | none => simp [react, advanceRun, found]
    | some c =>
      have other : n ≠ c.editor := by simpa [Event.site, found, eq_comm] using other
      exact editor_advanceRun_of_ne found other
  | lowering i =>
    unfold react finishLowering
    dsimp only
    split <;> rfl
  | command k c =>
    have other : n ≠ k := by simpa [Event.site, eq_comm] using other
    change ((d.perform p k c).toOption.getD d).editor n = _
    cases performed : d.perform p k c with
    | ok d' => exact editor_perform_of_ne other performed
    | error cause => rfl

/-! ### Other calls -/

theorem call?_close (n : Nat) (d : Desk σ ρ ν ε) (i : CallId) :
    (d.close n).call? i = (d.abandonRun n).call? i := by
  unfold close
  dsimp only
  split <;> rfl

/-- A command stops the run of its editor's latest request, or no run at all. -/
theorem call?_perform {c : Command} (ok : d.perform p n c = .ok d') (i : CallId) :
    d'.call? i = d.call? i ∨ d'.call? i = (d.abandonRun n).call? i := by
  cases c with
  | «open» rawRule =>
    cases ok
    unfold openBuffer
    dsimp only
    split
    · exact .inr (call?_close n d i)
    · exact .inl rfl
  | close =>
    cases ok
    exact .inr (call?_close n d i)
  | edit text =>
    simp only [perform, edit] at ok
    split at ok
    · cases ok
    · split at ok
      · cases ok
      · cases ok
        right
        rw [call?_alterEditor, call?_invalidate, call?_abandonRun, call?_abandonRun]
        rfl
  | invalidate =>
    cases ok
    exact .inr rfl

theorem call?_conclude_of_ne (other : i ≠ j) (n : Nat) (uri : String) (request : Nat)
    (a : Artifact) (d : Desk σ ρ ν ε) :
    (d.conclude p host j n uri request a).call? i = d.call? i := by
  unfold conclude
  dsimp only
  split
  · rw [call?_endRun, if_neg other, call?_followUp]
    rfl
  · split <;> exact (call?_endRun _ _ _ _ _ _).trans (if_neg other)

theorem call?_advanceRun_of_ne (other : i ≠ j) (d : Desk σ ρ ν ε) :
    (d.advanceRun p host j).call? i = d.call? i := by
  unfold advanceRun
  split
  · split
    · unfold beginRun
      dsimp only
      split
      · simp [other]
      · simp [other]
    · simp [other]
    · dsimp only
      split
      · exact call?_conclude_of_ne other _ _ _ _ _
      · simp [other]
    · exact call?_conclude_of_ne other _ _ _ _ _
    · rfl
  · rfl

/-- A call begins when this event happens: it was made in an editor and not cancelled meanwhile. -/
def Begins (d : Desk σ ρ ν ε) (n : Nat) (j : CallId) (e : Event) : Prop :=
  e = .call j ∧ d.call? j = some ⟨n, .scheduled, false⟩

/-- An event takes effect on the calls of others only by stopping the run of the latest request of
its editor: a command does, and a call that begins. -/
theorem call?_react_of_ne (p : Bench) (host : ScriptHost σ ρ ν η ε) (other : e.call? ≠ some i) :
    (d.react p host e).call? i = d.call? i ∨
      ∃ n, (d.react p host e).call? i = (d.abandonRun n).call? i ∧
        ((∃ c, e = .command n c) ∨ ∃ j, j ≠ i ∧ d.Begins n j e) := by
  cases e with
  | call j =>
    have other : i ≠ j := by simpa [Event.call?, eq_comm] using other
    unfold react advanceCall
    dsimp only
    split
    · exact .inl rfl
    · next c found =>
      obtain ⟨n, phase, asked⟩ := c
      dsimp only
      split
      · split
        · exact .inl (by simp [other])
        · next unasked =>
          obtain rfl : asked = false := by simpa using unasked
          cases opened : (d.editor n).uri with
          | none => exact .inl (by simp [beginCall, opened, other])
          | some uri =>
            refine .inr ⟨n, ?_, .inr ⟨j, other.symm, rfl, found⟩⟩
            rw [call?_beginCall opened, if_neg other]
      · exact .inl (by simp [other])
      · exact .inl rfl
  | run j =>
    have other : i ≠ j := by simpa [Event.call?, eq_comm] using other
    exact .inl (call?_advanceRun_of_ne other d)
  | lowering j =>
    have other : i ≠ j := by simpa [Event.call?, eq_comm] using other
    unfold react finishLowering
    dsimp only
    split
    · exact .inl (by simp [other])
    · exact .inl rfl
  | command n c =>
    change ((d.perform p n c).toOption.getD d).call? i = _ ∨ _
    cases performed : d.perform p n c with
    | ok d' =>
      cases call?_perform performed i with
      | inl same => exact .inl same
      | inr stopped => 
        refine .inr ⟨n, ?_, .inl ⟨c, rfl⟩⟩
        change ((d.perform p n c).toOption.getD d).call? i = _
        rw [performed]
        exact stopped
    | error cause => exact .inl rfl

/-! ### Other buffers -/

theorem buffers_invalidate (n : Nat) (d : Desk σ ρ ν ε) : (d.invalidate n).buffers = d.buffers :=
  (alike_abandonRun n d).buffers

theorem opened_close (n : Nat) (d : Desk σ ρ ν ε) : (d.close n).opened = d.opened := by
  unfold close
  dsimp only
  split <;> exact (alike_abandonRun n d).opened

theorem get?_close_of_ne (sound : d.Sound p host) {uri : String}
    (opened : (d.editor m).uri = some uri) (other : m ≠ n) :
    (d.close n).buffers.get? uri = d.buffers.get? uri := by
  have same := congrArg (·.get? uri) (buffers_invalidate n d)
  unfold close
  dsimp only
  split
  · next uri' opened' =>
    have ne : uri ≠ uri' := by
      rintro rfl
      exact (sound.invalidate n).apart m n uri other
        ((editor_invalidate_of_ne other).symm ▸ opened) opened'
    exact ((Buffers.get?_erase _ _ _).trans (if_neg ne)).trans same
  · exact same

theorem get?_openBuffer_of_ne (sound : d.Sound p host) {uri : String}
    (opened : (d.editor m).uri = some uri) (other : m ≠ n) (rawRule : Option RawRule) :
    (d.openBuffer p n rawRule).buffers.get? uri = d.buffers.get? uri := by
  have ne := (sound.inOrder m).ne_bufferUri opened
  unfold openBuffer
  dsimp only
  split
  · have ne : uri ≠ bufferUri (d.close n).opened := by rwa [opened_close]
    exact ((Buffers.get?_insert _ _ _ _).trans (if_neg ne)).trans
      (get?_close_of_ne sound opened other)
  · exact (Buffers.get?_insert _ _ _ _).trans (if_neg ne)

/-- A command leaves the buffers of all other editors alone. -/
theorem get?_perform_of_ne (sound : d.Sound p host) {uri : String}
    (opened : (d.editor m).uri = some uri) (other : m ≠ n) {c : Command}
    (ok : d.perform p n c = .ok d') : d'.buffers.get? uri = d.buffers.get? uri := by
  cases c with
  | «open» rawRule =>
    cases ok
    exact get?_openBuffer_of_ne sound opened other rawRule
  | close =>
    cases ok
    exact get?_close_of_ne sound opened other
  | edit text =>
    simp only [perform, edit] at ok
    split at ok
    · cases ok
    · next uri' opened' =>
      split at ok
      · cases ok
      · next bs edited =>
        cases ok
        obtain ⟨_, _, found⟩ := Buffers.get?_of_edit edited
        have ne : uri ≠ uri' := by
          rintro rfl
          exact sound.apart m n uri other opened opened'
        have same := buffers_invalidate n ({ d with buffers := bs } : Desk σ ρ ν ε)
        exact (congrArg (·.get? uri) same).trans ((found uri).trans (if_neg ne))
  | invalidate =>
    cases ok
    exact congrArg (·.get? uri) (buffers_invalidate n d)

/-! ### Requests -/

theorem request_alterEditor_le {f : Editor ρ ν → Editor ρ ν} (h : ∀ e, e.request ≤ (f e).request)
    (n m : Nat) (d : Desk σ ρ ν ε) :
    (d.editor m).request ≤ ((d.alterEditor n f).editor m).request :=
  related_alterEditor (R := fun e e' => e.request ≤ e'.request) (fun _ => Nat.le_refl _) h n m d

theorem request_invalidate_le (n m : Nat) (d : Desk σ ρ ν ε) :
    (d.editor m).request ≤ ((d.invalidate n).editor m).request := by
  rw [← editor_abandonRun n m d]
  exact request_alterEditor_le (f := Editor.forget) (fun e => Nat.le_succ e.request) n m _

theorem request_close_le (n m : Nat) (d : Desk σ ρ ν ε) :
    (d.editor m).request ≤ ((d.close n).editor m).request := by
  have left : (d.editor m).request ≤
      (((d.invalidate n).alterEditor n Editor.leave).editor m).request :=
    Nat.le_trans (request_invalidate_le n m d)
      (request_alterEditor_le (f := Editor.leave) (fun _ => Nat.le_refl _) n m _)
  unfold close
  dsimp only
  split <;> exact left

theorem request_perform_le {c : Command} (ok : d.perform p n c = .ok d') (m : Nat) :
    (d.editor m).request ≤ (d'.editor m).request := by
  cases c with
  | «open» rawRule =>
    cases ok
    unfold openBuffer
    dsimp only
    split
    · exact Nat.le_trans (request_close_le n m d)
        (request_alterEditor_le (f := Editor.enter rawRule _) (fun _ => Nat.le_refl _) n m _)
    · exact request_alterEditor_le (f := Editor.enter rawRule _) (fun _ => Nat.le_refl _) n m _
  | close =>
    cases ok
    exact request_close_le n m d
  | edit text =>
    simp only [perform, edit] at ok
    split at ok
    · cases ok
    · split at ok
      · cases ok
      · next bs _ =>
        cases ok
        exact Nat.le_trans (request_invalidate_le n m { d with buffers := bs })
          (request_alterEditor_le (fun e => Nat.le_of_eq (Editor.alike_announce _ _ e).request.symm)
            n m _)
  | invalidate =>
    cases ok
    exact request_invalidate_le n m d

theorem request_beginCall_le (i : CallId) (n m : Nat) (d : Desk σ ρ ν ε) :
    (d.editor m).request ≤ ((d.beginCall i n).editor m).request := by
  cases opened : (d.editor n).uri with
  | none => simp [beginCall, opened]
  | some uri =>
    rw [editor_beginCall opened]
    split
    · next same => exact same ▸ Nat.le_succ _
    · exact Nat.le_refl _

/-- Of an editor at most the state is altered. -/
theorem editor_alterEditor_state {f : Editor ρ ν → Editor ρ ν}
    (h : ∀ e, ∃ state, f e = { e with state }) (n m : Nat) (d : Desk σ ρ ν ε) :
    ∃ state, (d.alterEditor n f).editor m = { d.editor m with state } :=
  related_alterEditor (R := fun e e' => ∃ state, e' = { e with state }) (fun e => ⟨e.state, rfl⟩) h
    n m d

theorem reach_state (request : Nat) (s : RunState) (e : Editor ρ ν) :
    ∃ state, e.reach request s = { e with state } := by
  unfold Editor.reach
  split
  · exact ⟨s, rfl⟩
  · exact ⟨e.state, rfl⟩

theorem foldl_reach_state (request : Nat) (states : List RunState) (e : Editor ρ ν) :
    ∃ state, states.foldl (fun e s => e.reach request s) e = { e with state } := by
  induction states generalizing e with
  | nil => exact ⟨e.state, rfl⟩
  | cons s rest ih =>
    obtain ⟨first, reached⟩ := reach_state request s e
    obtain ⟨state, same⟩ := ih (e.reach request s)
    exact ⟨state, by rw [List.foldl_cons, same, reached]⟩

theorem editor_conclude (i : CallId) (n : Nat) (uri : String) (request : Nat) (a : Artifact)
    (m : Nat) (d : Desk σ ρ ν ε) :
    ∃ state, (d.conclude p host i n uri request a).editor m = { d.editor m with state } := by
  have absorbed : ∃ state,
      (d.absorb n request (p.conclude host a d.generator d.world)).editor m =
        { d.editor m with state } :=
    editor_alterEditor_state (foldl_reach_state request _) n m _
  unfold conclude
  dsimp only
  split
  · rwa [editor_endRun, (alike_followUp _ _).editor]
  · split <;> exact absorbed

/-- Of an editor a run that goes on alters at most the state. -/
theorem editor_advanceRun (p : Bench) (host : ScriptHost σ ρ ν η ε) (i : CallId) (m : Nat)
    (d : Desk σ ρ ν ε) :
    ∃ state, (d.advanceRun p host i).editor m = { d.editor m with state } := by
  unfold advanceRun
  split
  · next n uri request run _ _ =>
    split
    · have reached : ∃ state, (d.alterEditor n (Editor.reach request .compiling)).editor m =
          { d.editor m with state } := editor_alterEditor_state (reach_state request _) n m d
      unfold beginRun
      dsimp only
      split <;> exact reached
    · exact ⟨_, rfl⟩
    · dsimp only
      split
      · exact editor_conclude _ _ _ _ _ _ _
      · exact ⟨_, rfl⟩
    · exact editor_conclude _ _ _ _ _ _ _
    · exact ⟨_, rfl⟩
  · exact ⟨_, rfl⟩

/-- The number of requests never goes down. -/
theorem request_react_le (p : Bench) (host : ScriptHost σ ρ ν η ε) (e : Event) (m : Nat)
    (d : Desk σ ρ ν ε) :
    (d.editor m).request ≤ ((d.react p host e).editor m).request := by
  cases e with
  | call i =>
    unfold react advanceCall
    dsimp only
    split
    · exact Nat.le_refl _
    · split
      · split
        · exact Nat.le_refl _
        · exact request_beginCall_le _ _ _ _
      · rw [(alike_finishCall _ _ _ _ _ _).editor]
        exact request_alterEditor_le
          (fun e => Nat.le_of_eq (Editor.request_settle _ _ e).symm) _ _ _
      · exact Nat.le_refl _
  | run i =>
    obtain ⟨state, same⟩ := editor_advanceRun p host i m d
    exact Nat.le_of_eq (congrArg Editor.request same).symm
  | lowering i =>
    unfold react finishLowering
    dsimp only
    split <;> exact Nat.le_refl _
  | command n c =>
    change _ ≤ (((d.perform p n c).toOption.getD d).editor m).request
    cases performed : d.perform p n c with
    | ok d' => exact request_perform_le performed m
    | error cause => exact Nat.le_refl _

/-! ### Events that are no commands -/

theorem site_of_uncommanded {k : Nat} {c : Command}
    (uncommanded : ∀ c', Event.command k c ≠ .command n c') (d : Desk σ ρ ν ε) :
    (Event.command k c).site d ≠ some n := by
  intro same
  obtain rfl : k = n := by simpa [Event.site] using same
  exact uncommanded c rfl

/-- Calls and runs touch nothing of an editor but what it knows of its tests. -/
theorem view_react {α : Type} (view : Editor ρ ν → α)
    (kept : ∀ (e : Editor ρ ν) state report current request,
      view { e with state, report, current, request } = view e)
    (p : Bench) (host : ScriptHost σ ρ ν η ε) (uncommanded : ∀ c, e ≠ .command n c) :
    view ((d.react p host e).editor n) = view (d.editor n) := by
  cases e with
  | call i =>
    unfold react advanceCall
    dsimp only
    split
    · rfl
    · next c _ =>
      split
      · split
        · rfl
        · cases opened : (d.editor c.editor).uri with
          | none => simp [beginCall, opened]
          | some uri =>
            rw [editor_beginCall opened]
            split
            · next same => exact same ▸ kept _ _ _ _ _
            · rfl
      · rw [(alike_finishCall _ _ _ _ _ _).editor]
        exact view_alterEditor view (f := Editor.settle i _) (fun _ => kept _ _ _ _ _) _ _ _
      · rfl
  | run i =>
    obtain ⟨state, same⟩ := editor_advanceRun p host i n d
    rw [react, same]
    exact kept _ state _ _ _
  | lowering i =>
    unfold react finishLowering
    dsimp only
    split <;> rfl
  | command k c =>
    rw [editor_react_of_ne (site_of_uncommanded uncommanded d)]

/-- Only a command opens or closes a buffer. -/
theorem uri_react (p : Bench) (host : ScriptHost σ ρ ν η ε) (uncommanded : ∀ c, e ≠ .command n c) :
    ((d.react p host e).editor n).uri = (d.editor n).uri :=
  view_react Editor.uri (fun _ _ _ _ _ => rfl) p host uncommanded

/-- Only a command and a call that begins make a new request. -/
theorem request_react (uncommanded : ∀ c, e ≠ .command n c) (unbegun : ∀ j, ¬ d.Begins n j e) :
    ((d.react p host e).editor n).request = (d.editor n).request := by
  cases e with
  | call i =>
    unfold react advanceCall
    dsimp only
    split
    · rfl
    · next c found =>
      obtain ⟨k, phase, asked⟩ := c
      dsimp only
      split
      · split
        · rfl
        · next unasked =>
          obtain rfl : asked = false := by simpa using unasked
          have other : n ≠ k := by
            rintro rfl
            exact unbegun i ⟨rfl, found⟩
          rw [editor_beginCall_of_ne other]
      · rw [(alike_finishCall _ _ _ _ _ _).editor]
        exact view_alterEditor Editor.request (Editor.request_settle _ _) _ _ _
      · rfl
  | run i =>
    obtain ⟨state, same⟩ := editor_advanceRun p host i n d
    exact congrArg (·.request) same
  | lowering i =>
    unfold react finishLowering
    dsimp only
    split <;> rfl
  | command k c =>
    rw [editor_react_of_ne (site_of_uncommanded uncommanded d)]

theorem buffers_conclude (i : CallId) (n : Nat) (uri : String) (request : Nat) (a : Artifact)
    (d : Desk σ ρ ν ε) : (d.conclude p host i n uri request a).buffers = d.buffers := by
  unfold conclude
  dsimp only
  split
  · exact (alike_followUp _ _).buffers
  · split <;> rfl

/-- Only a command touches buffers. -/
theorem buffers_react (own : e.call? = some i) : (d.react p host e).buffers = d.buffers := by
  cases e with
  | call i =>
    unfold react advanceCall
    dsimp only
    split
    · rfl
    · next c _ =>
      split
      · split
        · rfl
        · cases opened : (d.editor c.editor).uri with
          | none => simp [beginCall, opened, endCall, setPhase]
          | some uri =>
            rw [beginCall_eq opened]
            exact (alike_abandonRun _ d).buffers
      · exact (alike_finishCall _ _ _ _ _ _).buffers
      · rfl
  | run i =>
    unfold react advanceRun
    dsimp only
    split
    · split
      · unfold beginRun
        dsimp only
        split <;> rfl
      · rfl
      · split
        · exact buffers_conclude _ _ _ _ _ _
        · rfl
      · exact buffers_conclude _ _ _ _ _ _
      · rfl
    · rfl
  | lowering i =>
    unfold react finishLowering
    dsimp only
    split <;> rfl
  | command n c => cases own

/-- The buffer of an editor is only touched by commands of that editor. -/
theorem get?_react (sound : d.Sound p host) {uri : String} (opened : (d.editor n).uri = some uri)
    (uncommanded : ∀ c, e ≠ .command n c) :
    (d.react p host e).buffers.get? uri = d.buffers.get? uri := by
  cases e with
  | command k c =>
    have other : n ≠ k := by
      rintro rfl
      exact uncommanded c rfl
    change ((d.perform p k c).toOption.getD d).buffers.get? uri = _
    cases performed : d.perform p k c with
    | ok d' => exact get?_perform_of_ne sound opened other performed
    | error cause => rfl
  | call i => exact congrArg (·.get? uri) (buffers_react (e := .call i) rfl)
  | run i => exact congrArg (·.get? uri) (buffers_react (e := .run i) rfl)
  | lowering i => exact congrArg (·.get? uri) (buffers_react (e := .lowering i) rfl)

end Desk

end RuleBench
