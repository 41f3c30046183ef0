import RuleBench.Proofs.Buffers
import RuleBench.Proofs.Desk.Run

/-!
# Editors in order

The invariant of all desks that moves lead to (`RuleBench.Proofs.Desk.Sound`). A call that waits
for its run either belongs to the latest request of its editor, or it has been overtaken (`Latest`,
`Overtaken`). In the first case the state of the editor says how far the run has come, and whatever
the run holds was made from the buffer that is open. In the second case the run is over, or is about
to end without having done anything more. A report on hand belongs to the state and was made from
the buffer that is open.

Editors share nothing but the numbers of their buffers: what is done in one spares all others
(`Spares`).
-/

namespace RuleBench

variable {σ ρ ν η ε : Type} {p : Bench} {host : ScriptHost σ ρ ν η ε}

namespace RunPhase

/-- The run does nothing any more but end. Only an interrupt lets it end with an error. -/
def IsOver (interrupted : Bool) : RunPhase ρ ν ε → Prop
  | stopping => True
  | ended (.report _) => True
  | ended .cancelled => True
  | ended (.raised _) => interrupted = true
  | _ => False

/-- What is known of a run of the latest request, whose editor is in some state: how far it has come
is seen from that state, and whatever it holds was made from its buffer. A run that was stopped was
stopped for its caller. -/
def Fits (p : Bench) (host : ScriptHost σ ρ ν η ε) (bs : Buffers) (uri : String)
    (state : RunState) (asked interrupted : Bool) : RunPhase ρ ν ε → Prop
  | scheduled => True
  | lowering job => state = .compiling ∧ job.uri = uri ∧ bs.Knows uri job.buffer
  | lowered a => state = .compiling ∧ bs.Made uri a
  | held a => state = .compiling ∧ bs.Made uri a
  | released a => state = .compiling ∧ bs.Made uri a
  | stopping => asked = true
  | ended (.report r) => state = r.state ∧ ∃ a, bs.Made uri a ∧ p.Reports host a r
  | ended .cancelled => True
  | ended (.raised _) => interrupted = true
  | ended (.notRegistered _) => False

variable {run : RunPhase ρ ν ε} {bs bs' : Buffers} {uri : String} {state : RunState}
  {asked interrupted interrupted' : Bool}

theorem ended_of_isEnded (h : run.isEnded = true) : ∃ result, run = .ended result := by
  cases run with
  | ended result => exact ⟨result, rfl⟩
  | _ => cases h

theorem IsOver.eq_stopping (h : run.IsOver interrupted) (going : run.isEnded = false) :
    run = .stopping := by
  cases run with
  | stopping => rfl
  | ended result => cases going
  | _ => exact h.elim

theorem IsOver.mono (h : run.IsOver interrupted) (later : interrupted → interrupted') :
    run.IsOver interrupted' := by
  cases run with
  | ended result => cases result with
    | raised e => exact later h
    | _ => exact h
  | _ => exact h

theorem IsOver.stop (h : run.IsOver interrupted) : run.stop.IsOver interrupted := by
  cases run with
  | ended result => exact h
  | _ => trivial

/-- However far a run of the latest request has come, it is over when it is stopped. -/
theorem Fits.isOver_stop (h : run.Fits p host bs uri state asked interrupted) :
    run.stop.IsOver interrupted := by
  cases run with
  | ended result => cases result with
    | report r => trivial
    | cancelled => trivial
    | notRegistered cause => exact h.elim
    | raised e => exact h
  | _ => trivial

theorem Fits.mono (h : run.Fits p host bs uri state asked interrupted)
    (keeps : ∀ b, bs.Knows uri b → bs'.Knows uri b) (later : interrupted → interrupted') :
    run.Fits p host bs' uri state asked interrupted' := by
  cases run with
  | scheduled => trivial
  | lowering job => exact ⟨h.1, h.2.1, keeps _ h.2.2⟩
  | lowered a => exact ⟨h.1, h.2.of_imp keeps⟩
  | held a => exact ⟨h.1, h.2.of_imp keeps⟩
  | released a => exact ⟨h.1, h.2.of_imp keeps⟩
  | stopping => exact h
  | ended result => cases result with
    | report r =>
      obtain ⟨state, a, made, reports⟩ := h
      exact ⟨state, a, made.of_imp keeps, reports⟩
    | cancelled => trivial
    | notRegistered cause => exact h.elim
    | raised e => exact later h

theorem Fits.made_of_passing {gateOpen : Bool} {a : Artifact}
    (h : run.Fits p host bs uri state asked interrupted)
    (passing : run.passing? gateOpen = some a) : state = .compiling ∧ bs.Made uri a := by
  cases run with
  | lowered b =>
    cases gateOpen with
    | true =>
      obtain rfl : b = a := by simpa [passing?] using passing
      exact h
    | false => cases passing
  | released b =>
    obtain rfl : b = a := by simpa [passing?] using passing
    exact h
  | _ => cases passing

/-- To stop a run for its caller leaves it as it should be. -/
theorem Fits.stop (h : run.Fits p host bs uri state asked interrupted) :
    run.stop.Fits p host bs uri state true interrupted := by
  cases run with
  | ended result => cases result with
    | report r => exact h
    | cancelled => trivial
    | notRegistered cause => exact h.elim
    | raised e => exact h
  | _ => rfl

end RunPhase

namespace Desk

variable {d d' d₁ d₂ d₃ : Desk σ ρ ν ε} {m n : Nat} {i : CallId} {uri : String} {request : Nat}
  {run run' : RunPhase ρ ν ε} {asked asked' : Bool} {state : RunState}

/-- The call belongs to the latest request of its editor. -/
structure Latest (p : Bench) (host : ScriptHost σ ρ ν η ε) (d : Desk σ ρ ν ε) (n : Nat)
    (i : CallId) (uri : String) (request : Nat) (run : RunPhase ρ ν ε) (asked : Bool) : Prop where
  request : (d.editor n).request = request
  opened : (d.editor n).uri = some uri
  current : (d.editor n).current = some i
  report : (d.editor n).report = none
  fits : run.Fits p host d.buffers uri (d.editor n).state asked d.interrupt.isSome

/-- The request of the call is not the latest one, and its run is over. -/
structure Overtaken (d : Desk σ ρ ν ε) (n : Nat) (request : Nat) (run : RunPhase ρ ν ε) :
    Prop where
  request : request < (d.editor n).request
  isOver : run.IsOver d.interrupt.isSome

/-- An editor, its buffer and its calls fit together. -/
structure InOrder (p : Bench) (host : ScriptHost σ ρ ν η ε) (d : Desk σ ρ ν ε) (n : Nat) :
    Prop where
  buffer : ∀ uri, (d.editor n).uri = some uri →
    (∃ k < d.opened, uri = bufferUri k) ∧ ∃ b, d.buffers.get? uri = some b
  current : ∀ i, (d.editor n).current = some i → ∃ uri run asked,
    d.call? i = some ⟨n, .awaiting uri (d.editor n).request run, asked⟩
  report : ∀ r, (d.editor n).report = some r →
    (d.editor n).state = r.state ∧ (d.editor n).current = none ∧
      ∃ uri a, (d.editor n).uri = some uri ∧ d.buffers.Made uri a ∧ p.Reports host a r
  calls : ∀ i uri request run asked, d.call? i = some ⟨n, .awaiting uri request run, asked⟩ →
    d.Latest p host n i uri request run asked ∨ d.Overtaken n request run

/-- Every editor is in order, and no two of them have the same buffer open. -/
structure Sound (p : Bench) (host : ScriptHost σ ρ ν η ε) (d : Desk σ ρ ν ε) : Prop where
  inOrder : ∀ n, d.InOrder p host n
  apart : ∀ m n uri, m ≠ n → (d.editor m).uri = some uri → (d.editor n).uri ≠ some uri

namespace InOrder

/-- The call that an editor names belongs to its latest request. -/
theorem latest_of_current (h : d.InOrder p host n) (current : (d.editor n).current = some i) :
    ∃ uri request run asked, d.call? i = some ⟨n, .awaiting uri request run, asked⟩ ∧
      d.Latest p host n i uri request run asked := by
  obtain ⟨uri, run, asked, found⟩ := h.current i current
  cases h.calls i uri _ run asked found with
  | inl latest => exact ⟨uri, _, run, asked, found, latest⟩
  | inr overtaken => exact absurd overtaken.request (Nat.lt_irrefl _)

/-- A run that is not over belongs to the latest request. -/
theorem latest_of_not_isOver (h : d.InOrder p host n)
    (found : d.call? i = some ⟨n, .awaiting uri request run, asked⟩)
    (going : ¬ run.IsOver d.interrupt.isSome) : d.Latest p host n i uri request run asked :=
  (h.calls i uri request run asked found).resolve_right fun overtaken => going overtaken.isOver

/-- The identifier of the next buffer is not in use. -/
theorem ne_bufferUri (h : d.InOrder p host n) (opened : (d.editor n).uri = some uri) :
    uri ≠ bufferUri d.opened := by
  obtain ⟨⟨k, below, rfl⟩, _⟩ := h.buffer uri opened
  exact fun same => Nat.ne_of_lt below (bufferUri_inj same)

theorem overtaken_of_lt (h : d.InOrder p host n)
    (found : d.call? i = some ⟨n, .awaiting uri request run, asked⟩)
    (old : request < (d.editor n).request) : d.Overtaken n request run :=
  (h.calls i uri request run asked found).resolve_left fun latest =>
    Nat.ne_of_lt old latest.request.symm

/-- The call that an editor names has not been overtaken. -/
theorem current_ne_of_lt (h : d.InOrder p host n)
    (found : d.call? i = some ⟨n, .awaiting uri request run, asked⟩)
    (old : request < (d.editor n).request) : (d.editor n).current ≠ some i := by
  intro current
  obtain ⟨uri', run', asked', found'⟩ := h.current i current
  rw [found, Option.some.injEq, TestCall.mk.injEq, CallPhase.awaiting.injEq] at found'
  exact Nat.ne_of_lt old found'.2.1.2.1

/-- Calls wait only in editors that exist. -/
theorem lt_of_awaiting (h : d.InOrder p host n)
    (found : d.call? i = some ⟨n, .awaiting uri request run, asked⟩) : n < d.editors.length := by
  cases h.calls i uri request run asked found with
  | inl latest => exact lt_of_uri latest.opened
  | inr overtaken =>
    refine Nat.lt_of_not_le fun beyond => ?_
    have request := overtaken.request
    rw [editor_of_le beyond] at request
    exact Nat.not_lt_zero _ request

/-- An editor that has nothing open has no request that counts. -/
theorem overtaken_of_closed (h : d.InOrder p host n) (closed : (d.editor n).uri = none)
    (found : d.call? i = some ⟨n, .awaiting uri request run, asked⟩) :
    d.Overtaken n request run := by
  refine (h.calls i uri request run asked found).resolve_left fun latest => ?_
  exact absurd (closed.symm.trans latest.opened) (by simp)

theorem current_of_closed (h : d.InOrder p host n) (closed : (d.editor n).uri = none) :
    (d.editor n).current = none := by
  cases current : (d.editor n).current with
  | none => rfl
  | some i =>
    obtain ⟨uri, request, run, asked, found, latest⟩ := h.latest_of_current current
    exact absurd (closed.symm.trans latest.opened) (by simp)

end InOrder

/-! ### Editors that are spared -/

/-- An operation does nothing to an editor, its buffer and the calls that wait in it. -/
structure Spares (n : Nat) (d d' : Desk σ ρ ν ε) : Prop where
  editor : (d.editor n).Alike (d'.editor n)
  calls : ∀ i uri request run asked,
    d'.call? i = some ⟨n, .awaiting uri request run, asked⟩ ↔
      d.call? i = some ⟨n, .awaiting uri request run, asked⟩
  knows : ∀ uri, (d.editor n).uri = some uri →
    ∀ b, d.buffers.Knows uri b → d'.buffers.Knows uri b
  opened : d.opened ≤ d'.opened
  interrupt : d.interrupt.isSome → d'.interrupt.isSome

theorem Spares.trans (h₁ : d₁.Spares n d₂) (h₂ : d₂.Spares n d₃) : d₁.Spares n d₃ where
  editor := h₁.editor.trans h₂.editor
  calls i uri request run asked :=
    (h₂.calls i uri request run asked).trans (h₁.calls i uri request run asked)
  knows uri opened b known :=
    h₂.knows uri (h₁.editor.uri.trans opened) b (h₁.knows uri opened b known)
  opened := Nat.le_trans h₁.opened h₂.opened
  interrupt := h₂.interrupt ∘ h₁.interrupt

theorem InOrder.spared (h : d.InOrder p host n) (spares : d.Spares n d') :
    d'.InOrder p host n where
  buffer uri opened := by
    rw [spares.editor.uri] at opened
    obtain ⟨⟨k, below, rfl⟩, b, found⟩ := h.buffer uri opened
    obtain ⟨now, found', _⟩ := spares.knows _ opened b (.of_get? found)
    exact ⟨⟨k, Nat.lt_of_lt_of_le below spares.opened, rfl⟩, now, found'⟩
  current i current := by
    rw [spares.editor.current] at current
    obtain ⟨uri, run, asked, found⟩ := h.current i current
    rw [spares.editor.request]
    exact ⟨uri, run, asked, (spares.calls i uri _ run asked).mpr found⟩
  report r reported := by
    rw [spares.editor.report] at reported
    obtain ⟨state, current, uri, a, opened, made, reports⟩ := h.report r reported
    exact ⟨spares.editor.state.trans state, spares.editor.current.trans current, uri, a,
      spares.editor.uri.trans opened, made.of_imp (spares.knows uri opened), reports⟩
  calls i uri request run asked found := by
    rw [spares.calls] at found
    cases h.calls i uri request run asked found with
    | inl latest =>
      refine .inl ⟨spares.editor.request.trans latest.request,
        spares.editor.uri.trans latest.opened, spares.editor.current.trans latest.current,
        spares.editor.report.trans latest.report, ?_⟩
      rw [spares.editor.state]
      exact latest.fits.mono (spares.knows uri latest.opened) spares.interrupt
    | inr overtaken =>
      exact .inr ⟨spares.editor.request ▸ overtaken.request, overtaken.isOver.mono spares.interrupt⟩

/-- What is done in one editor leaves a desk sound, if it leaves that editor in order and has it
open a buffer of its own. -/
theorem Sound.of_spares (h : d.Sound p host) (spares : ∀ m, m ≠ n → d.Spares m d')
    (inOrder : d'.InOrder p host n)
    (apart : ∀ uri, (d'.editor n).uri = some uri →
      ∀ m, m ≠ n → (d.editor m).uri ≠ some uri) : d'.Sound p host where
  inOrder m := by
    by_cases hm : m = n
    · exact hm ▸ inOrder
    · exact (h.inOrder m).spared (spares m hm)
  apart m k uri ne opened := by
    by_cases hm : m = n
    · subst hm
      rw [(spares k ne.symm).editor.uri]
      exact apart uri opened k ne.symm
    · rw [(spares m hm).editor.uri] at opened
      by_cases hk : k = n
      · subst hk
        exact fun same => apart uri same m hm opened
      · rw [(spares k hk).editor.uri]
        exact h.apart m k uri ne opened

theorem Sound.spared (h : d.Sound p host) (spares : ∀ m, d.Spares m d') : d'.Sound p host :=
  h.of_spares (n := 0) (fun m _ => spares m) ((h.inOrder 0).spared (spares 0))
    fun uri opened m ne same => h.apart m 0 uri ne same ((spares 0).editor.uri ▸ opened)

end Desk

end RuleBench
