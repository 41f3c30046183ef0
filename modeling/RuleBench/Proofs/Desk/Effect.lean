import RuleBench.Desk.Loop

/-!
# What operations of a desk do

Each operation by its effect on the editors and on the calls. Everything else stays as it is, which
is said once and for all by `Alike`: two desks that differ at most in their calls, in what goes on
next and in what is noted.
-/

namespace RuleBench

variable {σ ρ ν η ε : Type}

namespace RunPhase

/-- A run that has not ended is going to end when it goes on next. -/
def stop (run : RunPhase ρ ν ε) : RunPhase ρ ν ε := if run.isEnded then run else .stopping

end RunPhase

namespace TestCall

/-- The call whose run is stopped. -/
def stop (c : TestCall ρ ν ε) : TestCall ρ ν ε :=
  match c.phase with
  | .awaiting uri request run => { c with phase := .awaiting uri request run.stop }
  | _ => c

/-- The call whose run is let past the gate, if it waits there. -/
def letPass (c : TestCall ρ ν ε) : TestCall ρ ν ε :=
  match c.phase with
  | .awaiting uri request (.held a) => { c with phase := .awaiting uri request (.released a) }
  | _ => c

theorem letPass_letPass (c : TestCall ρ ν ε) : c.letPass.letPass = c.letPass := by
  obtain ⟨n, phase, asked⟩ := c
  cases phase with
  | awaiting uri request run => cases run <;> rfl
  | _ => rfl

theorem stop_of_not_isRunning {c : TestCall ρ ν ε} (h : c.isRunning = false) : c.stop = c := by
  obtain ⟨n, phase, asked⟩ := c
  cases phase with
  | awaiting uri request run =>
    have ended : run.isEnded = true := by simpa [isRunning] using h
    simp [stop, RunPhase.stop, ended]
  | scheduled => rfl
  | ended => rfl

end TestCall

/-- Two editors that differ at most in the rule that they edit and in whom they tell. -/
structure Editor.Alike (e e' : Editor ρ ν) : Prop where
  uri : e'.uri = e.uri
  state : e'.state = e.state
  report : e'.report = e.report
  current : e'.current = e.current
  request : e'.request = e.request

namespace Editor

variable {e e₁ e₂ e₃ : Editor ρ ν}

theorem Alike.refl (e : Editor ρ ν) : e.Alike e := ⟨rfl, rfl, rfl, rfl, rfl⟩

theorem Alike.of_eq {e e' : Editor ρ ν} (h : e' = e) : e.Alike e' := h ▸ .refl e

theorem Alike.trans (h₁ : e₁.Alike e₂) (h₂ : e₂.Alike e₃) : e₁.Alike e₃ :=
  ⟨h₂.uri.trans h₁.uri, h₂.state.trans h₁.state, h₂.report.trans h₁.report,
    h₂.current.trans h₁.current, h₂.request.trans h₁.request⟩

/-- The buffer that is open is the one that is registered. -/
theorem buffer_of_opened {c : Buffers} {uri : String} {b : Buffer} (opened : e.uri = some uri)
    (found : c.get? uri = some b) : e.buffer c = .ok b := by
  simp only [buffer, opened, Buffers.get, found]
  rfl

theorem alike_tell (now : Float) (e : Editor ρ ν) : e.Alike (e.tell now) := by
  unfold tell
  split
  · exact ⟨rfl, rfl, rfl, rfl, rfl⟩
  · exact .refl e

theorem alike_announce (interval now : Float) (e : Editor ρ ν) :
    e.Alike (e.announce interval now) := by
  have paced (notifier : Pacer Float Unit) : e.Alike { e with notifier } :=
    ⟨rfl, rfl, rfl, rfl, rfl⟩
  unfold announce
  dsimp only
  split
  · exact (paced _).trans (alike_tell now _)
  · exact paced _

theorem alike_fire (now : Float) (e : Editor ρ ν) : e.Alike (e.fire now) := by
  have paced (notifier : Pacer Float Unit) : e.Alike { e with notifier } :=
    ⟨rfl, rfl, rfl, rfl, rfl⟩
  unfold fire
  dsimp only
  split
  · exact (paced _).trans (alike_tell now _)
  · exact paced _

/-- The editor of a call that has learnt how its run ended, with what the call answers. -/
def settle (i : CallId) (outcome : CallOutcome ρ ν ε) (e : Editor ρ ν) : Editor ρ ν :=
  { e with
    current := if e.current == some i then none else e.current
    report := match outcome with
      | .report r => some r
      | _ => e.report }

@[simp] theorem uri_settle (i : CallId) (outcome : CallOutcome ρ ν ε) (e : Editor ρ ν) :
    (e.settle i outcome).uri = e.uri := rfl

@[simp] theorem state_settle (i : CallId) (outcome : CallOutcome ρ ν ε) (e : Editor ρ ν) :
    (e.settle i outcome).state = e.state := rfl

@[simp] theorem request_settle (i : CallId) (outcome : CallOutcome ρ ν ε) (e : Editor ρ ν) :
    (e.settle i outcome).request = e.request := rfl

@[simp] theorem report_settle_report (i : CallId) (r : Report ρ ν) (e : Editor ρ ν) :
    (e.settle i (.report r : CallOutcome ρ ν ε)).report = some r := rfl

theorem report_settle {outcome : CallOutcome ρ ν ε} (other : ∀ r, outcome ≠ .report r)
    (i : CallId) (e : Editor ρ ν) : (e.settle i outcome).report = e.report := by
  cases outcome with
  | report r => exact absurd rfl (other r)
  | _ => rfl

theorem current_settle (i : CallId) (outcome : CallOutcome ρ ν ε) (e : Editor ρ ν) :
    (e.settle i outcome).current = if e.current = some i then none else e.current := by
  by_cases h : e.current = some i <;> simp [settle, h]

end Editor

namespace Desk

variable {d d' d₁ d₂ d₃ : Desk σ ρ ν ε} {i j : CallId} {m n : Nat}

/-- Two desks that differ at most in their calls, in what goes on next and in what is noted. -/
structure Alike (d d' : Desk σ ρ ν ε) : Prop where
  editors : d'.editors = d.editors
  buffers : d'.buffers = d.buffers
  opened : d'.opened = d.opened
  world : d'.world = d.world
  generator : d'.generator = d.generator
  interrupt : d'.interrupt = d.interrupt
  gateOpen : d'.gateOpen = d.gateOpen

namespace Alike

theorem refl (d : Desk σ ρ ν ε) : d.Alike d := ⟨rfl, rfl, rfl, rfl, rfl, rfl, rfl⟩

theorem trans (h₁ : d₁.Alike d₂) (h₂ : d₂.Alike d₃) : d₁.Alike d₃ :=
  ⟨h₂.editors.trans h₁.editors, h₂.buffers.trans h₁.buffers, h₂.opened.trans h₁.opened,
    h₂.world.trans h₁.world, h₂.generator.trans h₁.generator, h₂.interrupt.trans h₁.interrupt,
    h₂.gateOpen.trans h₁.gateOpen⟩

theorem editor (h : d.Alike d') (n : Nat) : d'.editor n = d.editor n := by
  simp only [Desk.editor, h.editors]

end Alike

/-! ### Parts of a desk -/

theorem alike_setPhase (i : CallId) (phase : CallPhase ρ ν ε) (d : Desk σ ρ ν ε) :
    d.Alike (d.setPhase i phase) := ⟨rfl, rfl, rfl, rfl, rfl, rfl, rfl⟩

theorem alike_schedule (e : Event) (d : Desk σ ρ ν ε) : d.Alike (d.schedule e) :=
  ⟨rfl, rfl, rfl, rfl, rfl, rfl, rfl⟩

theorem alike_note (records : List LogRecord) (d : Desk σ ρ ν ε) : d.Alike (d.note records) :=
  ⟨rfl, rfl, rfl, rfl, rfl, rfl, rfl⟩

@[simp] theorem call?_schedule (e : Event) (d : Desk σ ρ ν ε) (j : CallId) :
    (d.schedule e).call? j = d.call? j := rfl

@[simp] theorem call?_note (records : List LogRecord) (d : Desk σ ρ ν ε) (j : CallId) :
    (d.note records).call? j = d.call? j := rfl

@[simp] theorem call?_alterEditor (n : Nat) (f : Editor ρ ν → Editor ρ ν) (d : Desk σ ρ ν ε)
    (j : CallId) : (d.alterEditor n f).call? j = d.call? j := rfl

@[simp] theorem call?_setPhase (i : CallId) (phase : CallPhase ρ ν ε) (d : Desk σ ρ ν ε)
    (j : CallId) : (d.setPhase i phase).call? j =
      if j = i then (d.call? i).map fun c => { c with phase } else d.call? j := by
  simp only [call?, setPhase, List.getElem?_modify]
  by_cases h : j = i
  · simp [h]
  · simp [h, Ne.symm h]

theorem alike_markCancelled (i : CallId) (d : Desk σ ρ ν ε) : d.Alike (d.markCancelled i) :=
  ⟨rfl, rfl, rfl, rfl, rfl, rfl, rfl⟩

@[simp] theorem call?_markCancelled (i : CallId) (d : Desk σ ρ ν ε) (j : CallId) :
    (d.markCancelled i).call? j =
      if j = i then (d.call? i).map fun c => { c with cancelRequested := true } else d.call? j := by
  simp only [call?, markCancelled, List.getElem?_modify]
  by_cases h : j = i
  · simp [h]
  · simp [h, Ne.symm h]

@[simp] theorem editor_schedule (e : Event) (d : Desk σ ρ ν ε) (n : Nat) :
    (d.schedule e).editor n = d.editor n := rfl

@[simp] theorem editor_note (records : List LogRecord) (d : Desk σ ρ ν ε) (n : Nat) :
    (d.note records).editor n = d.editor n := rfl

@[simp] theorem editor_setPhase (i : CallId) (phase : CallPhase ρ ν ε) (d : Desk σ ρ ν ε)
    (n : Nat) : (d.setPhase i phase).editor n = d.editor n := rfl

/-- Only an editor that exists has a buffer open. -/
theorem lt_of_uri {uri : String} (h : (d.editor n).uri = some uri) : n < d.editors.length := by
  refine Nat.lt_of_not_le fun beyond => ?_
  rw [editor, List.getElem?_eq_none beyond] at h
  cases h

theorem editor_of_le (beyond : d.editors.length ≤ n) : d.editor n = {} := by
  rw [editor, List.getElem?_eq_none beyond]
  rfl

theorem alterEditor_of_le (f : Editor ρ ν → Editor ρ ν) (beyond : d.editors.length ≤ n) :
    d.alterEditor n f = d := by
  rw [alterEditor, List.modify_eq_self beyond]

theorem editor_alterEditor {f : Editor ρ ν → Editor ρ ν} (inside : n < d.editors.length)
    (m : Nat) : (d.alterEditor n f).editor m = if m = n then f (d.editor n) else d.editor m := by
  simp only [editor, alterEditor, List.getElem?_modify]
  by_cases h : m = n
  · subst h
    simp [inside]
  · simp [h, Ne.symm h]

theorem editor_alterEditor_of_ne {f : Editor ρ ν → Editor ρ ν} (h : m ≠ n) :
    (d.alterEditor n f).editor m = d.editor m := by
  simp [editor, alterEditor, Ne.symm h]

/-- An alteration that does not alter. -/
theorem alterEditor_self {f : Editor ρ ν → Editor ρ ν} (h : f (d.editor n) = d.editor n) :
    d.alterEditor n f = d := by
  have same : d.editors.modify n f = d.editors := by
    refine List.ext_getElem? fun k => ?_
    rw [List.getElem?_modify]
    by_cases hk : n = k
    · subst hk
      cases found : d.editors[n]? with
      | none => rfl
      | some e =>
        have h : f e = e := by simpa [editor, found] using h
        simp [h]
    · simp [hk]
  rw [alterEditor, same]

theorem alterEditor_alterEditor (f g : Editor ρ ν → Editor ρ ν) (d : Desk σ ρ ν ε) :
    (d.alterEditor n g).alterEditor n f = d.alterEditor n (f ∘ g) := by
  simp only [alterEditor, List.modify_modify_eq]

/-- What holds between an editor and itself, and between an editor and what it is altered to, holds
between every editor before and after. -/
theorem related_alterEditor {R : Editor ρ ν → Editor ρ ν → Prop} {f : Editor ρ ν → Editor ρ ν}
    (refl : ∀ e, R e e) (h : ∀ e, R e (f e)) (n m : Nat) (d : Desk σ ρ ν ε) :
    R (d.editor m) ((d.alterEditor n f).editor m) := by
  by_cases hm : m = n
  · subst hm
    by_cases inside : m < d.editors.length
    · rw [editor_alterEditor inside, if_pos rfl]
      exact h _
    · rw [alterEditor_of_le f (Nat.le_of_not_lt inside)]
      exact refl _
  · rw [editor_alterEditor_of_ne hm]
    exact refl _

/-- An alteration leaves whatever it never touches. -/
theorem view_alterEditor {α : Type} (view : Editor ρ ν → α) {f : Editor ρ ν → Editor ρ ν}
    (h : ∀ e, view (f e) = view e) (n m : Nat) (d : Desk σ ρ ν ε) :
    view ((d.alterEditor n f).editor m) = view (d.editor m) :=
  related_alterEditor (R := fun e e' => view e' = view e) (fun _ => rfl) h n m d

/-- What holds of an editor that is nowhere, and of everything that an editor is altered to, holds
of the editor that is altered. -/
theorem holds_alterEditor {P : Editor ρ ν → Prop} {f : Editor ρ ν → Editor ρ ν} (nowhere : P {})
    (h : ∀ e, P (f e)) (n : Nat) (d : Desk σ ρ ν ε) : P ((d.alterEditor n f).editor n) := by
  by_cases inside : n < d.editors.length
  · rw [editor_alterEditor inside, if_pos rfl]
    exact h _
  · have beyond := Nat.le_of_not_lt inside
    rw [alterEditor_of_le f beyond, editor_of_le beyond]
    exact nowhere

/-! ### Runs that are stopped -/

theorem alike_stopRun (i : CallId) (d : Desk σ ρ ν ε) : d.Alike (d.stopRun i) := by
  unfold stopRun
  split
  · next n uri request run asked _ =>
    have stopped := alike_setPhase i (.awaiting uri request .stopping) d
    split
    · exact .refl d
    · exact stopped.trans (alike_schedule _ _)
    · exact stopped.trans (alike_schedule _ _)
    · exact stopped
  · exact .refl d

/-- Only the run itself is stopped. -/
theorem call?_stopRun (i j : CallId) (d : Desk σ ρ ν ε) :
    (d.stopRun i).call? j = if j = i then (d.call? j).map TestCall.stop else d.call? j := by
  by_cases h : j = i
  · subst h
    unfold stopRun
    split
    · next n uri request run asked found =>
      cases run <;> simp [found, TestCall.stop, RunPhase.stop, RunPhase.isEnded]
    · next other =>
      cases found : d.call? j with
      | none => simp
      | some c =>
        obtain ⟨n, phase, asked⟩ := c
        cases phase with
        | awaiting uri request run => exact absurd found (other _ _ _ _ _)
        | scheduled => simp [TestCall.stop]
        | ended => simp [TestCall.stop]
  · unfold stopRun
    split
    · split <;> simp [h]
    · simp [h]

theorem alike_abandonRun (n : Nat) (d : Desk σ ρ ν ε) : d.Alike (d.abandonRun n) := by
  unfold abandonRun
  split
  · split
    · exact (alike_note _ _).trans (alike_stopRun _ _)
    · exact .refl d
  · exact .refl d

/-- The run that an editor has under way is stopped, and no other. -/
theorem call?_abandonRun (n : Nat) (d : Desk σ ρ ν ε) (j : CallId) :
    (d.abandonRun n).call? j =
      if (d.editor n).current = some j then (d.call? j).map TestCall.stop else d.call? j := by
  unfold abandonRun
  split
  · next i current =>
    split
    · next running =>
      by_cases h : j = i
      · simp [call?_stopRun, current, h]
      · simp [call?_stopRun, current, h, Ne.symm h]
    · next idle =>
      by_cases h : j = i
      · subst h
        cases found : d.call? j with
        | none => simp [current]
        | some c =>
          have still : c.isRunning = false := by simpa [isRunning, found] using idle
          simp [current, TestCall.stop_of_not_isRunning still]
      · simp [current, Ne.symm h]
  · next unnamed => simp [unnamed]

/-! ### Calls that end -/

@[simp] theorem call?_endCall (i : CallId) (outcome : CallOutcome ρ ν ε) (d : Desk σ ρ ν ε)
    (j : CallId) : (d.endCall i outcome).call? j =
      if j = i then (d.call? i).map fun c => { c with phase := .ended outcome } else d.call? j :=
  call?_setPhase i _ d j

@[simp] theorem editor_endCall (i : CallId) (outcome : CallOutcome ρ ν ε) (d : Desk σ ρ ν ε)
    (m : Nat) : (d.endCall i outcome).editor m = d.editor m := rfl

/-- What a call answers when it learns how its run ended. -/
def answer (d : Desk σ ρ ν ε) (n : Nat) (request : Nat) (asked : Bool) :
    RunResult ρ ν ε → CallOutcome ρ ν ε
  | .cancelled => if asked then .cancelled else .superseded
  | .notRegistered cause => if asked then .cancelled else .failed (.notRegistered cause)
  | .raised e => if asked then .cancelled else .raised e
  | .report r =>
    if asked then .cancelled
    else if request ≠ (d.editor n).request then .superseded
    else match (d.editor n).buffer d.buffers with
      | .error cause => .failed cause
      | .ok b => if r.revision ≠ b.revision then .superseded else .report r

theorem answer_asked (d : Desk σ ρ ν ε) (n : Nat) (request : Nat) (result : RunResult ρ ν ε) :
    d.answer n request true result = .cancelled := by
  cases result <;> rfl

/-- A call answers with a report only if it is that of its run, belongs to the latest request and
has the revision of the buffer. -/
theorem of_answer_eq_report {request : Nat} {asked : Bool} {result : RunResult ρ ν ε}
    {r : Report ρ ν} (h : d.answer n request asked result = .report r) :
    result = .report r ∧ request = (d.editor n).request ∧ asked = false ∧
      ∃ b, (d.editor n).buffer d.buffers = .ok b ∧ r.revision = b.revision := by
  cases asked with
  | true => rw [answer_asked] at h; cases h
  | false =>
    cases result with
    | report r' =>
      simp only [answer, Bool.false_eq_true, if_false] at h
      split at h
      · cases h
      · next latest =>
        split at h
        · cases h
        · next b opened =>
          split at h
          · cases h
          · next revision =>
            cases h
            exact ⟨rfl, Decidable.not_not.mp latest, rfl, b, opened,
              Decidable.not_not.mp revision⟩
    | _ => cases h

/-- A call that learns how its run ended answers, and its editor takes over what it answers. -/
theorem finishCall_eq (i : CallId) (c : TestCall ρ ν ε) (uri : String) (request : Nat)
    (result : RunResult ρ ν ε) (d : Desk σ ρ ν ε) :
    ∃ records, d.finishCall i c uri request result =
      ((d.alterEditor c.editor
        (Editor.settle i (d.answer c.editor request c.cancelRequested result))).note
          records).endCall i (d.answer c.editor request c.cancelRequested result) := by
  have drops (outcome : CallOutcome ρ ν ε) (other : ∀ r, outcome ≠ .report r) :
      (Editor.settle i outcome : Editor ρ ν → Editor ρ ν) = Editor.drop i := by
    funext e
    cases outcome with
    | report r => exact absurd rfl (other r)
    | _ => by_cases h : e.current = some i <;> simp [Editor.settle, Editor.drop, h]
  obtain ⟨n, phase, asked⟩ := c
  cases asked with
  | true =>
    rw [answer_asked, drops _ (by simp)]
    exact ⟨[], by simp [finishCall, note]⟩
  | false =>
    cases result with
    | cancelled =>
      change ∃ records, _ = ((d.alterEditor n (Editor.settle i .superseded)).note records).endCall i
        .superseded
      rw [drops _ (by simp)]
      exact ⟨_, rfl⟩
    | notRegistered cause =>
      change ∃ records, _ = ((d.alterEditor n (Editor.settle i
        (.failed (.notRegistered cause)))).note records).endCall i _
      rw [drops _ (by simp)]
      exact ⟨[], by simp [finishCall, note, answer]⟩
    | raised e =>
      change ∃ records, _ = ((d.alterEditor n (Editor.settle i (.raised e))).note records).endCall i
        _
      rw [drops _ (by simp)]
      exact ⟨[], by simp [finishCall, note, answer]⟩
    | report r =>
      have latest : ((d.alterEditor n (Editor.drop i)).editor n).request = (d.editor n).request :=
        view_alterEditor Editor.request (fun e => by unfold Editor.drop; split <;> rfl) n n d
      have buffer : ((d.alterEditor n (Editor.drop i)).editor n).buffer d.buffers =
          (d.editor n).buffer d.buffers :=
        view_alterEditor (Editor.buffer · d.buffers)
          (fun e => by unfold Editor.drop; split <;> rfl) n n d
      have same : (d.alterEditor n (Editor.drop i)).buffers = d.buffers := rfl
      have reported : (fun e : Editor ρ ν => { e with report := some r }) ∘ Editor.drop i =
          (Editor.settle i (.report r : CallOutcome ρ ν ε) : Editor ρ ν → Editor ρ ν) := by
        funext e
        by_cases h : e.current = some i <;> simp [Editor.settle, Editor.drop, h]
      simp only [finishCall, acceptReport, answer, latest, same, buffer]
      by_cases stale : request = (d.editor n).request
      · cases (d.editor n).buffer d.buffers with
        | error cause => exact ⟨[], by simp [stale, note, drops]⟩
        | ok b =>
          by_cases revision : r.revision = b.revision
          · exact ⟨[], by simp [stale, revision, note, alterEditor_alterEditor, reported]⟩
          · exact ⟨[staleNote uri], by simp [stale, revision, drops]⟩
      · exact ⟨[staleNote uri], by simp [stale, drops]⟩

theorem alike_finishCall (i : CallId) (c : TestCall ρ ν ε) (uri : String) (request : Nat)
    (result : RunResult ρ ν ε) (d : Desk σ ρ ν ε) :
    (d.alterEditor c.editor
      (Editor.settle i (d.answer c.editor request c.cancelRequested result))).Alike
        (d.finishCall i c uri request result) := by
  obtain ⟨records, same⟩ := finishCall_eq i c uri request result d
  rw [same]
  exact (alike_note _ _).trans (alike_setPhase _ _ _)

@[simp] theorem call?_finishCall (i : CallId) (c : TestCall ρ ν ε) (uri : String) (request : Nat)
    (result : RunResult ρ ν ε) (d : Desk σ ρ ν ε) (j : CallId) :
    (d.finishCall i c uri request result).call? j =
      if j = i then (d.call? i).map fun c' =>
        { c' with phase := .ended (d.answer c.editor request c.cancelRequested result) }
      else d.call? j := by
  obtain ⟨records, same⟩ := finishCall_eq i c uri request result d
  rw [same]
  simp

theorem editor_finishCall {c : TestCall ρ ν ε} (inside : c.editor < d.editors.length)
    (i : CallId) (uri : String) (request : Nat) (result : RunResult ρ ν ε) (m : Nat) :
    (d.finishCall i c uri request result).editor m =
      if m = c.editor then
        (d.editor c.editor).settle i (d.answer c.editor request c.cancelRequested result)
      else d.editor m := by
  rw [(alike_finishCall i c uri request result d).editor, editor_alterEditor inside]

/-! ### Calls that begin -/

theorem beginCall_eq {uri : String} (opened : (d.editor n).uri = some uri) (i : CallId) :
    d.beginCall i n =
      (((d.abandonRun n).alterEditor n fun e =>
        { e with request := (d.editor n).request + 1, report := none, current := some i }).setPhase
          i (.awaiting uri ((d.editor n).request + 1) .scheduled)).schedule (.run i) := by
  have same : ((d.abandonRun n).editor n).request = (d.editor n).request := by
    rw [(alike_abandonRun n d).editor]
  simp [beginCall, opened, same]

theorem editor_beginCall {uri : String} (opened : (d.editor n).uri = some uri) (i : CallId)
    (m : Nat) : (d.beginCall i n).editor m =
      if m = n then { d.editor n with
        request := (d.editor n).request + 1, report := none, current := some i }
      else d.editor m := by
  have same := alike_abandonRun n d
  have inside : n < (d.abandonRun n).editors.length := same.editors ▸ lt_of_uri opened
  rw [beginCall_eq opened, editor_schedule, editor_setPhase, editor_alterEditor inside]
  simp only [same.editor]

theorem call?_beginCall {uri : String} (opened : (d.editor n).uri = some uri) (i : CallId)
    (j : CallId) : (d.beginCall i n).call? j =
      if j = i then ((d.abandonRun n).call? i).map fun c =>
        { c with phase := .awaiting uri ((d.editor n).request + 1) .scheduled }
      else (d.abandonRun n).call? j := by
  rw [beginCall_eq opened, call?_schedule, call?_setPhase]
  simp

/-! ### Runs that go on -/

theorem alike_endRun (i : CallId) (uri : String) (request : Nat) (result : RunResult ρ ν ε)
    (d : Desk σ ρ ν ε) : d.Alike (d.endRun i uri request result) :=
  (alike_setPhase _ _ _).trans (alike_schedule _ _)

@[simp] theorem call?_endRun (i : CallId) (uri : String) (request : Nat)
    (result : RunResult ρ ν ε) (d : Desk σ ρ ν ε) (j : CallId) :
    (d.endRun i uri request result).call? j =
      if j = i then
        (d.call? i).map fun c => { c with phase := .awaiting uri request (.ended result) }
      else d.call? j := call?_setPhase i _ d j

@[simp] theorem editor_endRun (i : CallId) (uri : String) (request : Nat)
    (result : RunResult ρ ν ε) (d : Desk σ ρ ν ε) (m : Nat) :
    (d.endRun i uri request result).editor m = d.editor m := rfl

theorem alike_followUp (n : Nat) (d : Desk σ ρ ν ε) : d.Alike (d.followUp n) := by
  unfold followUp
  split
  · exact alike_schedule _ d
  · exact .refl d

@[simp] theorem call?_followUp (n : Nat) (d : Desk σ ρ ν ε) (j : CallId) :
    (d.followUp n).call? j = d.call? j := by
  unfold followUp
  split <;> rfl

/-- The states that a run of the latest request goes through end in the last of them. -/
theorem foldl_reach {request : Nat} (states : List RunState) {e : Editor ρ ν}
    (latest : e.request = request) :
    states.foldl (fun e s => e.reach request s) e =
      { e with state := states.getLast?.getD e.state } := by
  induction states generalizing e with
  | nil => rfl
  | cons s rest ih =>
    have reached : e.reach request s = { e with state := s } := by simp [Editor.reach, latest]
    have still : ({ e with state := s } : Editor ρ ν).request = request := latest
    rw [List.foldl_cons, reached, ih still]
    simp [List.getLast?_cons]

/-- What a run of the latest request leaves behind in its editor. -/
theorem editor_absorb {request : Nat} {out : Conclusion ρ ν ε × Generator × σ} {last : RunState}
    (inside : n < d.editors.length) (latest : (d.editor n).request = request)
    (states : out.1.states.getLast? = some last) (m : Nat) :
    (d.absorb n request out).editor m =
      if m = n then { d.editor n with state := last } else d.editor m := by
  have range :
      n < ({ d with generator := out.2.1, world := out.2.2 }.note out.1.notes).editors.length :=
    inside
  refine (editor_alterEditor range m).trans ?_
  change (if m = n then out.1.states.foldl (fun e s => e.reach request s) (d.editor n)
    else d.editor m) = _
  rw [foldl_reach _ latest, states, Option.getD_some]

/-! ### Operations of editors -/

@[simp] theorem call?_invalidate (n : Nat) (d : Desk σ ρ ν ε) (j : CallId) :
    (d.invalidate n).call? j = (d.abandonRun n).call? j := rfl

theorem editor_invalidate (inside : n < d.editors.length) (m : Nat) :
    (d.invalidate n).editor m = if m = n then (d.editor n).forget else d.editor m := by
  have same := alike_abandonRun n d
  rw [invalidate, editor_alterEditor (same.editors ▸ inside)]
  simp only [same.editor]

theorem invalidate_of_le (beyond : d.editors.length ≤ n) : d.invalidate n = d := by
  have idle : d.abandonRun n = d := by simp [abandonRun, editor_of_le beyond]
  rw [invalidate, idle, alterEditor_of_le _ beyond]

theorem current_invalidate (n : Nat) (d : Desk σ ρ ν ε) :
    ((d.invalidate n).editor n).current = none :=
  holds_alterEditor (P := fun e => e.current = none) rfl (fun _ => rfl) n _

theorem report_invalidate (n : Nat) (d : Desk σ ρ ν ε) :
    ((d.invalidate n).editor n).report = none :=
  holds_alterEditor (P := fun e => e.report = none) rfl (fun _ => rfl) n _

/-- An editor that lets go of its buffer has none, wherever it is. -/
theorem uri_leave (n : Nat) (d : Desk σ ρ ν ε) :
    ((d.alterEditor n Editor.leave).editor n).uri = none :=
  holds_alterEditor (P := fun e => e.uri = none) rfl (fun _ => rfl) n d

theorem uri_close (n : Nat) (d : Desk σ ρ ν ε) : ((d.close n).editor n).uri = none := by
  unfold close
  dsimp only
  split <;> exact uri_leave n (d.invalidate n)

theorem editor_invalidate_of_ne (h : m ≠ n) : (d.invalidate n).editor m = d.editor m := by
  rw [invalidate, editor_alterEditor_of_ne h, (alike_abandonRun n d).editor]

/-! ### Identifiers of buffers -/

theorem bufferUri_inj {k l : Nat} (h : bufferUri k = bufferUri l) : k = l := by
  have same : (k + 1).repr = (l + 1).repr := (String.append_right_inj _).mp h
  have digits : Nat.toDigits 10 (k + 1) = Nat.toDigits 10 (l + 1) := by
    rw [← Nat.toList_repr, ← Nat.toList_repr, same]
  have numbers := congrArg (Nat.ofDigitChars 10 · 0) digits
  simpa only [Nat.ofDigitChars_toDigits (b := 10) (by decide) (by decide), Nat.succ.injEq] using
    numbers

end Desk

end RuleBench
