import RuleBench.Proofs.Desk.Superseded

/-!
# Calls on their track

A call is on its track if it is going to answer with a report about the buffer that its editor has
open. Whatever happens that does not disturb it, it stays there and comes closer to its answer
whenever it moves (`Ongoing.move`). Only an error that passes through could throw it off.
-/

namespace RuleBench

variable {σ ρ ν η ε : Type} {p : Bench} {host : ScriptHost σ ρ ν η ε}

/-- What a run holds was made from a buffer, and it has not ended but with a report about that. -/
def RunPhase.OnTrack (p : Bench) (host : ScriptHost σ ρ ν η ε) (uri : String) (b : Buffer) :
    RunPhase ρ ν ε → Prop
  | scheduled => True
  | lowering job => job = ⟨uri, b⟩
  | lowered a => a = Buffers.Job.finish ⟨uri, b⟩
  | held a => a = Buffers.Job.finish ⟨uri, b⟩
  | released a => a = Buffers.Job.finish ⟨uri, b⟩
  | ended (.report r) => p.Reports host (Buffers.Job.finish ⟨uri, b⟩) r
  | _ => False

/-- A call that has not begun, or that waits for the run of some request, which is on its track. -/
def CallPhase.OnTrack (p : Bench) (host : ScriptHost σ ρ ν η ε) (uri : String) (b : Buffer)
    (request : Nat) : CallPhase ρ ν ε → Prop
  | scheduled => True
  | awaiting uri' request' run => uri' = uri ∧ request' = request ∧ run.OnTrack p host uri b
  | ended _ => False

/-- How many steps a run has left at most, the last of which is that its call learns of its end. -/
def RunPhase.left : RunPhase ρ ν ε → Nat
  | scheduled => 6
  | lowering _ => 5
  | lowered _ => 4
  | held _ => 3
  | released _ => 2
  | stopping => 2
  | ended _ => 1

/-- How many steps a call has left at most. -/
def CallPhase.left : CallPhase ρ ν ε → Nat
  | scheduled => 7
  | awaiting _ _ run => run.left
  | ended _ => 0

theorem RunPhase.OnTrack.of_passing {uri : String} {b : Buffer} {run : RunPhase ρ ν ε}
    {gateOpen : Bool} {a : Artifact} (h : run.OnTrack p host uri b)
    (passing : run.passing? gateOpen = some a) :
    a = Buffers.Job.finish ⟨uri, b⟩ ∧ 1 < run.left := by
  cases run with
  | lowered a' =>
    cases gateOpen with
    | true =>
      cases passing
      exact ⟨h, by simp [left]⟩
    | false => cases passing
  | released a' =>
    cases passing
    exact ⟨h, by simp [left]⟩
  | _ => cases passing

namespace Desk

variable {d d' : Desk σ ρ ν ε} {n : Nat} {i j : CallId} {uri : String} {b : Buffer}
  {phase : CallPhase ρ ν ε} {e : Event} {m : Move σ}

/-- A move disturbs a call of an editor that has a buffer open. -/
inductive Disturbs (d : Desk σ ρ ν ε) (n : Nat) (i : CallId) (uri : String) (m : Move σ) :
    Prop where
  /-- The editor is opened or closed, its text is edited, or what it knows is made void. -/
  | command (c : Command) (acts : d.act m = some (.command n c))
  /-- Another call begins in the editor, whose run under way is that of this one. -/
  | newer (j : CallId) (e : Event) (acts : d.act m = some e) (begins : d.Begins n j e)
      (other : j ≠ i) (current : (d.editor n).current = some i)
  | update (text : String) (same : m = .update uri text)
  | cancel (same : m = .cancel i)

/-- Nothing that a script raises passes through. -/
def Contained (p : Bench) (host : ScriptHost σ ρ ν η ε) (code : String) (s : σ) : Prop :=
  ∀ e w, (e, w) ∈ p.raised host code s → host.passage? e w = none

/-- A call has answered with a report about the text of a buffer. Its editor shows that report and
is in the state that belongs to it. -/
def Delivered (p : Bench) (host : ScriptHost σ ρ ν η ε) (d : Desk σ ρ ν ε) (n : Nat) (i : CallId)
    (uri : String) (b : Buffer) : Prop :=
  ∃ r, d.outcome? i = some (.report r) ∧ (d.editor n).report = some r ∧
    (d.editor n).state = r.state ∧ p.Reports host (Buffers.Job.finish ⟨uri, b⟩) r

/-- A call is on its way to a report about the buffer that its editor has open. -/
structure Ongoing (p : Bench) (host : ScriptHost σ ρ ν η ε) (d : Desk σ ρ ν ε) (n : Nat)
    (i : CallId) (uri : String) (b : Buffer) (phase : CallPhase ρ ν ε) : Prop where
  found : d.call? i = some ⟨n, phase, false⟩
  opened : (d.editor n).uri = some uri
  buffer : d.buffers.get? uri = some b
  onTrack : phase.OnTrack p host uri b (d.editor n).request

/-- How far a call has come from some phase: it has answered with its report, or it is on its way,
closer to its answer than before if it has moved at all. -/
inductive Nears (p : Bench) (host : ScriptHost σ ρ ν η ε) (d : Desk σ ρ ν ε) (n : Nat)
    (i : CallId) (uri : String) (b : Buffer) (phase : CallPhase ρ ν ε) : Prop where
  | delivered (h : d.Delivered p host n i uri b)
  | same (h : d.Ongoing p host n i uri b phase)
  | closer (phase' : CallPhase ρ ν ε) (h : d.Ongoing p host n i uri b phase')
      (less : phase'.left < phase.left)

namespace Ongoing

theorem outcome? (h : d.Ongoing p host n i uri b phase) : d.outcome? i = none := by
  have track := h.onTrack
  cases phase with
  | ended outcome => exact track.elim
  | _ => simp [Desk.outcome?, h.found, TestCall.outcome?]

/-- Nothing but the call, its editor and its buffer matters. -/
theorem of_same (h : d.Ongoing p host n i uri b phase) (call : d'.call? i = d.call? i)
    (opened : (d'.editor n).uri = (d.editor n).uri)
    (request : (d'.editor n).request = (d.editor n).request)
    (buffer : d'.buffers.get? uri = d.buffers.get? uri) : d'.Ongoing p host n i uri b phase where
  found := call.trans h.found
  opened := opened.trans h.opened
  buffer := buffer.trans h.buffer
  onTrack := request.symm ▸ h.onTrack

/-- The run of a call that is on its way belongs to the latest request. -/
theorem latest {request : Nat} {run : RunPhase ρ ν ε} (sound : d.Sound p host)
    (h : d.Ongoing p host n i uri b (.awaiting uri request run)) :
    d.Latest p host n i uri request run false := by
  obtain ⟨_, rfl, _⟩ := h.onTrack
  exact ((sound.inOrder n).calls i uri _ run false h.found).resolve_right fun overtaken =>
    Nat.lt_irrefl _ overtaken.request

/-! ### Its own events -/

theorem beginCall (h : d.Ongoing p host n i uri b .scheduled) :
    (d.beginCall i n).Ongoing p host n i uri b
      (.awaiting uri ((d.editor n).request + 1) .scheduled) := by
  have editor : (d.beginCall i n).editor n = { d.editor n with
      request := (d.editor n).request + 1, report := none, current := some i } := by
    rw [editor_beginCall h.opened, if_pos rfl]
  refine ⟨?_, ?_, ?_, ?_⟩
  · simp [call?_beginCall h.opened, call?_abandonRun, h.found, TestCall.stop]
  · rw [editor]
    exact h.opened
  · have same : (d.beginCall i n).buffers = d.buffers := by
      rw [beginCall_eq h.opened]
      exact (alike_abandonRun n d).buffers
    rw [same]
    exact h.buffer
  · rw [editor]
    exact ⟨rfl, rfl, trivial⟩

/-- Only an error that passes through could take the run off its track. -/
theorem advanceRun {request : Nat} {run : RunPhase ρ ν ε}
    (h : d.Ongoing p host n i uri b (.awaiting uri request run)) (going : run.isEnded = false)
    (contained : Contained p host (Buffers.Job.finish ⟨uri, b⟩).code d.world) :
    (d.advanceRun p host i).Nears p host n i uri b (.awaiting uri request run) := by
  obtain ⟨_, rfl, track⟩ := h.onTrack
  obtain ⟨state, run', progress, continues, _⟩ :=
    advanceRun_latest p host h.found rfl (lt_of_uri h.opened) h.buffer going
  have next (track' : run'.OnTrack p host uri b) : (d.advanceRun p host i).Ongoing p host n i uri b
      (.awaiting uri (d.editor n).request run') := by
    have editor := (progress.editor n).trans (if_pos rfl)
    refine ⟨(progress.calls i).trans (if_pos rfl), ?_, ?_, ?_⟩
    · rw [editor]
      exact h.opened
    · rw [progress.buffers]
      exact h.buffer
    · rw [editor]
      exact ⟨rfl, rfl, track'⟩
  cases continues with
  | start => exact .closer _ (next rfl) (by simp [CallPhase.left, RunPhase.left])
  | hold a => exact .closer _ (next track) (by simp [CallPhase.left, RunPhase.left])
  | report passing _ reports =>
    obtain ⟨rfl, before⟩ := track.of_passing passing
    exact .closer _ (next reports) before
  | escape passing _ raised =>
    obtain ⟨rfl, _⟩ := track.of_passing passing
    obtain ⟨w, passes, member⟩ := raised
    simp [ScriptHost.passesThrough, contained _ _ member] at passes
  | stop => exact track.elim
  | wait => exact .same (next track)

theorem finishLowering {request : Nat} {job : Buffers.Job}
    (h : d.Ongoing p host n i uri b (.awaiting uri request (.lowering job))) :
    (d.finishLowering i).Ongoing p host n i uri b
      (.awaiting uri request (.lowered (Buffers.Job.finish ⟨uri, b⟩))) := by
  obtain ⟨_, rfl, rfl⟩ := h.onTrack
  have moved : d.finishLowering i = (d.setPhase i (.awaiting uri (d.editor n).request
      (.lowered (Buffers.Job.finish ⟨uri, b⟩)))).schedule (.run i) := by
    simp [Desk.finishLowering, h.found]
  rw [moved]
  exact ⟨by simp [h.found], h.opened, h.buffer, rfl, rfl, rfl⟩

/-- The report of the run is accepted. -/
theorem finishCall {request : Nat} {r : Report ρ ν} (sound : d.Sound p host)
    (h : d.Ongoing p host n i uri b (.awaiting uri request (.ended (.report r)))) :
    (d.advanceCall i).Delivered p host n i uri b := by
  obtain ⟨state, _⟩ := (h.latest sound).fits
  obtain ⟨_, rfl, reports⟩ := h.onTrack
  have moved : d.advanceCall i = d.finishCall i
      ⟨n, .awaiting uri (d.editor n).request (.ended (.report r)), false⟩ uri
        (d.editor n).request (.report r) := by
    simp [advanceCall, h.found]
  have buffer : (d.editor n).buffer d.buffers = .ok b := Editor.buffer_of_opened h.opened h.buffer
  have revision : r.revision = b.revision := by
    simpa [Buffers.Job.finish] using reports.1
  have answers : d.answer n (d.editor n).request false (.report r) = .report r := by
    simp [answer, buffer, revision]
  have editor : (d.advanceCall i).editor n =
      (d.editor n).settle i (.report r : CallOutcome ρ ν ε) := by
    rw [moved, editor_finishCall
      (c := ⟨n, .awaiting uri (d.editor n).request (.ended (.report r)), false⟩)
      (lt_of_uri h.opened), if_pos rfl, answers]
  refine ⟨r, ?_, ?_, ?_, reports⟩
  · rw [moved]
    simp [Desk.outcome?, h.found, answers, TestCall.outcome?]
  · rw [editor]
    rfl
  · rw [editor]
    exact state

/-- An event of the call itself brings it closer to its answer, if it is due. -/
theorem react_own (sound : d.Sound p host) (h : d.Ongoing p host n i uri b phase)
    (own : e.call? = some i)
    (contained : e = .run i → Contained p host (Buffers.Job.finish ⟨uri, b⟩).code d.world) :
    (d.react p host e).Nears p host n i uri b phase := by
  by_cases due : TestCall.due i ⟨n, phase, false⟩ = some e
  · have track := h.onTrack
    cases phase with
    | scheduled =>
      cases due
      have begins : d.react p host (.call i) = d.beginCall i n := by
        simp [react, advanceCall, h.found]
      rw [begins]
      exact .closer _ h.beginCall (by simp [CallPhase.left, RunPhase.left])
    | ended outcome => exact track.elim
    | awaiting uri' request run =>
      obtain ⟨rfl, rfl, track⟩ := track
      cases run with
      | scheduled =>
        cases due
        exact h.advanceRun rfl (contained rfl)
      | lowering job =>
        cases due
        exact .closer _ h.finishLowering (by simp [CallPhase.left, RunPhase.left])
      | lowered a =>
        cases due
        exact h.advanceRun rfl (contained rfl)
      | held a => cases due
      | released a =>
        cases due
        exact h.advanceRun rfl (contained rfl)
      | stopping => exact track.elim
      | ended result =>
        cases due
        cases result with
        | report r => exact .delivered (h.finishCall sound)
        | _ => exact track.elim
  · rw [react_of_not_due own h.found due]
    exact .same h

/-! ### What happens besides -/

/-- An event of another call leaves the call alone, unless that call begins in the same editor. -/
theorem react_other (sound : d.Sound p host) (h : d.Ongoing p host n i uri b phase)
    (other : e.call? ≠ some i) (uncommanded : ∀ c, e ≠ .command n c)
    (unbegun : ∀ j, j ≠ i → d.Begins n j e → (d.editor n).current ≠ some i) :
    (d.react p host e).Ongoing p host n i uri b phase := by
  have call : (d.react p host e).call? i = d.call? i := by
    rcases call?_react_of_ne p host other with same | ⟨k, stopped, what⟩
    · exact same
    · rw [stopped, call?_abandonRun]
      refine if_neg fun current => ?_
      obtain ⟨uri', run, asked, found⟩ := (sound.inOrder k).current i current
      obtain rfl : n = k := by
        rw [h.found, Option.some.injEq, TestCall.mk.injEq] at found
        exact found.1
      rcases what with ⟨c, same⟩ | ⟨j, ne, begins⟩
      · exact uncommanded c same
      · exact unbegun j ne begins current
  have opened := uri_react (d := d) p host uncommanded
  have buffer := get?_react sound h.opened uncommanded
  cases phase with
  | scheduled => exact ⟨call.trans h.found, opened.trans h.opened, buffer.trans h.buffer, trivial⟩
  | awaiting uri' request run =>
    obtain ⟨rfl, rfl, _⟩ := h.onTrack
    have current := (h.latest sound).current
    refine h.of_same call opened (request_react uncommanded fun j begins => ?_) buffer
    by_cases own : j = i
    · subst own
      exact absurd (begins.2.symm.trans h.found) (by simp)
    · exact unbegun j own begins current
  | ended outcome => exact h.onTrack.elim

/-- A quiet move that does not disturb a call at most lets its run past the gate. -/
theorem move_quiet (h : d.Ongoing p host n i uri b phase) (quiet : d.act m = none)
    (undisturbed : ¬ d.Disturbs n i uri m) :
    (d.move p host m).Nears p host n i uri b phase := by
  have alike := editor_move_of_quiet p host quiet n
  have buffer := get?_move_of_quiet p host quiet fun text same =>
    undisturbed (.update text same)
  obtain ⟨c, after, rfl | ⟨cancels, _⟩ | ⟨_, rfl⟩⟩ :=
    call?_move_of_quiet p host quiet h.found
  · exact .same (h.of_same (after.trans h.found.symm) alike.uri alike.request buffer)
  · exact absurd (.cancel cancels) undisturbed
  · have opened := alike.uri.trans h.opened
    have track := h.onTrack
    rw [← alike.request] at track
    cases phase with
    | awaiting uri' request run =>
      cases run with
      | held a =>
        exact .closer _ ⟨after, opened, buffer.trans h.buffer, track⟩
          (by simp [CallPhase.left, RunPhase.left])
      | _ => exact .same ⟨after, opened, buffer.trans h.buffer, track⟩
    | _ => exact .same ⟨after, opened, buffer.trans h.buffer, track⟩

/-- A call that nothing disturbs stays on its track, whatever the next move is. -/
theorem move (sound : d.Sound p host) (h : d.Ongoing p host n i uri b phase)
    (undisturbed : ¬ d.Disturbs n i uri m)
    (contained : d.act m = some (.run i) →
      Contained p host (Buffers.Job.finish ⟨uri, b⟩).code d.world) :
    (d.move p host m).Nears p host n i uri b phase := by
  cases acts : d.act m with
  | none => exact h.move_quiet acts undisturbed
  | some e =>
    obtain ⟨ready, same⟩ := move_of_act (η := η) acts
    have taken := sound.taken ready
    have h' : ({ d with ready } : Desk σ ρ ν ε).Ongoing p host n i uri b phase :=
      ⟨h.found, h.opened, h.buffer, h.onTrack⟩
    rw [same]
    by_cases own : e.call? = some i
    · refine h'.react_own taken own ?_
      rintro rfl
      exact contained acts
    · refine .same (h'.react_other taken own ?_ ?_)
      · rintro c rfl
        exact undisturbed (.command c acts)
      · intro j other begins current
        exact undisturbed (.newer j e acts begins other current)

end Ongoing

end Desk

end RuleBench
