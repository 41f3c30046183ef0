import RuleBench.Proofs.Desk.Mirror.Operation

/-!
# Events on desks that mirror each other

Every event of an editor keeps the mirror if it happens on both desks, as long as runs that go past
their compilations come to conclusions that read alike (`Mirrors.react`).
-/

namespace RuleBench

variable {σ ρ ν η ε : Type} {p : Bench} {host : ScriptHost σ ρ ν η ε}

namespace Desk

namespace Mirrors

variable {d d' : Desk σ ρ ν ε} {n : Nat} {i j : CallId} {e e' : Event}

/-! ### Events of calls -/

theorem endCall (h : d.Mirrors n d') (own : d.rank n i = some j)
    {outcome outcome' : CallOutcome ρ ν ε} (outcomes : outcome.Mirrors outcome') :
    (d.endCall i outcome).Mirrors n (d'.endCall j outcome') :=
  h.setPhase own (.ended outcomes)

theorem beginCall (h : d.Mirrors n d') (own : d.rank n i = some j) :
    (d.beginCall i n).Mirrors n (d'.beginCall j n) := by
  have same := h.editor.uri
  cases opened : (d.editor n).uri with
  | none =>
    cases opened' : (d'.editor n).uri with
    | none =>
      simp only [Desk.beginCall, opened, opened']
      exact h.endCall own (.failed .notOpen)
    | some uri' => rw [opened, opened'] at same; cases same
  | some uri =>
    cases opened' : (d'.editor n).uri with
    | none => rw [opened, opened'] at same; cases same
    | some uri' =>
      have idle := h.abandonRun
      have own : (d.abandonRun n).rank n i = some j := by
        rw [rank, sites_abandonRun]
        exact own
      let begin (l : CallId) (e : Editor ρ ν) : Editor ρ ν :=
        { e with request := (d.editor n).request + 1, report := none, current := some l }
      have begun : ((d.abandonRun n).alterEditor n (begin i)).Mirrors n
          ((d'.abandonRun n).alterEditor n (begin j)) :=
        idle.alterEditor (fun _ => rfl) (fun _ => rfl)
          ⟨idle.editor.uri, idle.editor.state, .none, .some own, rfl⟩
      rw [beginCall_eq opened, beginCall_eq opened', h.editor.request]
      exact begun.proceed own (.awaiting uri uri' _ .scheduled) (mirrored_run own)

/-- What the editors have open is a buffer on both desks, or on neither. -/
theorem buffers (h : d.Mirrors n d') :
    (∃ b, (d.editor n).buffer d.buffers = .ok b ∧ (d'.editor n).buffer d'.buffers = .ok b) ∨
      ∃ cause cause', (d.editor n).buffer d.buffers = .error cause ∧
        (d'.editor n).buffer d'.buffers = .error cause' ∧ cause.Mirrors cause' := by
  have same := h.editor.uri
  have buffer := h.buffer
  cases opened : (d.editor n).uri with
  | none =>
    cases opened' : (d'.editor n).uri with
    | none => exact .inr ⟨.notOpen, .notOpen, by simp [Editor.buffer, opened],
        by simp [Editor.buffer, opened'], .notOpen⟩
    | some uri' => rw [opened, opened'] at same; cases same
  | some uri =>
    cases opened' : (d'.editor n).uri with
    | none => rw [opened, opened'] at same; cases same
    | some uri' =>
      rw [openBuffer?_of_opened opened, openBuffer?_of_opened opened'] at buffer
      cases found : d.buffers.get? uri with
      | some b =>
        exact .inl ⟨b, Editor.buffer_of_opened opened found,
          Editor.buffer_of_opened opened' (buffer.trans found)⟩
      | none =>
        have found' := buffer.trans found
        exact .inr ⟨.notRegistered ⟨uri⟩, .notRegistered ⟨uri'⟩,
          by simp [Editor.buffer, opened, Buffers.get, found, Except.mapError],
          by simp [Editor.buffer, opened', Buffers.get, found', Except.mapError],
          .notRegistered _ _⟩

/-- Calls whose runs ended alike answer alike. -/
theorem answer (h : d.Mirrors n d') (request : Nat) (asked : Bool)
    {result result' : RunResult ρ ν ε} (results : result.Mirrors result') :
    (d.answer n request asked result).Mirrors (d'.answer n request asked result') := by
  cases asked with
  | true =>
    rw [answer_asked, answer_asked]
    exact .cancelled
  | false =>
    cases results with
    | cancelled => exact .superseded
    | notRegistered cause cause' => exact .failed (.notRegistered cause cause')
    | raised e e' => exact .raised e e'
    | report reports =>
      simp only [Desk.answer, Bool.false_eq_true, if_false, h.editor.request, reports.revision]
      split
      · exact .superseded
      · rcases h.buffers with ⟨b, buffer, buffer'⟩ | ⟨cause, cause', closed, closed', causes⟩
        · simp only [buffer, buffer']
          split
          · exact .superseded
          · exact .report reports
        · simp only [closed, closed']
          exact .failed causes

theorem finishCall (h : d.Mirrors n d') (own : d.rank n i = some j) {c c' : TestCall ρ ν ε}
    (site : c.editor = n) (like : c.Mirrors c') (uri uri' : String) (request : Nat)
    {result result' : RunResult ρ ν ε} (results : result.Mirrors result') :
    (d.finishCall i c uri request result).Mirrors n
      (d'.finishCall j c' uri' request result') := by
  obtain ⟨records, same⟩ := finishCall_eq i c uri request result d
  obtain ⟨records', same'⟩ := finishCall_eq j c' uri' request result' d'
  have answers := h.answer request c.cancelRequested results
  have settled : (d.alterEditor n
      (Editor.settle i (d.answer n request c.cancelRequested result))).Mirrors n
      (d'.alterEditor n (Editor.settle j (d'.answer n request c.cancelRequested result'))) :=
    h.alterEditor (fun _ => rfl) (fun _ => rfl)
      (h.editor.settle own (fun l here => rankIn_inj here own) answers)
  rw [same, same', like.editor, like.cancelRequested, site]
  exact (settled.note _ _).endCall own answers

theorem advanceCall (h : d.Mirrors n d') (own : d.rank n i = some j) :
    (d.advanceCall i).Mirrors n (d'.advanceCall j) := by
  obtain ⟨⟨m, phase, asked⟩, found, rfl⟩ := exists_call?_of_rank own
  obtain ⟨⟨m', phase', asked'⟩, found', like⟩ := h.calls i j _ own found
  obtain rfl : m' = m := like.editor
  obtain rfl : asked' = asked := like.cancelRequested
  have phases : phase.Mirrors phase' := like.phase
  simp only [Desk.advanceCall, found, found']
  cases phases with
  | scheduled =>
    dsimp only
    split
    · exact h.endCall own .cancelled
    · exact h.beginCall own
  | awaiting uri uri' request runs =>
    cases runs with
    | ended results => exact h.finishCall own rfl like uri uri' request results
    | _ => exact h
  | ended outcomes => exact h

/-! ### Events of runs -/

/-- A run begins on both desks; its buffer is the one that is open. -/
theorem beginRun (h : d.Mirrors n d') (own : d.rank n i = some j) {uri uri' : String}
    (opened : (d.editor n).uri = some uri) (opened' : (d'.editor n).uri = some uri')
    (request : Nat) : (d.beginRun i n uri request).Mirrors n (d'.beginRun j n uri' request) := by
  have kept (e : Editor ρ ν) : (e.reach request .compiling).uri = e.uri := by
    obtain ⟨state, same⟩ := reach_state request .compiling e
    rw [same]
  have reached := h.alterEditor kept kept (h.editor.reach request .compiling)
  have buffer := h.buffer
  rw [openBuffer?_of_opened opened, openBuffer?_of_opened opened'] at buffer
  simp only [Desk.beginRun, Desk.alterEditor, Buffers.start, Buffers.get, buffer]
  cases d.buffers.get? uri with
  | none => exact reached.endRun own uri uri' request (.notRegistered ⟨uri⟩ ⟨uri'⟩)
  | some b =>
    have jobs : (RunPhase.lowering ⟨uri, b⟩ : RunPhase ρ ν ε).Mirrors (.lowering ⟨uri', b⟩) :=
      .lowering rfl
    exact (reached.note _ _).proceed own (.awaiting uri uri' request jobs) (mirrored_lowering own)

theorem absorb (h : d.Mirrors n d') (request : Nat)
    {out out' : Conclusion ρ ν ε × Generator × σ} (states : out'.1.states = out.1.states) :
    (d.absorb n request out).Mirrors n (d'.absorb n request out') := by
  obtain ⟨c, generator, world⟩ := out
  obtain ⟨c', generator', world'⟩ := out'
  have states : c'.states = c.states := states
  have moved : Mirrors n ({ d with generator, world }.note c.notes)
      ({ d' with generator := generator', world := world' }.note c'.notes) :=
    h.of_sameLoop ⟨rfl, rfl, rfl, rfl, rfl, rfl⟩ ⟨rfl, rfl, rfl, rfl, rfl, rfl⟩ h.editor h.buffer
  have kept (e : Editor ρ ν) :
      (c.states.foldl (fun e s => e.reach request s) e).uri = e.uri := by
    obtain ⟨state, same⟩ := foldl_reach_state request c.states e
    rw [same]
  have through (states : List RunState) {e e' : Editor ρ ν} (like : e.Mirrors (d.rank n) e') :
      (states.foldl (fun e s => e.reach request s) e).Mirrors (d.rank n)
        (states.foldl (fun e s => e.reach request s) e') := by
    induction states generalizing e e' with
    | nil => exact like
    | cons s rest ih => exact ih (like.reach request s)
  simp only [Desk.absorb, states]
  exact moved.alterEditor kept kept (through c.states h.editor)

theorem followUp (h : d.Mirrors n d') : (d.followUp n).Mirrors n (d'.followUp n) := by
  unfold Desk.followUp
  rw [h.afterRun]
  split
  · exact h.schedule (by simp [Event.mirrored])
  · exact h

/-- After an interrupt nothing goes on. -/
theorem interrupted (h : d.Mirrors n d') (e e' : ε) :
    Mirrors n { d with interrupt := some e } { d' with interrupt := some e' } where
  editor := h.editor
  editors := h.editors
  buffer := h.buffer
  count := h.count
  calls := h.calls
  known := h.known
  ready := fun going => by cases going
  going := fun going => by cases going
  gateOpen := h.gateOpen
  afterRun := h.afterRun

/-- A run comes to its end on both desks, with conclusions that agree. -/
theorem conclude (h : d.Mirrors n d') (own : d.rank n i = some j) (uri uri' : String)
    (request : Nat) {a a' : Artifact}
    (agree : Bench.Agree host (p.conclude host a d.generator d.world)
      (p.conclude host a' d'.generator d'.world)) :
    (d.conclude p host i n uri request a).Mirrors n (d'.conclude p host j n uri' request a') := by
  have absorbed := h.absorb request agree.states
  unfold Desk.conclude
  dsimp only
  cases agree with
  | report states result result' reports =>
    rw [result, result']
    dsimp only
    have followed (d : Desk σ ρ ν ε) : (d.followUp n).rank n = d.rank n := by
      unfold Desk.followUp
      split <;> rfl
    refine absorbed.followUp.endRun ?_ uri uri' request (.report reports)
    rw [followed]
    exact own
  | stopped states result result' passage =>
    rename_i e e'
    rw [result, result']
    dsimp only
    have left (d : Desk σ ρ ν ε) (request : Nat) (out : Conclusion ρ ν ε × Generator × σ) :
        (d.absorb n request out).world = out.2.2 := rfl
    rw [left, left, passage]
    split
    · exact (absorbed.interrupted e e').endRun own uri uri' request (.raised e e')
    · exact absorbed.endRun own uri uri' request .cancelled
    · exact absorbed.endRun own uri uri' request (.raised e e')

/-- A run goes on on both desks. If it goes past its compilation, its conclusions have to agree. -/
theorem advanceRun (h : d.Mirrors n d') (sound : d.Sound p host) (sound' : d'.Sound p host)
    (own : d.rank n i = some j)
    (agree : ∀ a a', d.PassesOn i a (.run i) → a.Mirrors a' →
      Bench.Agree host (p.conclude host a d.generator d.world)
        (p.conclude host a' d'.generator d'.world)) :
    (d.advanceRun p host i).Mirrors n (d'.advanceRun p host j) := by
  obtain ⟨⟨m, phase, asked⟩, found, rfl⟩ := exists_call?_of_rank own
  obtain ⟨⟨m', phase', asked'⟩, found', like⟩ := h.calls i j _ own found
  obtain rfl : m' = m := like.editor
  have phases : phase.Mirrors phase' := like.phase
  simp only [Desk.advanceRun, found, found']
  cases phases with
  | scheduled => exact h
  | ended outcomes => exact h
  | awaiting uri uri' request runs =>
    cases runs with
    | scheduled =>
      have latest := (sound.inOrder m').latest_of_not_isOver found id
      have latest' := (sound'.inOrder m').latest_of_not_isOver found' id
      exact h.beginRun own latest.opened latest'.opened request
    | stopping => exact h.endRun own uri uri' request .cancelled
    | lowered artifacts =>
      rename_i a a'
      have noted := h.note (Buffers.finishNotes a) (Buffers.finishNotes a')
      have gate := noted.gateOpen
      dsimp only
      rw [gate]
      split
      · next isOpen =>
        have isOpen : d.gateOpen = true := isOpen
        have passes : d.PassesOn i a (.run i) :=
          .intro found (by simp [RunPhase.passing?, isOpen])
        exact noted.conclude own uri uri' request (agree a a' passes artifacts)
      · exact noted.setPhase own (.awaiting uri uri' request (.held artifacts))
    | released artifacts =>
      exact h.conclude own uri uri' request (agree _ _ (.intro found rfl) artifacts)
    | lowering jobs => exact h
    | held artifacts => exact h
    | ended results => exact h

theorem finishLowering (h : d.Mirrors n d') (own : d.rank n i = some j) :
    (d.finishLowering i).Mirrors n (d'.finishLowering j) := by
  obtain ⟨⟨m, phase, asked⟩, found, -⟩ := exists_call?_of_rank own
  obtain ⟨⟨m', phase', asked'⟩, found', like⟩ := h.calls i j _ own found
  have phases : phase.Mirrors phase' := like.phase
  simp only [Desk.finishLowering, found, found']
  cases phases with
  | awaiting uri uri' request runs =>
    cases runs with
    | lowering jobs =>
      rename_i job job'
      have finished : job.finish.Mirrors job'.finish := by
        simp only [Buffers.Job.finish, jobs]
        exact Artifact.mirrors_ofText _ _ _ _
      exact h.proceed own (.awaiting uri uri' request (.lowered finished)) (mirrored_run own)
    | _ => exact h
  | _ => exact h

/-- An event of the editor happens on both desks. -/
theorem react (h : d.Mirrors n d') (sound : d.Sound p host) (sound' : d'.Sound p host)
    (same : e.mirrored n (d.rank n) = some e')
    (agree : ∀ i a a', d.PassesOn i a e → a.Mirrors a' →
      Bench.Agree host (p.conclude host a d.generator d.world)
        (p.conclude host a' d'.generator d'.world)) :
    (d.react p host e).Mirrors n (d'.react p host e') := by
  cases e with
  | call i =>
    obtain ⟨j, own, rfl⟩ := Option.map_eq_some_iff.mp same
    exact h.advanceCall own
  | run i =>
    obtain ⟨j, own, rfl⟩ := Option.map_eq_some_iff.mp same
    exact h.advanceRun sound sound' own (agree i)
  | lowering i =>
    obtain ⟨j, own, rfl⟩ := Option.map_eq_some_iff.mp same
    exact h.finishLowering own
  | command k command =>
    simp only [Event.mirrored] at same
    split at same
    · next here =>
      cases same
      subst here
      exact h.perform p command
    · cases same

end Mirrors

end Desk

end RuleBench
