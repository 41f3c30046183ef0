import RuleBench.Proofs.Desk.Move
import RuleBench.Proofs.Desk.Order

/-!
# Desks that are sound

Every operation and every event leaves all editors in order, so that whatever moves lead to is
sound (`Reachable.sound`).
-/

namespace RuleBench

variable {σ ρ ν η ε : Type} {p : Bench} {host : ScriptHost σ ρ ν η ε}

namespace Desk

variable {d d' : Desk σ ρ ν ε} {m n : Nat} {i : CallId} {uri : String} {request : Nat}
  {run run' : RunPhase ρ ν ε} {asked asked' : Bool} {state : RunState}

/-! ### Runs that go on -/

/-- A call that goes on is no call of another editor. -/
theorem Progress.spares {c : TestCall ρ ν ε} (progress : d.Progress d' n i state c)
    (found : d.call? i = some ⟨n, .awaiting uri request run, asked⟩) (own : c.editor = n)
    (other : m ≠ n) : d.Spares m d' where
  editor := .of_eq (by simp [progress.editor, other])
  calls j uri' request' run' asked' := by
    rw [progress.calls]
    by_cases hj : j = i
    · subst hj
      have ne : c ≠ ⟨m, .awaiting uri' request' run', asked'⟩ := by
        rintro rfl
        exact other own
      simp [found, ne, other.symm]
    · simp [hj]
  knows uri' _ b known := progress.buffers ▸ known
  opened := Nat.le_of_eq progress.opened.symm
  interrupt := progress.interrupt

/-- A run goes on. If it is over, the state of its editor is none of its business. -/
theorem Sound.progress (h : d.Sound p host)
    (found : d.call? i = some ⟨n, .awaiting uri request run, asked⟩)
    (progress : d.Progress d' n i state ⟨n, .awaiting uri request run', asked'⟩)
    (isOver : run.IsOver d.interrupt.isSome →
      state = (d.editor n).state ∧ run'.IsOver d'.interrupt.isSome)
    (fits : d.Latest p host n i uri request run asked →
      run'.Fits p host d.buffers uri state asked' d'.interrupt.isSome) : d'.Sound p host := by
  have self := h.inOrder n
  have editor : d'.editor n = { d.editor n with state } := by simp [progress.editor]
  have stays (overtaken : d.Overtaken n request run) : state = (d.editor n).state :=
    (isOver overtaken.isOver).1
  refine h.of_spares (fun m ne => progress.spares found rfl ne)
    ⟨fun uri' opened => ?_, fun j current => ?_, fun r reported => ?_,
      fun j uri' request' run₁ asked₁ found' => ?_⟩
    fun uri' opened m ne same => h.apart m n uri' ne same (by simpa [editor] using opened)
  · rw [progress.opened, progress.buffers]
    exact self.buffer uri' (by simpa [editor] using opened)
  · have current : (d.editor n).current = some j := by simpa [editor] using current
    obtain ⟨uri', run₁, asked₁, found'⟩ := self.current j current
    rw [editor, progress.calls]
    by_cases hj : j = i
    · subst hj
      rw [found, Option.some.injEq, TestCall.mk.injEq, CallPhase.awaiting.injEq] at found'
      obtain ⟨_, ⟨_, rfl, _⟩, _⟩ := found'
      exact ⟨uri, run', asked', by simp⟩
    · exact ⟨uri', run₁, asked₁, by simpa [hj] using found'⟩
  · have reported : (d.editor n).report = some r := by simpa [editor] using reported
    have overtaken : d.Overtaken n request run :=
      (self.calls i uri request run asked found).resolve_left fun latest =>
        absurd (reported.symm.trans latest.report) (by simp)
    rw [editor, stays overtaken, progress.buffers]
    exact self.report r reported
  · rw [progress.calls] at found'
    by_cases hj : j = i
    · subst hj
      rw [if_pos rfl, Option.some.injEq, TestCall.mk.injEq, CallPhase.awaiting.injEq] at found'
      obtain ⟨_, ⟨rfl, rfl, rfl⟩, rfl⟩ := found'
      cases self.calls j uri request run asked found with
      | inl latest =>
        refine .inl ⟨?_, ?_, ?_, ?_, ?_⟩
        · simpa [editor] using latest.request
        · simpa [editor] using latest.opened
        · simpa [editor] using latest.current
        · simpa [editor] using latest.report
        · simpa [editor, progress.buffers] using fits latest
      | inr overtaken =>
        exact .inr ⟨by simpa [editor] using overtaken.request, (isOver overtaken.isOver).2⟩
    · rw [if_neg hj] at found'
      cases self.calls j uri' request' run₁ asked₁ found' with
      | inl latest =>
        have overtaken : d.Overtaken n request run :=
          (self.calls i uri request run asked found).resolve_left fun latest' =>
            absurd (latest.current.symm.trans latest'.current) (by simpa using hj)
        refine .inl ⟨?_, ?_, ?_, ?_, ?_⟩
        · simpa [editor] using latest.request
        · simpa [editor] using latest.opened
        · simpa [editor] using latest.current
        · simpa [editor] using latest.report
        · rw [editor, stays overtaken, progress.buffers]
          exact latest.fits.mono (fun _ known => known) progress.interrupt
      | inr overtaken =>
        exact .inr ⟨by simpa [editor] using overtaken.request,
          overtaken.isOver.mono progress.interrupt⟩

/-- A run of the latest request goes on from one phase to another as it should. -/
theorem Continues.fits {b : Buffer} {interrupted interrupted' : Bool}
    (h : d.Continues p host n uri b run state run')
    (fits : run.Fits p host d.buffers uri (d.editor n).state asked interrupted)
    (buffer : d.buffers.get? uri = some b)
    (interrupt : ∀ e, run' = .ended (.raised e) → interrupted' = true) :
    run'.Fits p host d.buffers uri state asked interrupted' := by
  cases h with
  | start => exact ⟨rfl, rfl, .of_get? buffer⟩
  | hold a => exact fits
  | report passing _ reports => exact ⟨rfl, _, (fits.made_of_passing passing).2, reports⟩
  | escape _ _ _ _ ends =>
    rcases ends with rfl | rfl
    · trivial
    · exact interrupt _ rfl
  | stop => trivial
  | wait waiting =>
    rcases waiting with ⟨job, rfl⟩ | ⟨a, rfl⟩
    · exact fits
    · exact fits

namespace Sound

/-- Whatever else a desk holds is of no account. -/
theorem congr (h : d.Sound p host) (editors : d'.editors = d.editors) (calls : d'.calls = d.calls)
    (buffers : d'.buffers = d.buffers) (opened : d'.opened = d.opened)
    (interrupt : d'.interrupt = d.interrupt) : d'.Sound p host :=
  h.spared fun m =>
    { editor := .of_eq (by simp only [editor, editors])
      calls := fun i uri request run asked => by simp only [call?, calls]
      knows := fun _ _ _ known => buffers ▸ known
      opened := Nat.le_of_eq opened.symm
      interrupt := fun interrupted => interrupt ▸ interrupted }

theorem taken (h : d.Sound p host) (ready : List Event) :
    ({ d with ready } : Desk σ ρ ν ε).Sound p host := h.congr rfl rfl rfl rfl rfl

theorem advanceRun (h : d.Sound p host) (i : CallId) : (d.advanceRun p host i).Sound p host := by
  cases found : d.call? i with
  | none => simpa [Desk.advanceRun, found] using h
  | some c =>
    obtain ⟨n, phase, asked⟩ := c
    cases phase with
    | scheduled => simpa [Desk.advanceRun, found] using h
    | ended outcome => simpa [Desk.advanceRun, found] using h
    | awaiting uri request run =>
      cases ended : run.isEnded with
      | true =>
        obtain ⟨result, rfl⟩ := RunPhase.ended_of_isEnded ended
        rwa [advanceRun_ended found]
      | false =>
        by_cases isOver : run.IsOver d.interrupt.isSome
        · obtain rfl : run = .stopping := isOver.eq_stopping ended
          rw [advanceRun_stopping found]
          have progress := (progress_setPhase found (.ended .cancelled)).schedule (.call i)
          exact h.progress found progress (fun _ => ⟨rfl, trivial⟩) fun _ => trivial
        · have latest := (h.inOrder n).latest_of_not_isOver found isOver
          obtain ⟨_, b, buffer⟩ := (h.inOrder n).buffer uri latest.opened
          obtain ⟨state, run', progress, continues, interrupt⟩ :=
            advanceRun_latest p host found latest.request
              (lt_of_uri latest.opened) buffer ended
          exact h.progress found progress (fun past => (isOver past).elim) fun latest =>
            continues.fits latest.fits buffer fun e raised => by rw [interrupt e raised]; rfl

theorem finishLowering (h : d.Sound p host) (i : CallId) :
    (d.finishLowering i).Sound p host := by
  unfold Desk.finishLowering
  split
  · next n uri request job asked found =>
    have progress := (progress_setPhase found (.lowered job.finish)).schedule (.run i)
    refine h.progress found progress False.elim fun latest => ?_
    obtain ⟨state, rfl, known⟩ := latest.fits
    exact ⟨state, .of_job known⟩
  · exact h

theorem release (h : d.Sound p host) (i : CallId) : (d.release i).Sound p host := by
  unfold Desk.release
  split
  · next uri request a phase =>
    obtain ⟨⟨n, _, asked⟩, found, rfl⟩ := Option.map_eq_some_iff.mp phase
    have progress := (progress_setPhase found (.released a)).schedule (.run i)
    exact h.progress found progress False.elim fun latest => latest.fits
  · exact h

/-- A call is cancelled while its run is under way. -/
theorem stopRun_markCancelled (h : d.Sound p host)
    (found : d.call? i = some ⟨n, .awaiting uri request run, asked⟩) :
    ((d.markCancelled i).stopRun i).Sound p host := by
  have same := (alike_markCancelled i d).trans (alike_stopRun i _)
  have progress : d.Progress ((d.markCancelled i).stopRun i) n i (d.editor n).state
      ⟨n, .awaiting uri request run.stop, true⟩ :=
    { editor := fun m => by
        rw [same.editor]
        exact (progress_refl found).editor m
      calls := fun j => by
        rw [call?_stopRun]
        by_cases hj : j = i
        · simp [hj, found, TestCall.stop]
        · simp [hj]
      buffers := same.buffers
      opened := same.opened
      interrupt := fun interrupted => (congrArg Option.isSome same.interrupt).trans interrupted }
  refine h.progress found progress (fun isOver => ⟨rfl, ?_⟩) fun latest => ?_
  · exact isOver.stop.mono progress.interrupt
  · exact latest.fits.stop.mono (fun _ known => known) progress.interrupt

theorem cancelCall (h : d.Sound p host) (i : CallId) : (d.cancelCall i).2.Sound p host := by
  unfold Desk.cancelCall
  split
  · next phase =>
    obtain ⟨c, found, scheduled⟩ := Option.map_eq_some_iff.mp phase
    refine h.spared fun m => ⟨.refl _, fun j uri request run asked => ?_, fun _ _ _ known => known,
      Nat.le_refl _, id⟩
    by_cases hj : j = i
    · subst hj
      obtain ⟨n, _, asked'⟩ := c
      subst scheduled
      simp [found]
    · simp [hj]
  · next phase =>
    obtain ⟨⟨n, _, asked⟩, found, rfl⟩ := Option.map_eq_some_iff.mp phase
    exact h.stopRun_markCancelled found
  · exact h

end Sound

/-! ### Operations of editors -/

/-- When the run that an editor has under way is stopped, all its calls have runs that are over. -/
theorem InOrder.isOver_of_stopped (h : d.InOrder p host n)
    (found : (d.abandonRun n).call? i = some ⟨n, .awaiting uri request run, asked⟩) :
    request ≤ (d.editor n).request ∧ run.IsOver d.interrupt.isSome := by
  rw [call?_abandonRun] at found
  by_cases current : (d.editor n).current = some i
  · obtain ⟨uri', request', run', asked', found', latest⟩ := h.latest_of_current current
    rw [if_pos current, found', Option.map_some, Option.some.injEq] at found
    change (⟨n, .awaiting uri' request' run'.stop, asked'⟩ : TestCall ρ ν ε) = _ at found
    rw [TestCall.mk.injEq, CallPhase.awaiting.injEq] at found
    obtain ⟨_, ⟨_, rfl, rfl⟩, _⟩ := found
    exact ⟨Nat.le_of_eq latest.request.symm, latest.fits.isOver_stop⟩
  · rw [if_neg current] at found
    cases h.calls i uri request run asked found with
    | inl latest => exact absurd latest.current current
    | inr overtaken => exact ⟨Nat.le_of_lt overtaken.request, overtaken.isOver⟩

/-- When the run that an editor has under way is stopped, other editors are spared. -/
theorem InOrder.spares_abandonRun (h : d.InOrder p host n) (other : m ≠ n) :
    d.Spares m (d.abandonRun n) where
  editor := .of_eq ((alike_abandonRun n d).editor m)
  calls i uri request run asked := by
    rw [call?_abandonRun]
    by_cases current : (d.editor n).current = some i
    · obtain ⟨uri', run', asked', found⟩ := h.current i current
      simp [current, found, TestCall.stop, other.symm]
    · simp [current]
  knows uri _ b known := (alike_abandonRun n d).buffers ▸ known
  opened := Nat.le_of_eq (alike_abandonRun n d).opened.symm
  interrupt := fun interrupted =>
    (congrArg Option.isSome (alike_abandonRun n d).interrupt).trans interrupted

/-- An editor without a report and without a run under way. -/
theorem InOrder.of_idle
    (buffer : ∀ uri, (d.editor n).uri = some uri →
      (∃ k < d.opened, uri = bufferUri k) ∧ ∃ b, d.buffers.get? uri = some b)
    (current : (d.editor n).current = none) (report : (d.editor n).report = none)
    (calls : ∀ i uri request run asked,
      d.call? i = some ⟨n, .awaiting uri request run, asked⟩ → d.Overtaken n request run) :
    d.InOrder p host n where
  buffer := buffer
  current i current' := absurd (current.symm.trans current') (by simp)
  report r reported := absurd (report.symm.trans reported) (by simp)
  calls i uri request run asked found := .inr (calls i uri request run asked found)

theorem spares_alterEditor (n : Nat) (f : Editor ρ ν → Editor ρ ν) (d : Desk σ ρ ν ε)
    (other : m ≠ n) : d.Spares m (d.alterEditor n f) where
  editor := .of_eq (editor_alterEditor_of_ne other)
  calls _ _ _ _ _ := Iff.rfl
  knows _ _ _ known := known
  opened := Nat.le_refl _
  interrupt := id

theorem spares_alterEditor_alike {f : Editor ρ ν → Editor ρ ν} (n m : Nat) (d : Desk σ ρ ν ε)
    (h : ∀ e : Editor ρ ν, e.Alike (f e)) : d.Spares m (d.alterEditor n f) where
  editor := related_alterEditor .refl h n m d
  calls _ _ _ _ _ := Iff.rfl
  knows _ _ _ known := known
  opened := Nat.le_refl _
  interrupt := id

theorem spares_buffers {bs : Buffers} (n : Nat) (d : Desk σ ρ ν ε)
    (keeps : ∀ uri, (d.editor n).uri = some uri →
      ∀ b, d.buffers.Knows uri b → bs.Knows uri b) : d.Spares n { d with buffers := bs } where
  editor := .refl _
  calls _ _ _ _ _ := Iff.rfl
  knows := keeps
  opened := Nat.le_refl _
  interrupt := id

theorem spares_note (n : Nat) (records : List LogRecord) (d : Desk σ ρ ν ε) :
    d.Spares n (d.note records) where
  editor := .refl _
  calls _ _ _ _ _ := Iff.rfl
  knows _ _ _ known := known
  opened := Nat.le_refl _
  interrupt := id

namespace Sound

theorem note (h : d.Sound p host) (records : List LogRecord) : (d.note records).Sound p host :=
  h.spared fun m => spares_note m records d

theorem invalidate (h : d.Sound p host) (n : Nat) : (d.invalidate n).Sound p host := by
  by_cases inside : n < d.editors.length
  · have same := alike_abandonRun n d
    have editor : (d.invalidate n).editor n = (d.editor n).forget := by
      rw [editor_invalidate inside, if_pos rfl]
    refine h.of_spares (n := n)
      (fun m other => ((h.inOrder n).spares_abandonRun other).trans
        (spares_alterEditor n _ _ other))
      (.of_idle (fun uri opened => ?_) ?_ ?_ fun i uri request run asked found => ?_)
      fun uri opened m other same => h.apart m n uri other same ?_
    · have buffers : (d.invalidate n).buffers = d.buffers := same.buffers
      have opened' : (d.invalidate n).opened = d.opened := same.opened
      rw [buffers, opened']
      exact (h.inOrder n).buffer uri (by rwa [editor] at opened)
    · rw [editor]; rfl
    · rw [editor]; rfl
    · obtain ⟨le, isOver⟩ := (h.inOrder n).isOver_of_stopped found
      refine ⟨?_, isOver.mono (congrArg Option.isSome same.interrupt).trans⟩
      rw [editor]
      exact Nat.lt_succ_of_le le
    · rwa [editor] at opened
  · rwa [invalidate_of_le (Nat.le_of_not_lt inside)]

/-- An editor that is idle lets go of its buffer. -/
theorem leave (h : d.Sound p host) (current : (d.editor n).current = none)
    (report : (d.editor n).report = none) {bs : Buffers}
    (keeps : ∀ m, m ≠ n → ∀ uri, (d.editor m).uri = some uri →
      ∀ b, d.buffers.Knows uri b → bs.Knows uri b) :
    ({ d.alterEditor n Editor.leave with buffers := bs } : Desk σ ρ ν ε).Sound p host := by
  have closed := uri_leave n d
  refine h.of_spares (n := n)
    (fun m other => (spares_alterEditor n _ d other).trans (spares_buffers m _ ?_))
    (.of_idle (fun uri opened => absurd (closed.symm.trans opened) (by simp)) ?_ ?_
      fun i uri request run asked found => ?_)
    fun uri opened => absurd (closed.symm.trans opened) (by simp)
  · rw [editor_alterEditor_of_ne other]
    exact keeps m other
  · exact (view_alterEditor Editor.current (f := Editor.leave) (fun _ => rfl) n n d).trans current
  · exact (view_alterEditor Editor.report (f := Editor.leave) (fun _ => rfl) n n d).trans report
  · have overtaken := ((h.inOrder n).calls i uri request run asked found).resolve_left
      fun latest => absurd (current.symm.trans latest.current) (by simp)
    have same := view_alterEditor Editor.request (f := Editor.leave) (fun _ => rfl) n n d
    exact ⟨Nat.lt_of_lt_of_eq overtaken.request same.symm, overtaken.isOver⟩

theorem close (h : d.Sound p host) (n : Nat) : (d.close n).Sound p host := by
  have invalidated := h.invalidate n
  have current := current_invalidate n d
  have report := report_invalidate n d
  unfold Desk.close
  dsimp only
  split
  · next uri opened =>
    refine (invalidated.leave current report fun m other uri' opened' b known => ?_).note _
    refine known.congr ?_
    have ne : uri' ≠ uri := by
      rintro rfl
      exact invalidated.apart m n uri' other opened' opened
    simp [alterEditor, ne]
  · exact invalidated.leave current report fun _ _ _ _ _ known => known

/-- An editor that has nothing open gets a buffer of its own. -/
theorem enter (h : d.Sound p host) (closed : (d.editor n).uri = none) (rawRule : Option RawRule)
    (text : String) :
    ((d.register text).alterEditor n (Editor.enter rawRule (bufferUri d.opened))).Sound p host := by
  have registered (m : Nat) : d.Spares m (d.register text) :=
    { editor := .refl _
      calls := fun _ _ _ _ _ => Iff.rfl
      knows := fun uri opened b known =>
        known.congr (by simp [register, (h.inOrder m).ne_bufferUri opened])
      opened := Nat.le_succ _
      interrupt := id }
  by_cases inside : n < d.editors.length
  · have editor : ((d.register text).alterEditor n
        (Editor.enter rawRule (bufferUri d.opened))).editor n =
          (d.editor n).enter rawRule (bufferUri d.opened) :=
      (editor_alterEditor (d := d.register text) inside n).trans (if_pos rfl)
    refine h.of_spares (n := n)
      (fun m other => (registered m).trans (spares_alterEditor n _ _ other))
      (.of_idle (fun uri opened => ?_) ?_ ?_ fun i uri request run asked found => ?_)
      fun uri opened m other => ?_
    · rw [editor] at opened
      cases opened
      exact ⟨⟨d.opened, Nat.lt_succ_self _, rfl⟩, ⟨text, 0⟩, by simp [register, alterEditor]⟩
    · rw [editor]
      exact (h.inOrder n).current_of_closed closed
    · rw [editor]
      rfl
    · have overtaken := (h.inOrder n).overtaken_of_closed closed found
      exact ⟨by rw [editor]; exact overtaken.request, overtaken.isOver⟩
    · rw [editor] at opened
      cases opened
      exact fun same => (h.inOrder m).ne_bufferUri same rfl
  · have beyond : (d.register text).editors.length ≤ n := Nat.le_of_not_lt inside
    rw [alterEditor_of_le _ beyond]
    exact h.spared registered

theorem openBuffer (h : d.Sound p host) (n : Nat) (rawRule : Option RawRule) :
    (d.openBuffer p n rawRule).Sound p host := by
  unfold Desk.openBuffer
  dsimp only
  split
  · exact ((h.close n).enter (uri_close n d) rawRule _).note _
  · next closed => exact (h.enter (by simpa using closed) rawRule _).note _

/-- The text of a buffer is replaced. -/
theorem edited (h : d.Sound p host) {bs : Buffers} {text : String}
    (edited : d.buffers.edit uri text = .ok bs) :
    ({ d with buffers := bs } : Desk σ ρ ν ε).Sound p host :=
  h.spared fun m => spares_buffers m d fun _ _ _ known => known.edit edited

theorem update (h : d.Sound p host) (uri text : String) : (d.update uri text).Sound p host := by
  unfold Desk.update
  split
  · next edited => exact h.edited edited
  · exact h

theorem perform (h : d.Sound p host) (n : Nat) (c : Command) (ok : d.perform p n c = .ok d') :
    d'.Sound p host := by
  cases c with
  | «open» rawRule =>
    cases ok
    exact h.openBuffer n rawRule
  | close =>
    cases ok
    exact h.close n
  | edit text =>
    simp only [Desk.perform, Desk.edit] at ok
    split at ok
    · cases ok
    · split at ok
      · cases ok
      · next bs edited =>
        cases ok
        exact ((h.edited edited).invalidate n).spared fun m =>
          spares_alterEditor_alike n m _ (Editor.alike_announce _ _)
  | invalidate =>
    cases ok
    exact h.invalidate n

/-! ### Calls that begin and end -/

theorem endCall_scheduled (h : d.Sound p host) (found : d.call? i = some ⟨n, .scheduled, asked⟩)
    (outcome : CallOutcome ρ ν ε) : (d.endCall i outcome).Sound p host :=
  h.spared fun m =>
    { editor := .refl _
      calls := fun j uri request run asked' => by
        by_cases hj : j = i
        · simp [hj, found]
        · simp [hj]
      knows := fun _ _ _ known => known
      opened := Nat.le_refl _
      interrupt := id }

theorem beginCall (h : d.Sound p host) (found : d.call? i = some ⟨n, .scheduled, asked⟩) :
    (d.beginCall i n).Sound p host := by
  cases opened : (d.editor n).uri with
  | none => simpa [Desk.beginCall, opened] using h.endCall_scheduled found (.failed .notOpen)
  | some uri =>
    have same := alike_abandonRun n d
    have buffers : (d.beginCall i n).buffers = d.buffers := by
      rw [beginCall_eq opened]
      exact same.buffers
    have opened' : (d.beginCall i n).opened = d.opened := by
      rw [beginCall_eq opened]
      exact same.opened
    have interrupt : (d.beginCall i n).interrupt = d.interrupt := by
      rw [beginCall_eq opened]
      exact same.interrupt
    have editor : (d.beginCall i n).editor n = { d.editor n with
        request := (d.editor n).request + 1, report := none, current := some i } := by
      rw [editor_beginCall opened, if_pos rfl]
    have unstopped : (d.abandonRun n).call? i = some ⟨n, .scheduled, asked⟩ := by
      simp [call?_abandonRun, found, TestCall.stop]
    have begun : (d.beginCall i n).call? i =
        some ⟨n, .awaiting uri ((d.editor n).request + 1) .scheduled, asked⟩ := by
      simp [call?_beginCall opened, unstopped]
    have others (j : CallId) (ne : j ≠ i) :
        (d.beginCall i n).call? j = (d.abandonRun n).call? j := by
      rw [call?_beginCall opened, if_neg ne]
    refine h.of_spares (n := n) (fun m other => ?_)
      ⟨fun uri' opened₁ => ?_, fun j current => ?_, fun r reported => ?_,
        fun j uri' request run asked' found' => ?_⟩ fun uri' opened₁ m other same => ?_
    · have spares := (h.inOrder n).spares_abandonRun other
      refine ⟨.of_eq ?_, fun j uri' request run asked' => ?_, fun uri' _ b known => ?_,
        Nat.le_of_eq opened'.symm, fun interrupted => interrupt ▸ interrupted⟩
      · rw [editor_beginCall opened, if_neg other]
      · by_cases hj : j = i
        · subst hj
          simp [begun, found, other.symm]
        · rw [others j hj]
          exact spares.calls j uri' request run asked'
      · rwa [buffers]
    · rw [buffers, opened']
      exact (h.inOrder n).buffer uri' (by rwa [editor] at opened₁)
    · rw [editor] at current
      cases current
      rw [editor]
      exact ⟨uri, _, asked, begun⟩
    · rw [editor] at reported
      cases reported
    · by_cases hj : j = i
      · subst hj
        rw [begun, Option.some.injEq, TestCall.mk.injEq, CallPhase.awaiting.injEq] at found'
        obtain ⟨_, ⟨rfl, rfl, rfl⟩, rfl⟩ := found'
        refine .inl ⟨?_, ?_, ?_, ?_, trivial⟩
        · rw [editor]
        · rw [editor]
          exact opened
        · rw [editor]
        · rw [editor]
      · rw [others j hj] at found'
        obtain ⟨le, isOver⟩ := (h.inOrder n).isOver_of_stopped found'
        refine .inr ⟨?_, interrupt ▸ isOver⟩
        rw [editor]
        exact Nat.lt_succ_of_le le
    · exact h.apart m n uri' other same (by rwa [editor] at opened₁)

theorem finishCall (h : d.Sound p host) {result : RunResult ρ ν ε}
    (found : d.call? i = some ⟨n, .awaiting uri request (.ended result), asked⟩) :
    (d.finishCall i ⟨n, .awaiting uri request (.ended result), asked⟩ uri request result).Sound
      p host := by
  have self := h.inOrder n
  have inside := self.lt_of_awaiting found
  have same := alike_finishCall i ⟨n, .awaiting uri request (.ended result), asked⟩ uri request
    result d
  have editor := editor_finishCall (d := d)
    (c := ⟨n, .awaiting uri request (.ended result), asked⟩) inside i uri request result
  have calls := call?_finishCall i ⟨n, .awaiting uri request (.ended result), asked⟩ uri request
    result d
  have reported (r : Report ρ ν) (answers : d.answer n request asked result = .report r) :
      d.Latest p host n i uri request (.ended (.report r)) asked := by
    obtain ⟨rfl, latest, _⟩ := of_answer_eq_report answers
    exact (self.calls i uri request _ asked found).resolve_right fun overtaken =>
      absurd latest (Nat.ne_of_lt overtaken.request)
  generalize d.finishCall i ⟨n, .awaiting uri request (.ended result), asked⟩ uri request
    result = d' at same editor calls ⊢
  generalize answers : d.answer n request asked result = outcome at same editor calls reported
  have buffers : d'.buffers = d.buffers := same.buffers
  have opened' : d'.opened = d.opened := same.opened
  have interrupt : d'.interrupt = d.interrupt := same.interrupt
  have own : d'.editor n = (d.editor n).settle i outcome := by rw [editor, if_pos rfl]
  refine h.of_spares (n := n) (fun m other => ?_)
    ⟨fun uri' opened => ?_, fun j current => ?_, fun r held => ?_,
      fun j uri' request' run' asked' found' => ?_⟩
    fun uri' opened m other same' => h.apart m n uri' other same' (by rwa [own] at opened)
  · refine ⟨.of_eq (by rw [editor, if_neg other]), fun j uri' request' run' asked' => ?_,
      fun uri' _ b known => buffers ▸ known, Nat.le_of_eq opened'.symm,
      fun interrupted => interrupt ▸ interrupted⟩
    by_cases hj : j = i
    · simp [calls, hj, found, other.symm]
    · simp [calls, hj]
  · rw [buffers, opened']
    exact self.buffer uri' (by rwa [own] at opened)
  · rw [own, Editor.current_settle] at current
    split at current
    · cases current
    · next other =>
      have ne : j ≠ i := by
        rintro rfl
        exact other current
      rw [calls, if_neg ne, own]
      exact self.current j current
  · rw [own, buffers, Editor.current_settle]
    rw [own] at held
    cases outcome with
    | report r' =>
      obtain rfl : r' = r := by simpa using held
      have latest := reported r' rfl
      obtain ⟨state, a, made, reports⟩ := latest.fits
      exact ⟨state, if_pos latest.current, uri, a, latest.opened, made, reports⟩
    | _ =>
      obtain ⟨state, current, rest⟩ := self.report r held
      exact ⟨state, by simp [current], rest⟩
  · rw [calls] at found'
    by_cases hj : j = i
    · simp [hj, found] at found'
    · rw [if_neg hj] at found'
      cases self.calls j uri' request' run' asked' found' with
      | inl latest =>
        have other : ∀ r, outcome ≠ .report r := by
          rintro r rfl
          exact hj (Option.some.inj (latest.current.symm.trans (reported r rfl).current))
        have unmoved : (d.editor n).current ≠ some i := by
          rw [latest.current]
          simpa using hj
        refine .inl ⟨?_, ?_, ?_, ?_, ?_⟩
        · rw [own]
          exact latest.request
        · rw [own]
          exact latest.opened
        · rw [own, Editor.current_settle, if_neg unmoved]
          exact latest.current
        · rw [own, Editor.report_settle other]
          exact latest.report
        · rw [own, buffers, interrupt]
          exact latest.fits
      | inr overtaken =>
        refine .inr ⟨?_, interrupt ▸ overtaken.isOver⟩
        rw [own]
        exact overtaken.request

theorem advanceCall (h : d.Sound p host) (i : CallId) : (d.advanceCall i).Sound p host := by
  unfold Desk.advanceCall
  split
  · exact h
  · next c found =>
    obtain ⟨n, phase, asked⟩ := c
    dsimp only
    split
    · split
      · exact h.endCall_scheduled found .cancelled
      · exact h.beginCall found
    · exact h.finishCall found
    · exact h

theorem startCall (h : d.Sound p host) (n : Nat) : (d.startCall n).2.Sound p host :=
  h.spared fun m =>
    { editor := .refl _
      calls := fun j uri request run asked => by
        change (d.calls ++ [{ editor := n }])[j]? = _ ↔ d.calls[j]? = _
        rw [List.getElem?_append]
        split
        · rfl
        · next beyond =>
          rw [List.getElem?_eq_none (Nat.le_of_not_lt beyond), List.getElem?_singleton]
          split <;> simp
      knows := fun _ _ _ known => known
      opened := Nat.le_refl _
      interrupt := id }

theorem save (h : d.Sound p host) {n : Nat} {name : Data} {freshKey : String}
    {saved : SavedRule ν} (ok : d.save n name freshKey = .ok (saved, d')) : d'.Sound p host := by
  unfold Desk.save at ok
  dsimp only at ok
  split at ok
  · cases ok
  · split at ok
    · cases ok
    · next made _ =>
      cases ok
      have spares (m : Nat) : d.Spares m
          (d.alterEditor n fun e => { e with rawRule := some saved.raw }) :=
        spares_alterEditor_alike n m d fun _ => ⟨rfl, rfl, rfl, rfl, rfl⟩
      exact (h.spared spares).note _

theorem setGate (h : d.Sound p host) (isOpen : Bool) : (d.setGate isOpen).Sound p host := by
  have released (is : List CallId) (d : Desk σ ρ ν ε) (h : d.Sound p host) :
      (is.foldl Desk.release d).Sound p host := by
    induction is generalizing d with
    | nil => exact h
    | cons i rest ih => exact ih _ (h.release i)
  have set : ({ d with gateOpen := isOpen } : Desk σ ρ ν ε).Sound p host :=
    h.congr rfl rfl rfl rfl rfl
  unfold Desk.setGate
  dsimp only
  split
  · exact released _ _ set
  · exact set

theorem advance (h : d.Sound p host) (seconds : Float) : (d.advance seconds).Sound p host := by
  have fired (timers : List (Float × Nat)) (d : Desk σ ρ ν ε) (h : d.Sound p host) :
      (timers.foldl ring d).Sound p host := by
    induction timers generalizing d with
    | nil => exact h
    | cons timer rest ih =>
      have clocked : ({ d with now := if timer.1 ≤ d.now then d.now else timer.1 } :
        Desk σ ρ ν ε).Sound p host := h.congr rfl rfl rfl rfl rfl
      exact ih _ (clocked.spared fun m => spares_alterEditor_alike _ m _ (Editor.alike_fire _))
  exact (fired (d.due (d.now + seconds)) d h).congr rfl rfl rfl rfl rfl

theorem react (h : d.Sound p host) (e : Event) : (d.react p host e).Sound p host := by
  cases e with
  | call i => exact h.advanceCall i
  | run i => exact h.advanceRun i
  | lowering i => exact h.finishLowering i
  | command n c =>
    change ((d.perform p n c).toOption.getD d).Sound p host
    cases performed : d.perform p n c with
    | ok d' => exact h.perform n c performed
    | error e => exact h

theorem handle (h : d.Sound p host) (e : Event) : (d.handle p host e).Sound p host := by
  unfold Desk.handle
  split
  · exact h
  · exact h.react e

theorem turn (h : d.Sound p host) (place : Nat) : (d.turn p host place).Sound p host := by
  unfold Desk.turn
  split
  · exact (h.taken (d.ready.eraseIdx place)).handle _
  · exact h

theorem move (h : d.Sound p host) (m : Move σ) : (d.move p host m).Sound p host := by
  cases m with
  | command n c => exact h.react (.command n c)
  | save n name freshKey =>
    simp only [Desk.move]
    cases saved : d.save n name freshKey with
    | ok result => exact h.save saved
    | error e => exact h
  | start n => exact h.startCall n
  | cancel i => exact h.cancelCall i
  | update uri text => exact h.update uri text
  | turn place => exact h.turn place
  | world world => exact h.congr rfl rfl rfl rfl rfl
  | gate isOpen => exact h.setGate isOpen
  | afterRun command => exact h.congr rfl rfl rfl rfl rfl
  | advance seconds => exact h.advance seconds

/-- Nothing is open in the beginning. -/
theorem fresh (listening : List Bool) (buffers : Buffers) (opened : Nat) (generator : Generator)
    (world : σ) :
    (Desk.fresh listening buffers opened generator world : Desk σ ρ ν ε).Sound p host := by
  refine ⟨fun n => ?_, fun m n uri _ opened => ?_⟩
  · obtain ⟨listening', editor⟩ := editor_fresh listening buffers opened generator world n
    refine .of_idle (fun uri opened => ?_) ?_ ?_ fun i uri request run asked found => ?_
    · rw [editor] at opened
      cases opened
    · rw [editor]
    · rw [editor]
    · cases found
  · obtain ⟨listening', editor⟩ := editor_fresh listening buffers _ generator world m
    rw [editor] at opened
    cases opened

end Sound

/-- Every desk that moves lead to is sound. -/
theorem Reachable.sound (h : Reachable p host d) : d.Sound p host := by
  induction h with
  | fresh listening buffers opened generator world =>
    exact .fresh listening buffers opened generator world
  | move m _ ih => exact ih.move m

end Desk

end RuleBench
