import RuleBench.Proofs.Desk.Ready

/-!
# Editors that share a desk

Editors share the registry of buffers, the store of traces, the generator of samples and the loop.
An operation belongs to the editor in which it is performed, and a turn of the loop to the editor in
which its event happens. Whatever belongs to one editor leaves all others untouched, on every desk
that moves lead to (`Reachable.untouched_of_owner`). What it leaves behind in the loop belongs to
its own editor again (`Within`).
-/

namespace RuleBench

variable {σ ρ ν η ε : Type} {p : Bench} {host : ScriptHost σ ρ ν η ε}

namespace Desk

variable {d d' d₁ d₂ d₃ : Desk σ ρ ν ε} {k n : Nat} {i : CallId} {c : TestCall ρ ν ε} {e : Event}
  {m : Move σ}

/-- The editors of all calls, in the order in which the calls were made. -/
def sites (d : Desk σ ρ ν ε) : List Nat := d.calls.map TestCall.editor

theorem getElem?_sites (d : Desk σ ρ ν ε) (i : CallId) :
    d.sites[i]? = (d.call? i).map TestCall.editor := List.getElem?_map

/-- The editor that a move belongs to. Time and what is done past the editors belong to none. -/
def owner (d : Desk σ ρ ν ε) : Move σ → Option Nat
  | .command k _ => some k
  | .save k _ _ => some k
  | .start k => some k
  | .cancel i => d.sites[i]?
  | .turn place => d.ready[place]?.bind (Event.site d)
  | _ => none

/-- The event that a move makes happen is one of the editor that the move belongs to. -/
theorem site_of_act (owned : d.owner m = some k) (acts : d.act m = some e) :
    e.site d = some k := by
  cases m with
  | command n command =>
    cases acts
    exact owned
  | turn place =>
    simp only [act] at acts
    split at acts
    · cases acts
    · simpa [owner, acts] using owned
  | _ => cases acts

theorem site_ne_of_ne {k n : Nat} (other : n ≠ k) (site : e.site d = some k) :
    e.site d ≠ some n := by
  rw [site]
  simpa using other.symm

/-! ### What a move leaves untouched -/

/-- A move touches no call of an editor that it does not belong to. -/
theorem call?_move_of_owner (p : Bench) (host : ScriptHost σ ρ ν η ε) (sound : d.Sound p host)
    (owned : d.owner m = some k) (found : d.call? i = some c) (other : c.editor ≠ k) :
    (d.move p host m).call? i = some c := by
  cases acts : d.act m with
  | some e =>
    have site := site_of_act owned acts
    obtain ⟨ready, same⟩ := move_of_act (η := η) acts
    have foreign : e.call? ≠ some i := by
      intro own
      have here : e.site d = some c.editor := by
        cases e <;> cases own <;> simp [Event.site, found]
      exact other (Option.some.inj (here.symm.trans site))
    rw [same]
    rcases call?_react_of_ne p host (d := { d with ready }) foreign with kept | ⟨l, stopped, at'⟩
    · exact kept.trans found
    · have here : l = k := by
        rcases at' with ⟨command, rfl⟩ | ⟨j, -, rfl, begins⟩
        · simpa [Event.site] using site
        · have begins : d.call? j = some ⟨l, .scheduled, false⟩ := begins
          simpa [Event.site, begins] using site
      subst here
      rw [stopped, call?_abandonRun, if_neg]
      · exact found
      · intro current
        have current : (d.editor l).current = some i := current
        obtain ⟨uri, run, asked, found'⟩ := (sound.inOrder l).current i current
        exact other (congrArg TestCall.editor (Option.some.inj (found.symm.trans found')))
  | none =>
    obtain ⟨c', found', change⟩ := call?_move_of_quiet p host acts found
    rcases change with rfl | ⟨rfl, -⟩ | ⟨rfl, -⟩
    · exact found'
    · simp only [owner, getElem?_sites, found, Option.map_some, Option.some.injEq] at owned
      exact absurd owned other
    · cases owned

theorem editor_move_of_owner (p : Bench) (host : ScriptHost σ ρ ν η ε)
    (owned : d.owner m = some k) (other : n ≠ k) : (d.move p host m).editor n = d.editor n := by
  cases acts : d.act m with
  | some e =>
    obtain ⟨ready, same⟩ := move_of_act (η := η) acts
    rw [same]
    have foreign := site_ne_of_ne other (site_of_act owned acts)
    exact editor_react_of_ne (d := { d with ready }) foreign
  | none =>
    by_cases saving : ∃ l name freshKey, m = .save l name freshKey
    · obtain ⟨l, name, freshKey, rfl⟩ := saving
      obtain rfl : l = k := by simpa [owner] using owned
      simp only [move]
      cases saved : d.save l name freshKey with
      | error cause => rfl
      | ok result =>
        unfold save at saved
        dsimp only at saved
        split at saved
        · cases saved
        · split at saved
          · cases saved
          · cases saved
            exact editor_alterEditor_of_ne other
    · refine editor_move_of_still p host acts
        (fun l name freshKey same => saving ⟨l, name, freshKey, same⟩) ?_ n
      rintro seconds rfl
      cases owned

theorem get?_move_of_owner (sound : d.Sound p host) (owned : d.owner m = some k) (other : n ≠ k)
    {uri : String} (opened : (d.editor n).uri = some uri) :
    (d.move p host m).buffers.get? uri = d.buffers.get? uri := by
  cases acts : d.act m with
  | some e =>
    have site := site_of_act owned acts
    obtain ⟨ready, same⟩ := move_of_act (η := η) acts
    rw [same]
    refine get?_react (n := n) (sound.taken ready) opened ?_
    rintro command rfl
    exact other (Option.some.inj site)
  | none =>
    refine get?_move_of_quiet p host acts ?_
    rintro text rfl
    cases owned

/-- An editor is on a desk as it was on another: everything that it knows, with the rule that it
edits and the invalidations that it has told or is about to tell; the text and the revision of the
buffer that it has open; whether it may save and whether it has a test under way. -/
structure Untouched (n : Nat) (d d' : Desk σ ρ ν ε) : Prop where
  editor : d'.editor n = d.editor n
  buffer : ∀ uri, (d.editor n).uri = some uri → d'.buffers.get? uri = d.buffers.get? uri
  isSavable : d'.isSavable n = d.isSavable n
  isBusy : d'.isBusy n = d.isBusy n

/-- What an editor may save depends on nothing but itself and the buffer that it has open. -/
theorem isSavable_congr {e : Editor ρ ν} {bs bs' : Buffers}
    (same : ∀ uri, e.uri = some uri → bs'.get? uri = bs.get? uri) :
    e.isSavable bs' = e.isSavable bs := by
  have buffer : e.buffer bs' = e.buffer bs := by
    cases opened : e.uri with
    | none => simp only [Editor.buffer, opened]
    | some uri => simp only [Editor.buffer, opened, Buffers.get, same uri opened]
  simp only [Editor.isSavable, Editor.savable?, buffer]

/-- Whatever belongs to one editor, an operation or a turn of the loop, leaves every other editor
untouched. -/
theorem Reachable.untouched_of_owner (reachable : Reachable p host d)
    (owned : d.owner m = some k) (other : n ≠ k) : d.Untouched n (d.move p host m) := by
  have sound := reachable.sound
  have editor := editor_move_of_owner p host owned other
  have buffer (uri : String) (opened : (d.editor n).uri = some uri) :=
    get?_move_of_owner sound owned other opened
  refine ⟨editor, buffer, ?_, ?_⟩
  · simp only [Desk.isSavable, editor]
    exact isSavable_congr buffer
  · simp only [isBusy, editor]
    cases current : (d.editor n).current with
    | none => rfl
    | some i =>
      obtain ⟨uri, run, asked, found⟩ := (sound.inOrder n).current i current
      have found' := call?_move_of_owner p host sound owned found other
      simp only [Option.any_some, isRunning, found, found']

/-! ### What a move leaves behind -/

/-- A step within one editor: calls of that editor may be made, its events may become ready, and
everything may come to an end. -/
structure Within (k : Nat) (d d' : Desk σ ρ ν ε) : Prop where
  sites : ∃ more, d'.sites = d.sites ++ List.replicate more k
  editors : d'.editors.length = d.editors.length
  ready : ∃ es, d'.ready = d.ready ++ es ∧ ∀ e ∈ es, e.site d' = some k
  interrupt : d'.interrupt = none → d.interrupt = none
  gateOpen : d'.gateOpen = d.gateOpen
  afterRun : d'.afterRun = d.afterRun

/-- Calls that are made later do not move an event. -/
theorem site_of_sites {more : Nat} (sites : d'.sites = d.sites ++ List.replicate more k)
    (site : e.site d = some n) : e.site d' = some n := by
  have call (i : CallId) (site : (d.call? i).map TestCall.editor = some n) :
      (d'.call? i).map TestCall.editor = some n := by
    rw [← getElem?_sites] at site ⊢
    rw [sites]
    exact List.getElem?_append_left (List.getElem?_eq_some_iff.mp site).1 ▸ site
  cases e with
  | command l command => exact site
  | call i => exact call i site
  | run i => exact call i site
  | lowering i => exact call i site

namespace Within

theorem of_same (calls : d'.calls = d.calls) (editors : d'.editors.length = d.editors.length)
    (ready : d'.ready = d.ready) (interrupt : d'.interrupt = d.interrupt)
    (gateOpen : d'.gateOpen = d.gateOpen) (afterRun : d'.afterRun = d.afterRun) :
    d.Within k d' where
  sites := ⟨0, by simp [Desk.sites, calls]⟩
  editors := editors
  ready := ⟨[], by simp [ready]⟩
  interrupt := fun going => interrupt ▸ going
  gateOpen := gateOpen
  afterRun := afterRun

theorem refl (k : Nat) (d : Desk σ ρ ν ε) : d.Within k d := of_same rfl rfl rfl rfl rfl rfl

theorem trans (h₁ : d₁.Within k d₂) (h₂ : d₂.Within k d₃) : d₁.Within k d₃ := by
  obtain ⟨more₁, sites₁⟩ := h₁.sites
  obtain ⟨more₂, sites₂⟩ := h₂.sites
  obtain ⟨es₁, ready₁, own₁⟩ := h₁.ready
  obtain ⟨es₂, ready₂, own₂⟩ := h₂.ready
  refine ⟨⟨more₁ + more₂, ?_⟩, h₂.editors.trans h₁.editors, ⟨es₁ ++ es₂, ?_, ?_⟩,
    h₁.interrupt ∘ h₂.interrupt, h₂.gateOpen.trans h₁.gateOpen, h₂.afterRun.trans h₁.afterRun⟩
  · rw [sites₂, sites₁, List.append_assoc, List.replicate_append_replicate]
  · rw [ready₂, ready₁, List.append_assoc]
  · intro e member
    rcases List.mem_append.mp member with first | second
    · exact site_of_sites sites₂ (own₁ e first)
    · exact own₂ e second

end Within

theorem sites_setPhase (i : CallId) (phase : CallPhase ρ ν ε) (d : Desk σ ρ ν ε) :
    (d.setPhase i phase).sites = d.sites := by
  refine List.ext_getElem? fun j => ?_
  rw [getElem?_sites, getElem?_sites, call?_setPhase]
  by_cases h : j = i
  · subst h
    cases d.call? j <;> simp
  · simp [h]

theorem sites_markCancelled (i : CallId) (d : Desk σ ρ ν ε) :
    (d.markCancelled i).sites = d.sites := by
  refine List.ext_getElem? fun j => ?_
  rw [getElem?_sites, getElem?_sites, call?_markCancelled]
  by_cases h : j = i
  · subst h
    cases d.call? j <;> simp
  · simp [h]

theorem sites_stopRun (i : CallId) (d : Desk σ ρ ν ε) : (d.stopRun i).sites = d.sites := by
  unfold stopRun
  split
  · dsimp only
    split
    · rfl
    · exact sites_setPhase i _ d
    · exact sites_setPhase i _ d
    · exact sites_setPhase i _ d
  · rfl

theorem sites_abandonRun (n : Nat) (d : Desk σ ρ ν ε) : (d.abandonRun n).sites = d.sites := by
  unfold abandonRun
  split
  · split
    · exact sites_stopRun _ (d.note _)
    · rfl
  · rfl

theorem within_setPhase (k : Nat) (i : CallId) (phase : CallPhase ρ ν ε) (d : Desk σ ρ ν ε) :
    d.Within k (d.setPhase i phase) where
  sites := ⟨0, by simp [sites_setPhase]⟩
  editors := rfl
  ready := ⟨[], by simp [setPhase]⟩
  interrupt := id
  gateOpen := rfl
  afterRun := rfl

theorem within_schedule (site : e.site d = some k) : d.Within k (d.schedule e) where
  sites := ⟨0, by simp [Desk.sites, schedule]⟩
  editors := rfl
  ready := by
    refine ⟨[e], rfl, fun e' member => ?_⟩
    obtain rfl := List.mem_singleton.mp member
    have sites : (d.schedule e').sites = d.sites ++ List.replicate 0 k := by
      simp [Desk.sites, schedule]
    exact site_of_sites sites site
  interrupt := id
  gateOpen := rfl
  afterRun := rfl

theorem within_note (k : Nat) (records : List LogRecord) (d : Desk σ ρ ν ε) :
    d.Within k (d.note records) := .of_same rfl rfl rfl rfl rfl rfl

theorem within_alterEditor (k : Nat) (f : Editor ρ ν → Editor ρ ν) (d : Desk σ ρ ν ε) :
    d.Within k (d.alterEditor n f) :=
  .of_same rfl (List.length_modify _ _ _) rfl rfl rfl rfl

/-- After a step a call is put into another phase, and an event of it becomes ready. -/
theorem Within.proceed (h : d.Within k d') (found : d.sites[i]? = some k) (own : e.call? = some i)
    (phase : CallPhase ρ ν ε) : d.Within k ((d'.setPhase i phase).schedule e) := by
  refine (h.trans (within_setPhase k i phase d')).trans (within_schedule ?_)
  obtain ⟨more, sites⟩ := h.sites
  have site : ((d'.setPhase i phase).call? i).map TestCall.editor = some k := by
    rw [← getElem?_sites, sites_setPhase, sites, ← found]
    exact List.getElem?_append_left (List.getElem?_eq_some_iff.mp found).1
  cases e <;> cases own <;> exact site

theorem Within.endRun (h : d.Within k d') (found : d.sites[i]? = some k) (uri : String)
    (request : Nat) (result : RunResult ρ ν ε) : d.Within k (d'.endRun i uri request result) :=
  h.proceed found rfl _

theorem within_stopRun (found : d.sites[i]? = some k) : d.Within k (d.stopRun i) := by
  unfold stopRun
  split
  · dsimp only
    split
    · exact .refl k d
    · exact (Within.refl k d).proceed found rfl _
    · exact (Within.refl k d).proceed found rfl _
    · exact within_setPhase k i _ d
  · exact .refl k d

/-- The call that an editor names is one of its own. -/
def Named (k : Nat) (d : Desk σ ρ ν ε) : Prop :=
  ∀ i, (d.editor k).current = some i → d.sites[i]? = some k

theorem Sound.named (sound : d.Sound p host) (k : Nat) : d.Named k := by
  intro i current
  obtain ⟨uri, run, asked, found⟩ := (sound.inOrder k).current i current
  rw [getElem?_sites, found]
  rfl

theorem within_abandonRun (named : d.Named k) : d.Within k (d.abandonRun k) := by
  unfold abandonRun
  split
  · next i current =>
    split
    · exact (within_note k _ d).trans (within_stopRun (d := d.note _) (named i current))
    · exact .refl k d
  · exact .refl k d

/-! #### Operations of editors -/

theorem within_invalidate (named : d.Named k) : d.Within k (d.invalidate k) :=
  (within_abandonRun named).trans (within_alterEditor k _ _)

theorem within_close (named : d.Named k) : d.Within k (d.close k) := by
  have left := (within_invalidate named).trans (within_alterEditor (n := k) k Editor.leave _)
  unfold close
  dsimp only
  split
  · exact left.trans (.of_same rfl rfl rfl rfl rfl rfl)
  · exact left

theorem within_perform (named : d.Named k) {command : Command}
    (ok : d.perform p k command = .ok d') : d.Within k d' := by
  cases command with
  | «open» rawRule =>
    cases ok
    have entered (d : Desk σ ρ ν ε) (records : List LogRecord) (text uri : String) :
        d.Within k (((d.register text).alterEditor k (Editor.enter rawRule uri)).note records) :=
      .of_same rfl (List.length_modify _ _ _) rfl rfl rfl rfl
    unfold openBuffer
    dsimp only
    split
    · exact (within_close named).trans (entered _ _ _ _)
    · exact entered _ _ _ _
  | close =>
    cases ok
    exact within_close named
  | edit text =>
    simp only [perform, edit] at ok
    split at ok
    · cases ok
    · split at ok
      · cases ok
      · next buffers _ =>
        cases ok
        have edited : d.Within k { d with buffers } := .of_same rfl rfl rfl rfl rfl rfl
        exact (edited.trans (within_invalidate (d := { d with buffers }) named)).trans
          (within_alterEditor k _ _)
  | invalidate =>
    cases ok
    exact within_invalidate named

/-! #### Events -/

theorem within_beginCall (named : d.Named k) (found : d.sites[i]? = some k) :
    d.Within k (d.beginCall i k) := by
  cases opened : (d.editor k).uri with
  | none =>
    have ends : d.beginCall i k = d.endCall i (.failed .notOpen) := by simp [beginCall, opened]
    exact ends ▸ within_setPhase k i _ d
  | some uri =>
    rw [beginCall_eq opened]
    exact ((within_abandonRun named).trans (within_alterEditor k _ _)).proceed found rfl _

theorem within_finishCall (k : Nat) (i : CallId) (c : TestCall ρ ν ε) (uri : String)
    (request : Nat) (result : RunResult ρ ν ε) (d : Desk σ ρ ν ε) :
    d.Within k (d.finishCall i c uri request result) := by
  obtain ⟨records, same⟩ := finishCall_eq i c uri request result d
  rw [same]
  exact ((within_alterEditor k _ d).trans (within_note k _ _)).trans (within_setPhase k i _ _)

theorem within_conclude (p : Bench) (host : ScriptHost σ ρ ν η ε) (found : d.sites[i]? = some k)
    (uri : String) (request : Nat) (a : Artifact) :
    d.Within k (d.conclude p host i k uri request a) := by
  have absorbed : d.Within k (d.absorb k request (p.conclude host a d.generator d.world)) :=
    .of_same rfl (List.length_modify _ _ _) rfl rfl rfl rfl
  unfold conclude
  dsimp only
  split
  · have followed (d : Desk σ ρ ν ε) : d.Within k (d.followUp k) := by
      unfold followUp
      split
      · exact within_schedule rfl
      · exact .refl k d
    exact (absorbed.trans (followed _)).endRun found _ _ _
  · next e _ =>
    split
    · have interrupted : d.Within k
          { d.absorb k request (p.conclude host a d.generator d.world) with interrupt := some e } :=
        { absorbed with interrupt := fun going => by cases going }
      exact interrupted.endRun found _ _ _
    · exact absorbed.endRun found _ _ _
    · exact absorbed.endRun found _ _ _

theorem within_beginRun (found : d.sites[i]? = some k) (uri : String) (request : Nat) :
    d.Within k (d.beginRun i k uri request) := by
  have reached := within_alterEditor (n := k) k (Editor.reach request .compiling) d
  unfold beginRun
  dsimp only
  split
  · exact reached.endRun found _ _ _
  · exact (reached.trans (within_note k _ _)).proceed found rfl _

theorem within_advanceRun (p : Bench) (host : ScriptHost σ ρ ν η ε)
    (found : d.sites[i]? = some k) : d.Within k (d.advanceRun p host i) := by
  unfold advanceRun
  split
  · next n uri request run asked call =>
    obtain rfl : n = k := by simpa [getElem?_sites, call] using found
    split
    · exact within_beginRun found uri request
    · exact (Within.refl n d).endRun found _ _ _
    · dsimp only
      split
      · exact (within_note n _ d).trans (within_conclude (d := d.note _) p host found uri request _)
      · exact (within_note n _ d).trans (within_setPhase n i _ _)
    · exact within_conclude p host found uri request _
    · exact .refl n d
  · exact .refl k d

theorem within_react (p : Bench) (host : ScriptHost σ ρ ν η ε) (named : d.Named k)
    (site : e.site d = some k) : d.Within k (d.react p host e) := by
  cases e with
  | call i =>
    have found : d.sites[i]? = some k := (getElem?_sites d i).trans site
    unfold react advanceCall
    dsimp only
    split
    · exact .refl k d
    · next c call =>
      obtain rfl : c.editor = k := by simpa [Event.site, call] using site
      split
      · split
        · exact within_setPhase _ i _ d
        · exact within_beginCall named found
      · exact within_finishCall _ i c _ _ _ d
      · exact .refl _ d
  | run i => exact within_advanceRun p host ((getElem?_sites d i).trans site)
  | lowering i =>
    have found : d.sites[i]? = some k := (getElem?_sites d i).trans site
    unfold react finishLowering
    dsimp only
    split
    · exact (Within.refl k d).proceed found rfl _
    · exact .refl k d
  | command l command =>
    obtain rfl : l = k := by simpa [Event.site] using site
    change d.Within l ((d.perform p l command).toOption.getD d)
    cases performed : d.perform p l command with
    | ok d' => exact within_perform named performed
    | error cause => exact .refl l d

/-! #### Moves -/

theorem within_cancelCall (found : d.sites[i]? = some k) : d.Within k (d.cancelCall i).2 := by
  have sites := sites_markCancelled i d
  have marked : d.Within k (d.markCancelled i) :=
    ⟨⟨0, by simp [sites]⟩, rfl, ⟨[], by simp [markCancelled]⟩, id, rfl, rfl⟩
  unfold cancelCall
  split
  · exact marked
  · exact marked.trans (within_stopRun (sites ▸ found))
  · exact .refl k d

/-- A move that belongs to an editor is a step within it. A turn of the loop takes its event away
first. -/
theorem within_move (p : Bench) (host : ScriptHost σ ρ ν η ε) (named : d.Named k)
    (owned : d.owner m = some k) (unturned : ∀ place, m ≠ .turn place) :
    d.Within k (d.move p host m) := by
  cases m with
  | command l command => exact within_react (e := .command l command) p host named owned
  | save l name freshKey =>
    simp only [move]
    cases saved : d.save l name freshKey with
    | error cause => exact .refl k d
    | ok result =>
      unfold save at saved
      dsimp only at saved
      split at saved
      · cases saved
      · split at saved
        · cases saved
        · cases saved
          exact (within_alterEditor k _ d).trans (within_note k _ _)
  | start l =>
    obtain rfl : l = k := by simpa [owner] using owned
    have made : d.Within l { d with calls := d.calls ++ [{ editor := l }] } :=
      ⟨⟨1, by simp [Desk.sites]⟩, rfl, ⟨[], by simp⟩, id, rfl, rfl⟩
    exact made.trans (within_schedule (by simp [Event.site, call?]))
  | cancel i => exact within_cancelCall owned
  | turn place => exact absurd rfl (unturned place)
  | _ => cases owned

theorem within_turn (p : Bench) (host : ScriptHost σ ρ ν η ε) {place : Nat} (named : d.Named k)
    (owned : d.owner (.turn place : Move σ) = some k) :
    ({ d with ready := d.ready.eraseIdx place } : Desk σ ρ ν ε).Within k (d.turn p host place) := by
  unfold turn
  split
  · next e first =>
    unfold handle
    split
    · exact .refl k _
    · refine within_react (d := { d with ready := d.ready.eraseIdx place }) p host named ?_
      have site : e.site d = some k := by simpa [owner, first] using owned
      exact site
  · next nowhere => simp [owner, nowhere] at owned

end Desk

end RuleBench
