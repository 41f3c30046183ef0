import Mathlib.Data.List.Basic
import RuleBench.Proofs.Desk.Account
import RuleBench.Proofs.Desk.Apart

/-!
# Desks on which only one editor is used

A desk mirrors another one in an editor if that editor could not tell them apart: its state, what it
reports, its buffer and its calls are the same, and the same of its events are ready. Identifiers of
buffers and numbers of calls may differ, since those that others have used up are missing; so may
the world, the generator of samples and the time. Every operation of the editor that is performed on
both desks, and every event of it that happens on both, keeps the mirror (`Mirrors.react`), as long
as runs that go past their compilations come to conclusions that read alike.
-/

namespace RuleBench

variable {σ ρ ν η ε : Type} {p : Bench} {host : ScriptHost σ ρ ν η ε}

/-! ### Things that mirror each other -/

inductive RunResult.Mirrors : RunResult ρ ν ε → RunResult ρ ν ε → Prop
  | report {r r' : Report ρ ν} (h : r.Mirrors r') : Mirrors (.report r) (.report r')
  | cancelled : Mirrors .cancelled .cancelled
  | notRegistered (cause cause' : NotRegistered) :
      Mirrors (.notRegistered cause) (.notRegistered cause')
  | raised (e e' : ε) : Mirrors (.raised e) (.raised e')

inductive RunPhase.Mirrors : RunPhase ρ ν ε → RunPhase ρ ν ε → Prop
  | scheduled : Mirrors .scheduled .scheduled
  | lowering {job job' : Buffers.Job} (h : job'.buffer = job.buffer) :
      Mirrors (.lowering job) (.lowering job')
  | lowered {a a' : Artifact} (h : a.Mirrors a') : Mirrors (.lowered a) (.lowered a')
  | held {a a' : Artifact} (h : a.Mirrors a') : Mirrors (.held a) (.held a')
  | released {a a' : Artifact} (h : a.Mirrors a') : Mirrors (.released a) (.released a')
  | stopping : Mirrors .stopping .stopping
  | ended {result result' : RunResult ρ ν ε} (h : result.Mirrors result') :
      Mirrors (.ended result) (.ended result')

inductive EditorError.Mirrors : EditorError → EditorError → Prop
  | notOpen : Mirrors .notOpen .notOpen
  | notRegistered (cause cause' : NotRegistered) :
      Mirrors (.notRegistered cause) (.notRegistered cause')

inductive CallOutcome.Mirrors : CallOutcome ρ ν ε → CallOutcome ρ ν ε → Prop
  | report {r r' : Report ρ ν} (h : r.Mirrors r') : Mirrors (.report r) (.report r')
  | superseded : Mirrors .superseded .superseded
  | cancelled : Mirrors .cancelled .cancelled
  | failed {cause cause' : EditorError} (h : cause.Mirrors cause') :
      Mirrors (.failed cause) (.failed cause')
  | raised (e e' : ε) : Mirrors (.raised e) (.raised e')

inductive CallPhase.Mirrors : CallPhase ρ ν ε → CallPhase ρ ν ε → Prop
  | scheduled : Mirrors .scheduled .scheduled
  | awaiting (uri uri' : String) (request : Nat) {run run' : RunPhase ρ ν ε}
      (h : run.Mirrors run') : Mirrors (.awaiting uri request run) (.awaiting uri' request run')
  | ended {outcome outcome' : CallOutcome ρ ν ε} (h : outcome.Mirrors outcome') :
      Mirrors (.ended outcome) (.ended outcome')

structure TestCall.Mirrors (c c' : TestCall ρ ν ε) : Prop where
  editor : c'.editor = c.editor
  phase : c.phase.Mirrors c'.phase
  cancelRequested : c'.cancelRequested = c.cancelRequested

theorem RunPhase.Mirrors.isEnded {run run' : RunPhase ρ ν ε} (h : run.Mirrors run') :
    run'.isEnded = run.isEnded := by
  cases h <;> rfl

theorem TestCall.Mirrors.isRunning {c c' : TestCall ρ ν ε} (h : c.Mirrors c') :
    c'.isRunning = c.isRunning := by
  obtain ⟨n, phase, asked⟩ := c
  obtain ⟨n', phase', asked'⟩ := c'
  have phases : phase.Mirrors phase' := h.phase
  cases phases with
  | awaiting uri uri' request run => simp only [TestCall.isRunning, run.isEnded]
  | _ => rfl

/-- Two editors that agree in all that matters; `rank` says which calls are the same. -/
structure Editor.Mirrors (rank : CallId → Option CallId) (e e' : Editor ρ ν) : Prop where
  uri : e'.uri.isSome = e.uri.isSome
  state : e'.state = e.state
  report : Option.Rel Report.Mirrors e.report e'.report
  current : Option.Rel (fun i j => rank i = some j) e.current e'.current
  request : e'.request = e.request

namespace Editor

variable {rank : CallId → Option CallId} {e e' f f' : Editor ρ ν}

theorem Mirrors.of_alike (h : e.Mirrors rank e') (alike : e.Alike f) (alike' : e'.Alike f') : f.Mirrors rank f' where
  uri := by rw [alike.uri, alike'.uri, h.uri]
  state := by rw [alike.state, alike'.state, h.state]
  report := by
    rw [alike.report, alike'.report]
    exact h.report
  current := by
    rw [alike.current, alike'.current]
    exact h.current
  request := by rw [alike.request, alike'.request, h.request]

theorem Mirrors.forget (h : e.Mirrors rank e') :
    e.forget.Mirrors rank e'.forget :=
  ⟨h.uri, rfl, .none, .none, congrArg (· + 1) h.request⟩

theorem Mirrors.reach (h : e.Mirrors rank e') (request : Nat) (state : RunState) :
    (e.reach request state).Mirrors rank (e'.reach request state) := by
  unfold Editor.reach
  by_cases latest : request == e.request
  · rw [if_pos latest, if_pos (h.request.symm ▸ latest)]
    exact ⟨h.uri, rfl, h.report, h.current, h.request⟩
  · rw [if_neg latest, if_neg (h.request.symm ▸ latest)]
    exact h

/-- Calls that answer alike leave their editors alike. -/
theorem Mirrors.settle {i j : CallId} (h : e.Mirrors rank e')
    (own : rank i = some j) (inj : ∀ l, rank l = some j → l = i)
    {outcome outcome' : CallOutcome ρ ν ε} (outcomes : outcome.Mirrors outcome') :
    (e.settle i outcome).Mirrors rank (e'.settle j outcome') := by
  refine ⟨h.uri, h.state, ?_, ?_, h.request⟩
  · cases outcomes with
    | report reports => exact .some reports
    | _ => exact h.report
  · rw [current_settle, current_settle]
    have currents := h.current
    cases current : e.current with
    | none =>
      rw [current] at currents
      cases current' : e'.current with
      | none => exact .none
      | some l' => rw [current'] at currents; cases currents
    | some l =>
      rw [current] at currents
      cases current' : e'.current with
      | none => rw [current'] at currents; cases currents
      | some l' =>
        rw [current'] at currents
        cases currents with
        | some here =>
          by_cases this : l = i
          · subst this
            obtain rfl : j = l' := Option.some.inj (own.symm.trans here)
            simp
          · have other : l' ≠ j := by
              rintro rfl
              exact this (inj l here)
            simpa [this, other] using here

end Editor

theorem rel_of_imp {α β : Type} {R S : α → β → Prop} (h : ∀ {a b}, R a b → S a b)
    {x : Option α} {y : Option β} (related : Option.Rel R x y) : Option.Rel S x y := by
  cases related with
  | none => exact .none
  | some r => exact .some (h r)

/-! ### Numbers of calls -/

/-- The number that a call has among the calls of its editor, if that is the one in question. -/
def rankIn (sites : List Nat) (n : Nat) (i : CallId) : Option CallId :=
  if sites[i]? = some n then some ((sites.take i).count n) else none

section Rank

variable {sites : List Nat} {n k : Nat} {i j : CallId}

theorem rankIn_eq_some : rankIn sites n i = some j ↔
    sites[i]? = some n ∧ (sites.take i).count n = j := by
  unfold rankIn
  split
  · next here => simp [here]
  · next elsewhere => simp [elsewhere]

/-- Calls that are made later do not count. -/
theorem rankIn_append_of_lt (inside : i < sites.length) (more : List Nat) :
    rankIn (sites ++ more) n i = rankIn sites n i := by
  rw [rankIn, List.getElem?_append_left inside,
    List.take_append_of_le_length (Nat.le_of_lt inside)]
  rfl

theorem rankIn_append (h : rankIn sites n i = some j) (more : List Nat) :
    rankIn (sites ++ more) n i = some j := by
  have here := (rankIn_eq_some.mp h).1
  rw [rankIn_append_of_lt (List.getElem?_eq_some_iff.mp here).1, h]

/-- Calls of another editor do not count. -/
theorem rankIn_append_replicate (other : k ≠ n) (sites : List Nat) (more : Nat) :
    rankIn (sites ++ List.replicate more k) n = rankIn sites n := by
  funext i
  cases before : rankIn sites n i with
  | some j => exact rankIn_append before _
  | none =>
    have elsewhere : sites[i]? ≠ some n := fun here => by simp [rankIn, here] at before
    rw [rankIn, if_neg]
    rw [List.getElem?_append]
    split
    · exact elsewhere
    · rw [List.getElem?_replicate]
      split
      · simpa using other
      · simp

theorem rankIn_length (sites : List Nat) (n : Nat) :
    rankIn (sites ++ [n]) n sites.length = some (sites.count n) := by
  simp [rankIn_eq_some]

theorem count_take_lt (here : sites[i]? = some n) {l : Nat} (later : i < l) :
    (sites.take i).count n < (sites.take l).count n := by
  have next : (sites.take (i + 1)).count n = (sites.take i).count n + 1 := by
    rw [List.take_add_one, here]
    simp
  have grows : (sites.take (i + 1)).count n ≤ (sites.take l).count n :=
    (List.take_sublist_take_left (Nat.succ_le_of_lt later)).count_le n
  omega

theorem rankIn_inj {l : CallId} (h : rankIn sites n i = some j) (h' : rankIn sites n l = some j) :
    i = l := by
  obtain ⟨here, rfl⟩ := rankIn_eq_some.mp h
  obtain ⟨here', same⟩ := rankIn_eq_some.mp h'
  rcases Nat.lt_trichotomy i l with less | equal | greater
  · exact absurd same (Nat.ne_of_gt (count_take_lt here less))
  · exact equal
  · exact absurd same (Nat.ne_of_lt (count_take_lt here' greater))

end Rank

/-- The event of the desk with fewer calls that is the same. -/
def Event.mirrored (n : Nat) (rank : CallId → Option CallId) : Event → Option Event
  | call i => (rank i).map call
  | run i => (rank i).map run
  | lowering i => (rank i).map lowering
  | command k c => if k = n then some (command k c) else none

namespace Desk

variable {d d' : Desk σ ρ ν ε} {k n : Nat} {i j : CallId} {e e' : Event}

def rank (d : Desk σ ρ ν ε) (n : Nat) : CallId → Option CallId := rankIn d.sites n

theorem rank_eq_some : d.rank n i = some j ↔
    d.sites[i]? = some n ∧ (d.sites.take i).count n = j := rankIn_eq_some

theorem rank_setPhase (i : CallId) (phase : CallPhase ρ ν ε) (d : Desk σ ρ ν ε) :
    (d.setPhase i phase).rank n = d.rank n := by
  rw [rank, sites_setPhase]
  rfl

/-- The buffer that an editor has open. -/
def openBuffer? (n : Nat) (d : Desk σ ρ ν ε) : Option Buffer :=
  (d.editor n).uri.bind d.buffers.get?

/-- The desk `d'`, on which other editors may have done less, mirrors `d` in an editor. Once there
was an interrupt on `d`, its loop does nothing any more. -/
structure Mirrors (n : Nat) (d d' : Desk σ ρ ν ε) : Prop where
  editor : (d.editor n).Mirrors (d.rank n) (d'.editor n)
  editors : d'.editors.length = d.editors.length
  buffer : d'.openBuffer? n = d.openBuffer? n
  count : d'.calls.length = d.sites.count n
  calls : ∀ i j c, d.rank n i = some j → d.call? i = some c →
    ∃ c', d'.call? j = some c' ∧ c.Mirrors c'
  known : ∀ e ∈ d.ready, (e.site d).isSome
  ready : d.interrupt = none → d'.ready = d.ready.filterMap (Event.mirrored n (d.rank n))
  going : d.interrupt = none → d'.interrupt = none
  gateOpen : d'.gateOpen = d.gateOpen
  afterRun : d'.afterRun = d.afterRun

/-- Two desks that differ neither in their calls nor in what their loops do. -/
structure SameLoop (d d₁ : Desk σ ρ ν ε) : Prop where
  calls : d₁.calls = d.calls
  ready : d₁.ready = d.ready
  interrupt : d₁.interrupt = d.interrupt
  gateOpen : d₁.gateOpen = d.gateOpen
  afterRun : d₁.afterRun = d.afterRun
  editors : d₁.editors.length = d.editors.length

theorem sameLoop_alterEditor (n : Nat) (f : Editor ρ ν → Editor ρ ν) (d : Desk σ ρ ν ε) :
    d.SameLoop (d.alterEditor n f) := ⟨rfl, rfl, rfl, rfl, rfl, List.length_modify _ _ _⟩

theorem exists_call?_of_rank (own : d.rank n i = some j) :
    ∃ c, d.call? i = some c ∧ c.editor = n := by
  have here := (rank_eq_some.mp own).1
  rw [getElem?_sites] at here
  exact Option.map_eq_some_iff.mp here

/-- An event of a call that is there stays one. -/
theorem isSome_site_of_sites {more : List Nat} (sites : d'.sites = d.sites ++ more)
    (known : (e.site d).isSome) : (e.site d').isSome := by
  have call (i : CallId) (known : ((d.call? i).map TestCall.editor).isSome) :
      ((d'.call? i).map TestCall.editor).isSome := by
    obtain ⟨n, here⟩ := Option.isSome_iff_exists.mp known
    rw [← getElem?_sites] at here ⊢
    have inside := (List.getElem?_eq_some_iff.mp here).1
    rw [sites, List.getElem?_append_left inside, here]
    rfl
  cases e with
  | command l command => rfl
  | call i => exact call i known
  | run i => exact call i known
  | lowering i => exact call i known

theorem isSome_site_congr (sites : d'.sites = d.sites) (known : (e.site d).isSome) :
    (e.site d').isSome := isSome_site_of_sites (by rw [sites, List.append_nil]) known

/-- The events of an editor are those that the other desk has too. -/
theorem isSome_mirrored : (e.mirrored n (d.rank n)).isSome ↔ e.site d = some n := by
  have call {make : CallId → Event} (i : CallId) :
      ((d.rank n i).map make).isSome ↔ (d.call? i).map TestCall.editor = some n := by
    rw [← getElem?_sites, Option.isSome_map, rank, rankIn]
    split
    · next here => simp [here]
    · next elsewhere => simp [elsewhere]
  cases e with
  | command k command => simp [Event.mirrored, Event.site]
  | call i => exact call i
  | run i => exact call i
  | lowering i => exact call i

theorem mirrored_run (own : d.rank n i = some j) :
    (Event.run i).mirrored n (d.rank n) = some (.run j) := by simp [Event.mirrored, own]

theorem mirrored_call (own : d.rank n i = some j) :
    (Event.call i).mirrored n (d.rank n) = some (.call j) := by simp [Event.mirrored, own]

theorem mirrored_lowering (own : d.rank n i = some j) :
    (Event.lowering i).mirrored n (d.rank n) = some (.lowering j) := by simp [Event.mirrored, own]

theorem site_of_mirrored (same : e.mirrored n (d.rank n) = some e') : e.site d = some n :=
  isSome_mirrored.mp (Option.isSome_iff_exists.mpr ⟨e', same⟩)

/-- Calls that are made later do not alter what an event of a call that is there is. -/
theorem mirrored_append (known : (e.site d).isSome) (more : List Nat) :
    e.mirrored n (rankIn (d.sites ++ more) n) = e.mirrored n (d.rank n) := by
  have call (i : CallId) (known : ((d.call? i).map TestCall.editor).isSome) :
      rankIn (d.sites ++ more) n i = d.rank n i := by
    obtain ⟨m, here⟩ := Option.isSome_iff_exists.mp known
    rw [← getElem?_sites] at here
    exact rankIn_append_of_lt (List.getElem?_eq_some_iff.mp here).1 more
  cases e with
  | command k command => rfl
  | call i => simp only [Event.mirrored, call i known]
  | run i => simp only [Event.mirrored, call i known]
  | lowering i => simp only [Event.mirrored, call i known]

namespace Mirrors

variable {d₁ d₁' : Desk σ ρ ν ε} {phase phase' : CallPhase ρ ν ε}

/-- Only the editor and its buffer are altered. -/
theorem of_sameLoop (h : d.Mirrors n d') (same : d.SameLoop d₁) (same' : d'.SameLoop d₁')
    (editor : (d₁.editor n).Mirrors (d.rank n) (d₁'.editor n))
    (buffer : d₁'.openBuffer? n = d₁.openBuffer? n) : d₁.Mirrors n d₁' := by
  have sites : d₁.sites = d.sites := by simp only [sites, same.calls]
  have rank : d₁.rank n = d.rank n := by simp only [Desk.rank, sites]
  refine ⟨rank ▸ editor, ?_, buffer, ?_, ?_, ?_, ?_, ?_, ?_, ?_⟩
  · rw [same'.editors, same.editors, h.editors]
  · rw [same'.calls, sites, h.count]
  · rw [rank]
    simp only [call?, same.calls, same'.calls]
    exact h.calls
  · rw [same.ready]
    exact fun e member => isSome_site_congr sites (h.known e member)
  · rw [rank, same.interrupt, same.ready, same'.ready]
    exact h.ready
  · rw [same.interrupt, same'.interrupt]
    exact h.going
  · rw [same.gateOpen, same'.gateOpen, h.gateOpen]
  · rw [same.afterRun, same'.afterRun, h.afterRun]

theorem note (h : d.Mirrors n d') (records records' : List LogRecord) :
    (d.note records).Mirrors n (d'.note records') :=
  h.of_sameLoop ⟨rfl, rfl, rfl, rfl, rfl, rfl⟩ ⟨rfl, rfl, rfl, rfl, rfl, rfl⟩ h.editor h.buffer

/-- An alteration that leaves the buffer open. -/
theorem alterEditor (h : d.Mirrors n d') {f f' : Editor ρ ν → Editor ρ ν}
    (uri : ∀ e, (f e).uri = e.uri) (uri' : ∀ e, (f' e).uri = e.uri)
    (alters : (f (d.editor n)).Mirrors (d.rank n) (f' (d'.editor n))) :
    (d.alterEditor n f).Mirrors n (d'.alterEditor n f') := by
  refine h.of_sameLoop (sameLoop_alterEditor n f d) (sameLoop_alterEditor n f' d') ?_ ?_
  · by_cases inside : n < d.editors.length
    · have inside' : n < d'.editors.length := h.editors ▸ inside
      rwa [editor_alterEditor inside, editor_alterEditor inside', if_pos rfl, if_pos rfl]
    · have beyond := Nat.le_of_not_lt inside
      have beyond' : d'.editors.length ≤ n := h.editors ▸ beyond
      rw [alterEditor_of_le f beyond, alterEditor_of_le f' beyond']
      exact h.editor
  · have same : (d.alterEditor n f).openBuffer? n = d.openBuffer? n := by
      simp only [openBuffer?, view_alterEditor Editor.uri uri]
      rfl
    have same' : (d'.alterEditor n f').openBuffer? n = d'.openBuffer? n := by
      simp only [openBuffer?, view_alterEditor Editor.uri uri']
      rfl
    rw [same, same', h.buffer]

/-- A call is altered on both desks. -/
theorem alterCall (h : d.Mirrors n d') (own : d.rank n i = some j)
    {f f' : TestCall ρ ν ε → TestCall ρ ν ε} (editor : ∀ c, (f c).editor = c.editor)
    (alters : ∀ c c', c.Mirrors c' → (f c).Mirrors (f' c')) :
    Mirrors n { d with calls := d.calls.modify i f } { d' with calls := d'.calls.modify j f' } := by
  have call? (d : Desk σ ρ ν ε) (i l : CallId) (f : TestCall ρ ν ε → TestCall ρ ν ε) :
      ({ d with calls := d.calls.modify i f } : Desk σ ρ ν ε).call? l =
        if l = i then (d.call? i).map f else d.call? l := by
    simp only [Desk.call?, List.getElem?_modify]
    by_cases this : l = i
    · simp [this]
    · simp [this, Ne.symm this]
  have sites : ({ d with calls := d.calls.modify i f } : Desk σ ρ ν ε).sites = d.sites := by
    refine List.ext_getElem? fun l => ?_
    rw [getElem?_sites, getElem?_sites, call?]
    by_cases this : l = i
    · subst this
      cases d.call? l <;> simp [editor]
    · simp [this]
  have rank : ({ d with calls := d.calls.modify i f } : Desk σ ρ ν ε).rank n = d.rank n := by
    simp only [Desk.rank, sites]
  refine ⟨rank ▸ h.editor, h.editors, h.buffer, ?_, ?_, ?_, rank ▸ h.ready, h.going, h.gateOpen,
    h.afterRun⟩
  · rw [sites, ← h.count]
    exact List.length_modify _ _ _
  · rw [rank]
    intro i₁ j₁ c own₁ found
    rw [call?] at found
    rw [call?]
    by_cases this : i₁ = i
    · subst this
      obtain rfl : j = j₁ := Option.some.inj (own.symm.trans own₁)
      rw [if_pos rfl, Option.map_eq_some_iff] at found
      obtain ⟨c₀, found, rfl⟩ := found
      obtain ⟨c₀', found', like⟩ := h.calls i₁ j c₀ own found
      exact ⟨f' c₀', by rw [if_pos rfl, found', Option.map_some], alters c₀ c₀' like⟩
    · have other : j₁ ≠ j := by
        rintro rfl
        exact this (rankIn_inj own₁ own)
      rw [if_neg this] at found
      rw [if_neg other]
      exact h.calls i₁ j₁ c own₁ found
  · exact fun e member => isSome_site_congr sites (h.known e member)

theorem setPhase (h : d.Mirrors n d') (own : d.rank n i = some j)
    (phases : phase.Mirrors phase') : (d.setPhase i phase).Mirrors n (d'.setPhase j phase') :=
  h.alterCall own (fun _ => rfl) fun _ _ like => ⟨like.editor, phases, like.cancelRequested⟩

theorem schedule (h : d.Mirrors n d') (same : e.mirrored n (d.rank n) = some e') :
    (d.schedule e).Mirrors n (d'.schedule e') := by
  refine ⟨h.editor, h.editors, h.buffer, h.count, h.calls, ?_, fun going => ?_, h.going,
    h.gateOpen, h.afterRun⟩
  · intro e₁ member
    rcases List.mem_append.mp member with before | new
    · have sites : (d.schedule e).sites = d.sites := rfl
      exact isSome_site_congr sites (h.known e₁ before)
    · rw [List.mem_singleton.mp new]
      have here : e.site d = some n := site_of_mirrored same
      cases e <;> exact Option.isSome_iff_exists.mpr ⟨n, here⟩
  · have same : e.mirrored n ((d.schedule e).rank n) = some e' := same
    change d'.ready ++ [e'] = (d.ready ++ [e]).filterMap _
    rw [List.filterMap_append, List.filterMap_cons_some same, h.ready going]
    rfl

/-- A call is put into another phase, and an event of it becomes ready. -/
theorem proceed (h : d.Mirrors n d') (own : d.rank n i = some j)
    (phases : phase.Mirrors phase') (same : e.mirrored n (d.rank n) = some e') :
    ((d.setPhase i phase).schedule e).Mirrors n ((d'.setPhase j phase').schedule e') :=
  (h.setPhase own phases).schedule (by rwa [rank_setPhase])

theorem endRun (h : d.Mirrors n d') (own : d.rank n i = some j) (uri uri' : String)
    (request : Nat) {result result' : RunResult ρ ν ε} (results : result.Mirrors result') :
    (d.endRun i uri request result).Mirrors n (d'.endRun j uri' request result') :=
  h.proceed own (.awaiting uri uri' request (.ended results)) (mirrored_call own)

theorem stopRun (h : d.Mirrors n d') (own : d.rank n i = some j) :
    (d.stopRun i).Mirrors n (d'.stopRun j) := by
  obtain ⟨⟨m, phase, asked⟩, found, -⟩ := exists_call?_of_rank own
  obtain ⟨⟨m', phase', asked'⟩, found', like⟩ := h.calls i j _ own found
  have phases : phase.Mirrors phase' := like.phase
  unfold Desk.stopRun
  rw [found, found']
  cases phases with
  | scheduled => exact h
  | ended outcomes => exact h
  | awaiting uri uri' request runs =>
    have stopped := h.setPhase own (.awaiting uri uri' request .stopping)
    have again := h.proceed own (.awaiting uri uri' request .stopping) (mirrored_run own)
    cases runs with
    | ended results => exact h
    | lowering jobs => exact again
    | held artifacts => exact again
    | _ => exact stopped

theorem isRunning (h : d.Mirrors n d') (own : d.rank n i = some j) :
    d'.isRunning j = d.isRunning i := by
  obtain ⟨c, found, -⟩ := exists_call?_of_rank own
  obtain ⟨c', found', like⟩ := h.calls i j c own found
  simp [Desk.isRunning, found, found', like.isRunning]

theorem abandonRun (h : d.Mirrors n d') : (d.abandonRun n).Mirrors n (d'.abandonRun n) := by
  have currents := h.editor.current
  unfold Desk.abandonRun
  cases current : (d.editor n).current with
  | none =>
    rw [current] at currents
    cases current' : (d'.editor n).current with
    | none => exact h
    | some j => rw [current'] at currents; cases currents
  | some i =>
    rw [current] at currents
    cases current' : (d'.editor n).current with
    | none => rw [current'] at currents; cases currents
    | some j =>
      rw [current'] at currents
      cases currents with
      | some own =>
        simp only [h.isRunning own]
        split
        · exact (h.note _ _).stopRun own
        · exact h

end Mirrors

end Desk

end RuleBench
