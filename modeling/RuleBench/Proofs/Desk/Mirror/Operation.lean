import RuleBench.Proofs.Desk.Mirror

/-!
# Operations on desks that mirror each other

Every operation of an editor keeps the mirror if it is performed on both desks. Buffers that are
opened get identifiers of their own on either desk, and calls that are made get numbers of their
own.
-/

namespace RuleBench

variable {σ ρ ν η ε : Type} {p : Bench} {host : ScriptHost σ ρ ν η ε}

namespace Desk

namespace Mirrors

variable {d d' : Desk σ ρ ν ε} {n : Nat} {i j : CallId} {e e' : Event}

/-! ### Operations of editors -/

theorem invalidate (h : d.Mirrors n d') : (d.invalidate n).Mirrors n (d'.invalidate n) :=
  h.abandonRun.alterEditor (fun _ => rfl) (fun _ => rfl) h.abandonRun.editor.forget

theorem openBuffer?_of_closed {d : Desk σ ρ ν ε} (closed : (d.editor n).uri = none) :
    d.openBuffer? n = none := by
  rw [openBuffer?, closed]
  rfl

theorem openBuffer?_of_opened {d : Desk σ ρ ν ε} {uri : String}
    (opened : (d.editor n).uri = some uri) : d.openBuffer? n = d.buffers.get? uri := by
  rw [openBuffer?, opened]
  rfl

/-- Both editors let go of their buffers. -/
theorem leave (h : d.Mirrors n d') :
    (d.alterEditor n Editor.leave).Mirrors n (d'.alterEditor n Editor.leave) := by
  refine h.of_sameLoop (sameLoop_alterEditor n _ d) (sameLoop_alterEditor n _ d') ?_ ?_
  · have kept (d : Desk σ ρ ν ε) := related_alterEditor (f := Editor.leave)
      (R := fun e e' => e'.state = e.state ∧ e'.report = e.report ∧ e'.current = e.current ∧
        e'.request = e.request) (fun _ => ⟨rfl, rfl, rfl, rfl⟩) (fun _ => ⟨rfl, rfl, rfl, rfl⟩) n n d
    obtain ⟨state, report, current, request⟩ := kept d
    obtain ⟨state', report', current', request'⟩ := kept d'
    exact ⟨by simp only [uri_leave], by rw [state, state', h.editor.state],
      report ▸ report' ▸ h.editor.report, current ▸ current' ▸ h.editor.current,
      by rw [request, request', h.editor.request]⟩
  · rw [openBuffer?_of_closed (uri_leave n d), openBuffer?_of_closed (uri_leave n d')]

/-- When nothing is open, the buffers do not matter. -/
theorem buffers_of_closed (h : d.Mirrors n d') (closed : (d.editor n).uri = none)
    (bs bs' : Buffers) : Mirrors n { d with buffers := bs } { d' with buffers := bs' } := by
  have closed' : (d'.editor n).uri = none := by
    have same := h.editor.uri
    rw [closed] at same
    simpa using same
  refine h.of_sameLoop ⟨rfl, rfl, rfl, rfl, rfl, rfl⟩ ⟨rfl, rfl, rfl, rfl, rfl, rfl⟩ h.editor ?_
  rw [openBuffer?_of_closed (d := { d with buffers := bs }) closed,
    openBuffer?_of_closed (d := { d' with buffers := bs' }) closed']

theorem close (h : d.Mirrors n d') : (d.close n).Mirrors n (d'.close n) := by
  have left := h.invalidate.leave
  have closed := uri_leave n (d.invalidate n)
  have same := h.invalidate.editor.uri
  unfold Desk.close
  dsimp only
  cases opened : ((d.invalidate n).editor n).uri with
  | none =>
    cases opened' : ((d'.invalidate n).editor n).uri with
    | none => exact left
    | some uri' => rw [opened, opened'] at same; cases same
  | some uri =>
    cases opened' : ((d'.invalidate n).editor n).uri with
    | none => rw [opened, opened'] at same; cases same
    | some uri' => exact (left.buffers_of_closed closed _ _).note _ _

/-- A new buffer with the same text is opened on both desks. -/
theorem enter (h : d.Mirrors n d') (rawRule : Option RawRule) (text : String) :
    ((d.register text).alterEditor n (Editor.enter rawRule (bufferUri d.opened))).Mirrors n
      ((d'.register text).alterEditor n (Editor.enter rawRule (bufferUri d'.opened))) := by
  by_cases inside : n < d.editors.length
  · have inside' : n < d'.editors.length := h.editors ▸ inside
    have entered {d : Desk σ ρ ν ε} (inside : n < d.editors.length) :
        ((d.register text).alterEditor n (Editor.enter rawRule (bufferUri d.opened))).editor n =
          (d.editor n).enter rawRule (bufferUri d.opened) := by
      have inside : n < (d.register text).editors.length := inside
      rw [editor_alterEditor inside, if_pos rfl]
      rfl
    have buffer {d : Desk σ ρ ν ε} (inside : n < d.editors.length) :
        ((d.register text).alterEditor n
          (Editor.enter rawRule (bufferUri d.opened))).openBuffer? n = some ⟨text, 0⟩ := by
      rw [openBuffer?_of_opened (congrArg Editor.uri (entered inside))]
      exact (Buffers.get?_insert _ _ _ _).trans (if_pos rfl)
    refine h.of_sameLoop
      ⟨rfl, rfl, rfl, rfl, rfl, List.length_modify _ _ _⟩
      ⟨rfl, rfl, rfl, rfl, rfl, List.length_modify _ _ _⟩ ?_ ?_
    · rw [entered inside, entered inside']
      exact ⟨rfl, rfl, .none, h.editor.current, h.editor.request⟩
    · rw [buffer inside, buffer inside']
  · have beyond := Nat.le_of_not_lt inside
    have beyond' : d'.editors.length ≤ n := h.editors ▸ beyond
    have closed : (d.editor n).uri = none := by rw [editor_of_le beyond]
    rw [alterEditor_of_le (d := d.register text) _ beyond,
      alterEditor_of_le (d := d'.register text) _ beyond']
    have registered := h.buffers_of_closed closed (d.register text).buffers
      (d'.register text).buffers
    exact registered.of_sameLoop ⟨rfl, rfl, rfl, rfl, rfl, rfl⟩ ⟨rfl, rfl, rfl, rfl, rfl, rfl⟩
      registered.editor registered.buffer

theorem openBuffer (p : Bench) (h : d.Mirrors n d') (rawRule : Option RawRule) :
    (d.openBuffer p n rawRule).Mirrors n (d'.openBuffer p n rawRule) := by
  unfold Desk.openBuffer
  dsimp only
  rw [h.editor.uri]
  split
  · exact (h.close.enter rawRule _).note _ _
  · exact (h.enter rawRule _).note _ _

/-- What becomes of the open buffer when its text is replaced. -/
theorem edit_cases (p : Bench) (n : Nat) (text : String) (d : Desk σ ρ ν ε) :
    match d.openBuffer? n with
    | none => ∃ cause, d.edit p n text = .error cause
    | some b => ∃ bs now, d.edit p n text =
        .ok (({ d with buffers := bs }.invalidate n).alterEditor n
          (Editor.announce p.settings.throttleInterval now)) ∧
        ({ d with buffers := bs } : Desk σ ρ ν ε).openBuffer? n = some ⟨text, b.revision + 1⟩ := by
  unfold Desk.edit
  cases opened : (d.editor n).uri with
  | none =>
    rw [openBuffer?_of_closed opened]
    exact ⟨_, rfl⟩
  | some uri =>
    rw [openBuffer?_of_opened opened]
    cases found : d.buffers.get? uri with
    | none => simp [Buffers.edit, Buffers.get, found, bind, Except.bind]
    | some b =>
      have edited : d.buffers.edit uri text =
          .ok ⟨Buffers.put uri ⟨text, b.revision + 1⟩ d.buffers.entries⟩ := by
        simp [Buffers.edit, Buffers.get, found, bind, Except.bind, pure, Except.pure]
      simp only [edited]
      refine ⟨_, _, rfl, ?_⟩
      have same (bs : Buffers) : ({ d with buffers := bs } : Desk σ ρ ν ε).openBuffer? n =
          bs.get? uri := openBuffer?_of_opened (d := { d with buffers := bs }) opened
      rw [same]
      exact (Buffers.lookup_put _ _ _ _).trans (if_pos rfl)

theorem edit (p : Bench) (h : d.Mirrors n d') (text : String) :
    ((d.edit p n text).toOption.getD d).Mirrors n ((d'.edit p n text).toOption.getD d') := by
  have cases := edit_cases p n text d
  have cases' := edit_cases p n text d'
  rw [h.buffer] at cases'
  cases buffer : d.openBuffer? n with
  | none =>
    rw [buffer] at cases cases'
    obtain ⟨cause, refused⟩ := cases
    obtain ⟨cause', refused'⟩ := cases'
    rw [refused, refused']
    exact h
  | some b =>
    rw [buffer] at cases cases'
    obtain ⟨bs, now, edited, opened⟩ := cases
    obtain ⟨bs', now', edited', opened'⟩ := cases'
    have replaced : Mirrors n { d with buffers := bs } { d' with buffers := bs' } :=
      h.of_sameLoop ⟨rfl, rfl, rfl, rfl, rfl, rfl⟩ ⟨rfl, rfl, rfl, rfl, rfl, rfl⟩ h.editor
        (opened'.trans opened.symm)
    have void := replaced.invalidate
    rw [edited, edited']
    refine void.alterEditor (fun e => (Editor.alike_announce _ _ e).uri)
      (fun e => (Editor.alike_announce _ _ e).uri) (void.editor.of_alike ?_ ?_)
    · exact Editor.alike_announce _ _ _
    · exact Editor.alike_announce _ _ _

/-- A command is performed on both desks, or refused on both. -/
theorem perform (p : Bench) (h : d.Mirrors n d') (command : Command) :
    ((d.perform p n command).toOption.getD d).Mirrors n
      ((d'.perform p n command).toOption.getD d') := by
  cases command with
  | «open» rawRule => exact h.openBuffer p rawRule
  | close => exact h.close
  | edit text => exact h.edit p text
  | invalidate => exact h.invalidate

theorem save (p : Bench) (host : ScriptHost σ ρ ν η ε) (h : d.Mirrors n d') (name : Data)
    (freshKey : String) :
    (d.move p host (.save n name freshKey)).Mirrors n (d'.move p host (.save n name freshKey)) := by
  have alike (d : Desk σ ρ ν ε) :
      (d.editor n).Alike ((d.move p host (.save n name freshKey)).editor n) := by
    obtain ⟨rawRule, same⟩ := editor_move_save p host n name freshKey n d
    rw [same]
    exact ⟨rfl, rfl, rfl, rfl, rfl⟩
  have buffer (d : Desk σ ρ ν ε) :
      (d.move p host (.save n name freshKey)).openBuffer? n = d.openBuffer? n := by
    rw [openBuffer?, (alike d).uri, (keeps_save p host n name freshKey d).buffers]
    rfl
  have same (d : Desk σ ρ ν ε) : d.SameLoop (d.move p host (.save n name freshKey)) := by
    simp only [move]
    cases saved : d.save n name freshKey with
    | error cause => exact ⟨rfl, rfl, rfl, rfl, rfl, rfl⟩
    | ok result =>
      unfold Desk.save at saved
      dsimp only at saved
      split at saved
      · cases saved
      · split at saved
        · cases saved
        · cases saved
          exact ⟨rfl, rfl, rfl, rfl, rfl, List.length_modify _ _ _⟩
  exact h.of_sameLoop (same d) (same d') (h.editor.of_alike (alike d) (alike d'))
    (by rw [buffer, buffer, h.buffer])

/-- Time goes by on both desks. -/
theorem advance (h : d.Mirrors n d') (seconds : Float) :
    (d.advance seconds).Mirrors n (d'.advance seconds) := by
  have kept (d : Desk σ ρ ν ε) : d.SameLoop (d.advance seconds) := by
    have rung (timers : List (Float × Nat)) (d : Desk σ ρ ν ε) :
        d.SameLoop (timers.foldl ring d) := by
      induction timers generalizing d with
      | nil => exact ⟨rfl, rfl, rfl, rfl, rfl, rfl⟩
      | cons timer rest ih =>
        have rest := ih (d.ring timer)
        exact ⟨rest.calls, rest.ready, rest.interrupt, rest.gateOpen, rest.afterRun,
          rest.editors.trans (List.length_modify _ _ _)⟩
    have all := rung (d.due (d.now + seconds)) d
    exact ⟨all.calls, all.ready, all.interrupt, all.gateOpen, all.afterRun, all.editors⟩
  have buffer (d : Desk σ ρ ν ε) : (d.advance seconds).openBuffer? n = d.openBuffer? n := by
    rw [openBuffer?, (alike_advance seconds d n).uri, (keeps_advance seconds d).buffers]
    rfl
  exact h.of_sameLoop (kept d) (kept d')
    (h.editor.of_alike (alike_advance seconds d n) (alike_advance seconds d' n))
    (by rw [buffer, buffer, h.buffer])

/-! ### Calls -/

/-- A call is made on both desks. -/
theorem startCall (h : d.Mirrors n d') : (d.startCall n).2.Mirrors n (d'.startCall n).2 := by
  let call : TestCall ρ ν ε := { editor := n }
  have length : d.sites.length = d.calls.length := List.length_map _
  have sites : ({ d with calls := d.calls ++ [call] } : Desk σ ρ ν ε).sites = d.sites ++ [n] := by
    simp [Desk.sites, call]
  have rank : ({ d with calls := d.calls ++ [call] } : Desk σ ρ ν ε).rank n =
      rankIn (d.sites ++ [n]) n := by
    rw [Desk.rank, sites]
  have new : rankIn (d.sites ++ [n]) n d.calls.length = some d'.calls.length := by
    rw [h.count, ← length]
    exact rankIn_length d.sites n
  have made : Mirrors n { d with calls := d.calls ++ [call] }
      { d' with calls := d'.calls ++ [call] } := by
    refine ⟨⟨h.editor.uri, h.editor.state, h.editor.report, ?_, h.editor.request⟩, h.editors,
      h.buffer, ?_, ?_, ?_, fun going => ?_, h.going, h.gateOpen, h.afterRun⟩
    · rw [rank]
      exact rel_of_imp (fun own => rankIn_append own [n]) h.editor.current
    · rw [sites, List.count_append, ← h.count]
      simp [call]
    · rw [rank]
      intro i j c own found
      by_cases old : i < d.calls.length
      · rw [rankIn_append_of_lt (length ▸ old)] at own
        have found : d.call? i = some c := (List.getElem?_append_left old).symm.trans found
        obtain ⟨c', found', like⟩ := h.calls i j c own found
        have inside : j < d'.calls.length := (List.getElem?_eq_some_iff.mp found').1
        exact ⟨c', (List.getElem?_append_left inside).trans found', like⟩
      · have last : i = d.calls.length := by
          have inside : i < (d.calls ++ [call]).length := (List.getElem?_eq_some_iff.mp found).1
          simp only [List.length_append, List.length_singleton] at inside
          exact Nat.le_antisymm (Nat.le_of_lt_succ inside) (Nat.le_of_not_lt old)
        subst last
        obtain rfl : d'.calls.length = j := Option.some.inj (new.symm.trans own)
        obtain rfl : call = c := by simpa [call?] using found
        exact ⟨call, by simp [call?], rfl, .scheduled, rfl⟩
    · exact fun e member => isSome_site_of_sites sites (h.known e member)
    · rw [rank]
      refine (h.ready going).trans (List.filterMap_congr fun e member => ?_)
      exact (mirrored_append (h.known e member) [n]).symm
  refine made.schedule ?_
  rw [rank]
  simp only [Event.mirrored, new, Option.map_some]

theorem markCancelled (h : d.Mirrors n d') (own : d.rank n i = some j) :
    (d.markCancelled i).Mirrors n (d'.markCancelled j) :=
  h.alterCall own (fun _ => rfl) fun _ _ like => ⟨like.editor, like.phase, rfl⟩

theorem cancelCall (h : d.Mirrors n d') (own : d.rank n i = some j) :
    (d.cancelCall i).2.Mirrors n (d'.cancelCall j).2 := by
  obtain ⟨⟨m, phase, asked⟩, found, -⟩ := exists_call?_of_rank own
  obtain ⟨⟨m', phase', asked'⟩, found', like⟩ := h.calls i j _ own found
  have phases : phase.Mirrors phase' := like.phase
  unfold Desk.cancelCall
  rw [found, found']
  cases phases with
  | scheduled => exact h.markCancelled own
  | awaiting uri uri' request runs =>
    exact (h.markCancelled own).stopRun (by rw [rank, sites_markCancelled]; exact own)
  | ended outcomes => exact h

end Mirrors

end Desk

end RuleBench
