import RuleBench.Proofs.Desk.Quiet

/-!
# Superseded calls

A call is superseded when a command is performed in its editor, or a newer call begins there, before
it has answered. From then on it does nothing: it runs no code of a script, draws no samples and
leaves its editor alone, and it answers without a report. It does not matter how far its run had
come, nor in which order what is left of it happens.
-/

namespace RuleBench

variable {σ ρ ν η ε : Type} {p : Bench} {host : ScriptHost σ ρ ν η ε}

namespace Desk

variable {d d' : Desk σ ρ ν ε} {n : Nat} {i j : CallId} {uri : String} {request : Nat}
  {run : RunPhase ρ ν ε} {asked : Bool} {e : Event}

/-- What a call has answered. -/
def outcome? (d : Desk σ ρ ν ε) (i : CallId) : Option (CallOutcome ρ ν ε) :=
  (d.call? i).bind TestCall.outcome?

/-- A move makes an event of a call happen. -/
def Drives (d : Desk σ ρ ν ε) (i : CallId) (m : Move σ) : Prop :=
  ∃ e, d.act m = some e ∧ e.call? = some i

/-- A move supersedes a call of an editor: by a command there, or because another call begins. -/
def Supersedes (d : Desk σ ρ ν ε) (n : Nat) (i : CallId) (m : Move σ) : Prop :=
  ∃ e, d.act m = some e ∧ ((∃ c, e = .command n c) ∨ ∃ j, j ≠ i ∧ d.Begins n j e)

/-- A move makes a call of an editor begin. -/
def BeginsIn (d : Desk σ ρ ν ε) (n : Nat) (m : Move σ) : Prop :=
  ∃ e j, d.act m = some e ∧ d.Begins n j e

/-- A call that has been overtaken, or has answered because of that. -/
inductive Spent (d : Desk σ ρ ν ε) (i : CallId) : Prop where
  | waiting (n : Nat) (uri : String) (request : Nat) (run : RunPhase ρ ν ε) (asked : Bool)
      (found : d.call? i = some ⟨n, .awaiting uri request run, asked⟩)
      (old : request < (d.editor n).request)
  | superseded (n : Nat) (asked : Bool) (found : d.call? i = some ⟨n, .ended .superseded, asked⟩)
  | cancelled (n : Nat) (found : d.call? i = some ⟨n, .ended .cancelled, true⟩)

/-- A call that does nothing. Whatever it still has to do changes neither an editor nor a buffer,
nor the world of scripts, nor the generator of samples, and is the same for every host: no code is
run. It has no report. -/
structure Idles (p : Bench) (host : ScriptHost σ ρ ν η ε) (d : Desk σ ρ ν ε) (i : CallId) :
    Prop where
  outcome : ∀ o, d.outcome? i = some o → o = .superseded ∨
    o = .cancelled ∧ ∃ c, d.call? i = some c ∧ c.cancelRequested = true
  alike : ∀ m, d.Drives i m → d.Alike (d.move p host m)
  runsNothing : ∀ m, d.Drives i m → ∀ (p' : Bench) (host' : ScriptHost σ ρ ν η ε),
    d.move p' host' m = d.move p host m

/-- A call that does nothing any more, whatever happens. -/
def Inert (p : Bench) (host : ScriptHost σ ρ ν η ε) (d : Desk σ ρ ν ε) (i : CallId) : Prop :=
  ∀ ms : List (Move σ), (d.after p host ms).Idles p host i

/-! ### What overtaken calls still do -/

/-- An overtaken call answers without a report. -/
theorem answer_of_overtaken {result : RunResult ρ ν ε} (asked : Bool)
    (old : request < (d.editor n).request) (isOver : (RunPhase.ended result).IsOver false) :
    d.answer n request asked result = if asked then .cancelled else .superseded := by
  cases result with
  | report r => simp [answer, Nat.ne_of_lt old]
  | cancelled => rfl
  | raised e => cases isOver
  | notRegistered cause => exact isOver.elim

/-- An event of an overtaken call is without effect but on the call itself. -/
theorem alike_react_of_overtaken (p : Bench) (host : ScriptHost σ ρ ν η ε)
    (found : d.call? i = some ⟨n, .awaiting uri request run, asked⟩)
    (old : request < (d.editor n).request) (isOver : run.IsOver false)
    (current : (d.editor n).current ≠ some i) (own : e.call? = some i) :
    d.Alike (d.react p host e) ∧ ∀ (p' : Bench) (host' : ScriptHost σ ρ ν η ε),
      d.react p' host' e = d.react p host e := by
  by_cases due : TestCall.due i ⟨n, .awaiting uri request run, asked⟩ = some e
  · cases run with
    | stopping =>
      cases due
      have ends (p' : Bench) (host' : ScriptHost σ ρ ν η ε) :
          d.react p' host' (.run i) = d.endRun i uri request .cancelled :=
        advanceRun_stopping found
      refine ⟨?_, fun p' host' => (ends p' host').trans (ends p host).symm⟩
      rw [ends]
      exact alike_endRun _ _ _ _ d
    | ended result =>
      cases due
      refine ⟨?_, fun _ _ => rfl⟩
      have answers := answer_of_overtaken asked old isOver
      have finished := alike_finishCall i ⟨n, .awaiting uri request (.ended result), asked⟩ uri
        request result d
      have untouched : d.alterEditor n
          (Editor.settle i (d.answer n request asked result)) = d := by
        refine alterEditor_self ?_
        rw [answers]
        cases asked <;> simp [Editor.settle, current]
      simp only [untouched] at finished
      simpa [react, advanceCall, found] using finished
    | _ => exact isOver.elim
  · have idle (p' : Bench) (host' : ScriptHost σ ρ ν η ε) : d.react p' host' e = d :=
      react_of_not_due own found due
    refine ⟨?_, fun p' host' => (idle p' host').trans (idle p host).symm⟩
    rw [idle]
    exact .refl d

/-- Nothing happens to a call that has answered. -/
theorem react_of_ended {outcome : CallOutcome ρ ν ε}
    (found : d.call? i = some ⟨n, .ended outcome, asked⟩) (own : e.call? = some i) :
    d.react p host e = d := react_of_not_due own found (by simp [TestCall.due])

/-- The loop makes no event of a call happen after an interrupt. -/
theorem interrupt_of_act {m : Move σ} (h : d.act m = some e) (own : e.call? = some i) :
    d.interrupt.isSome = false := by
  cases m with
  | command k c =>
    cases h
    cases own
  | turn place =>
    simp only [act] at h
    split at h
    · cases h
    · next going => simpa using going
  | _ => cases h

namespace Spent

/-- What an overtaken call does in its own events. -/
theorem react_own (sound : d.Sound p host) (h : d.Spent i) (own : e.call? = some i)
    (going : d.interrupt.isSome = false) : (d.react p host e).Spent i := by
  cases h with
  | waiting n uri request run asked found old =>
    have later := Nat.lt_of_lt_of_le old (request_react_le p host e n d)
    have isOver := ((sound.inOrder n).overtaken_of_lt found old).isOver
    rw [going] at isOver
    by_cases due : TestCall.due i ⟨n, .awaiting uri request run, asked⟩ = some e
    · cases run with
      | stopping =>
        cases due
        have ends : d.react p host (.run i) = d.endRun i uri request .cancelled :=
          advanceRun_stopping found
        exact .waiting n uri request (.ended .cancelled) asked (by simp [ends, found]) later
      | ended result =>
        cases due
        have answers := answer_of_overtaken asked old isOver
        have after : (d.react p host (.call i)).call? i =
            some ⟨n, .ended (if asked then .cancelled else .superseded), asked⟩ := by
          simp [Desk.react, advanceCall, found, answers]
        cases asked with
        | true => exact .cancelled n after
        | false => exact .superseded n false after
      | _ => exact isOver.elim
    · rw [react_of_not_due own found due]
      exact .waiting n uri request run asked found old
  | superseded n asked found =>
    have idle : d.react p host e = d := react_of_ended found own
    rw [idle]
    exact .superseded n asked found
  | cancelled n found =>
    have idle : d.react p host e = d := react_of_ended found own
    rw [idle]
    exact .cancelled n found

/-- Nothing that happens revives a call that has been overtaken. -/
theorem react (sound : d.Sound p host) (h : d.Spent i)
    (going : e.call? = some i → d.interrupt.isSome = false) : (d.react p host e).Spent i := by
  by_cases own : e.call? = some i
  · exact h.react_own sound own (going own)
  · obtain ⟨c, found⟩ : ∃ c, d.call? i = some c := by
      cases h with
      | waiting n uri request run asked found => exact ⟨_, found⟩
      | superseded n asked found => exact ⟨_, found⟩
      | cancelled n found => exact ⟨_, found⟩
    have after :
        (d.react p host e).call? i = some c ∨ (d.react p host e).call? i = some c.stop := by
      rcases call?_react_of_ne p host own with same | ⟨n, stopped, _⟩
      · exact .inl (same.trans found)
      · rw [stopped, call?_abandonRun]
        split
        · exact .inr (by simp [found])
        · exact .inl found
    cases h with
    | waiting n uri request run asked found' old =>
      rw [found, Option.some.injEq] at found'
      subst found'
      have later := Nat.lt_of_lt_of_le old (request_react_le p host e n d)
      cases after with
      | inl same => exact .waiting n uri request run asked same later
      | inr stopped => exact .waiting n uri request run.stop asked stopped later
    | superseded n asked found' =>
      rw [found, Option.some.injEq] at found'
      subst found'
      exact .superseded n asked (after.elim id id)
    | cancelled n found' =>
      rw [found, Option.some.injEq] at found'
      subst found'
      exact .cancelled n (after.elim id id)

theorem taken (h : d.Spent i) (ready : List Event) :
    ({ d with ready } : Desk σ ρ ν ε).Spent i := by
  cases h with
  | waiting n uri request run asked found old => exact .waiting n uri request run asked found old
  | superseded n asked found => exact .superseded n asked found
  | cancelled n found => exact .cancelled n found

theorem move_quiet {m : Move σ} (h : d.Spent i) (quiet : d.act m = none) :
    (d.move p host m).Spent i := by
  cases h with
  | waiting n uri request run asked found old =>
    have later : request < ((d.move p host m).editor n).request :=
      (editor_move_of_quiet p host quiet n).request.symm ▸ old
    obtain ⟨c, after, rfl | ⟨_, rfl⟩ | ⟨_, rfl⟩⟩ := call?_move_of_quiet p host quiet found
    · exact .waiting n uri request run asked after later
    · exact .waiting n uri request run.stop true after later
    · cases run with
      | held a => exact .waiting n uri request (.released a) asked after later
      | _ => exact .waiting n uri request _ asked after later
  | superseded n asked found =>
    obtain ⟨c, after, rfl | ⟨_, rfl⟩ | ⟨_, rfl⟩⟩ := call?_move_of_quiet p host quiet found
    · exact .superseded n asked after
    · exact .superseded n true after
    · exact .superseded n asked after
  | cancelled n found =>
    obtain ⟨c, after, rfl | ⟨_, rfl⟩ | ⟨_, rfl⟩⟩ := call?_move_of_quiet p host quiet found
    · exact .cancelled n after
    · exact .cancelled n after
    · exact .cancelled n after

/-- A call that has been overtaken never comes back, whatever the next move is. -/
theorem move (sound : d.Sound p host) (h : d.Spent i) (m : Move σ) :
    (d.move p host m).Spent i := by
  cases acts : d.act m with
  | none => exact h.move_quiet acts
  | some e =>
    obtain ⟨ready, same⟩ := move_of_act (η := η) acts
    have taken := sound.taken ready
    have going : e.call? = some i → d.interrupt.isSome = false := interrupt_of_act acts
    rw [same]
    exact (h.taken ready).react taken going

theorem after (reachable : Reachable p host d) (h : d.Spent i) (ms : List (Move σ)) :
    (d.after p host ms).Spent i := by
  induction ms generalizing d with
  | nil => exact h
  | cons m ms ih => exact ih (reachable.move m) (h.move reachable.sound m)

theorem idles (sound : d.Sound p host) (h : d.Spent i) : d.Idles p host i := by
  have driven (m : Move σ) (drives : d.Drives i m) : d.Alike (d.move p host m) ∧
      ∀ (p' : Bench) (host' : ScriptHost σ ρ ν η ε), d.move p' host' m = d.move p host m := by
    obtain ⟨e, acts, own⟩ := drives
    have going := interrupt_of_act acts own
    obtain ⟨ready, same⟩ := move_of_act (η := η) acts
    have taken : d.Alike ({ d with ready } : Desk σ ρ ν ε) := ⟨rfl, rfl, rfl, rfl, rfl, rfl, rfl⟩
    suffices effect : ({ d with ready } : Desk σ ρ ν ε).Alike
          (({ d with ready } : Desk σ ρ ν ε).react p host e) ∧
        ∀ (p' : Bench) (host' : ScriptHost σ ρ ν η ε),
          ({ d with ready } : Desk σ ρ ν ε).react p' host' e =
            ({ d with ready } : Desk σ ρ ν ε).react p host e by
      refine ⟨?_, fun p' host' => ?_⟩
      · rw [same]
        exact taken.trans effect.1
      · rw [same, same]
        exact effect.2 p' host'
    have still {n : Nat} {asked : Bool} {outcome : CallOutcome ρ ν ε}
        (found : d.call? i = some ⟨n, .ended outcome, asked⟩) (p' : Bench)
        (host' : ScriptHost σ ρ ν η ε) : ({ d with ready } : Desk σ ρ ν ε).react p' host' e =
          ({ d with ready } : Desk σ ρ ν ε) := react_of_ended found own
    cases h with
    | waiting n uri request run asked found old =>
      have isOver := ((sound.inOrder n).overtaken_of_lt found old).isOver
      rw [going] at isOver
      have current := (sound.inOrder n).current_ne_of_lt found old
      exact alike_react_of_overtaken (d := { d with ready }) p host found old isOver current own
    | superseded n asked found =>
      refine ⟨?_, fun p' host' => (still found p' host').trans (still found p host).symm⟩
      rw [still found]
      exact .refl _
    | cancelled n found =>
      refine ⟨?_, fun p' host' => (still found p' host').trans (still found p host).symm⟩
      rw [still found]
      exact .refl _
  refine ⟨fun o answered => ?_, fun m drives => (driven m drives).1,
    fun m drives => (driven m drives).2⟩
  cases h with
  | waiting n uri request run asked found => simp [outcome?, found, TestCall.outcome?] at answered
  | superseded n asked found =>
    left
    simpa [outcome?, found, TestCall.outcome?, eq_comm] using answered
  | cancelled n found =>
    right
    exact ⟨by simpa [outcome?, found, TestCall.outcome?, eq_comm] using answered, _, found, rfl⟩

end Spent

/-! ### Editors that have been cleared -/

/-- An editor without a report and without a run under way, at rest. -/
structure Cleared (d : Desk σ ρ ν ε) (n : Nat) : Prop where
  state : (d.editor n).state = .idle
  report : (d.editor n).report = none
  current : (d.editor n).current = none

theorem cleared_invalidate (n : Nat) (d : Desk σ ρ ν ε) : (d.invalidate n).Cleared n :=
  ⟨holds_alterEditor (P := fun e => e.state = .idle) rfl (fun _ => rfl) n _,
    report_invalidate n d, current_invalidate n d⟩

namespace Cleared

theorem of_alike (h : d.Cleared n) (same : (d.editor n).Alike (d'.editor n)) : d'.Cleared n :=
  ⟨same.state.trans h.state, same.report.trans h.report, same.current.trans h.current⟩

theorem close (n : Nat) (d : Desk σ ρ ν ε) : (d.close n).Cleared n := by
  have cleared := cleared_invalidate n d
  have left : ((d.invalidate n).alterEditor n Editor.leave).Cleared n :=
    ⟨(view_alterEditor Editor.state (f := Editor.leave) (fun _ => rfl) n n _).trans cleared.state,
      (view_alterEditor Editor.report (f := Editor.leave) (fun _ => rfl) n n _).trans
        cleared.report,
      (view_alterEditor Editor.current (f := Editor.leave) (fun _ => rfl) n n _).trans
        cleared.current⟩
  unfold Desk.close
  dsimp only
  split
  · exact ⟨left.state, left.report, left.current⟩
  · exact left

theorem enter {rawRule : Option RawRule} {uri : String} (current : (d.editor n).current = none) :
    (d.alterEditor n (Editor.enter rawRule uri)).Cleared n :=
  ⟨holds_alterEditor (P := fun e => e.state = .idle) rfl (fun _ => rfl) n d,
    holds_alterEditor (P := fun e => e.report = none) rfl (fun _ => rfl) n d,
    (view_alterEditor Editor.current (f := Editor.enter rawRule uri) (fun _ => rfl) n n d).trans
      current⟩

/-- Every command that is performed clears its editor. -/
theorem perform (inOrder : d.InOrder p host n) {c : Command} (ok : d.perform p n c = .ok d') :
    d'.Cleared n := by
  cases c with
  | «open» rawRule =>
    cases ok
    unfold openBuffer
    dsimp only
    split
    · exact of_alike (enter (d := (d.close n).register _) (close n d).current) (.refl _)
    · next closed =>
      have current := inOrder.current_of_closed (by simpa using closed)
      exact of_alike (enter (d := d.register _) current) (.refl _)
  | close =>
    cases ok
    exact close n d
  | edit text =>
    simp only [Desk.perform, Desk.edit] at ok
    split at ok
    · cases ok
    · split at ok
      · cases ok
      · next bs _ =>
        cases ok
        exact (cleared_invalidate n { d with buffers := bs }).of_alike
          (related_alterEditor .refl (Editor.alike_announce _ _) n n _)
  | invalidate =>
    cases ok
    exact cleared_invalidate n d

end Cleared

/-- Only an editor that has nothing open refuses a command. -/
theorem closed_of_perform_error (inOrder : d.InOrder p host n) {c : Command} {cause : EditorError}
    (refused : d.perform p n c = .error cause) : (d.editor n).uri = none := by
  cases c with
  | edit text =>
    simp only [perform, edit] at refused
    split at refused
    · next closed => exact closed
    · next uri opened =>
      obtain ⟨_, b, found⟩ := inOrder.buffer uri opened
      simp [Buffers.edit, Buffers.get, found, bind, Except.bind, pure, Except.pure] at refused
  | _ => cases refused

/-! ### Superseded calls do nothing -/

/-- A call that is superseded has been overtaken. -/
theorem Spent.of_supersedes (sound : d.Sound p host)
    (found : d.call? i = some ⟨n, .awaiting uri request run, asked⟩) {m : Move σ}
    (supersedes : d.Supersedes n i m) : (d.move p host m).Spent i := by
  cases (sound.inOrder n).calls i uri request run asked found with
  | inr overtaken => exact (waiting n uri request run asked found overtaken.request).move sound m
  | inl latest =>
    obtain ⟨e, acts, what⟩ := supersedes
    obtain ⟨ready, same⟩ := move_of_act (η := η) acts
    have own : e.call? ≠ some i := by
      rcases what with ⟨c, rfl⟩ | ⟨j, other, rfl, _⟩
      · simp [Event.call?]
      · simpa [Event.call?] using other
    have taken := sound.taken ready
    have after := taken.react e
    have stays : ∃ run', (d.move p host m).call? i =
        some ⟨n, .awaiting uri request run', asked⟩ := by
      rw [same]
      rcases call?_react_of_ne (d := { d with ready }) p host own with
        kept | ⟨k, stopped, _⟩
      · exact ⟨run, kept.trans found⟩
      · rw [stopped, call?_abandonRun]
        have found' : ({ d with ready } : Desk σ ρ ν ε).call? i =
          some ⟨n, .awaiting uri request run, asked⟩ := found
        rw [found']
        split
        · exact ⟨run.stop, rfl⟩
        · exact ⟨run, rfl⟩
    obtain ⟨run', found'⟩ := stays
    -- the editor names another call now, or none
    have current : ((d.move p host m).editor n).current ≠ some i := by
      rw [same]
      rcases what with ⟨c, rfl⟩ | ⟨j, other, rfl, scheduled⟩
      · change (((({ d with ready } : Desk σ ρ ν ε).perform p n c).toOption.getD _).editor
          n).current ≠ _
        cases performed : ({ d with ready } : Desk σ ρ ν ε).perform p n c with
        | ok d' =>
          have cleared := Cleared.perform (taken.inOrder n) performed
          simp [Except.toOption, cleared.current]
        | error cause =>
          have closed := closed_of_perform_error (taken.inOrder n) performed
          exact absurd (closed.symm.trans latest.opened) (by simp)
      · have begun : ({ d with ready } : Desk σ ρ ν ε).react p host (.call j) =
            ({ d with ready } : Desk σ ρ ν ε).beginCall j n := by
          have scheduled : ({ d with ready } : Desk σ ρ ν ε).call? j =
            some ⟨n, .scheduled, false⟩ := scheduled
          simp [Desk.react, advanceCall, scheduled]
        have opened : (({ d with ready } : Desk σ ρ ν ε).editor n).uri = some uri := latest.opened
        rw [begun, editor_beginCall opened, if_pos rfl]
        exact fun named => other (Option.some.inj named)
    rw [← same] at after
    have overtaken := ((after.inOrder n).calls i uri request run' asked found').resolve_left
      fun latest' => current latest'.current
    exact waiting n uri request run' asked found' overtaken.request

/-- In a cleared editor nothing that is left of a call has an effect. -/
theorem Cleared.alike_react (sound : d.Sound p host) (h : d.Cleared n)
    (going : d.interrupt.isSome = false) {c : TestCall ρ ν ε} (found : d.call? i = some c)
    (site : c.editor = n) (own : e.call? = some i) (unbegun : ¬ d.Begins n i e) :
    d.Alike (d.react p host e) := by
  obtain ⟨k, phase, asked⟩ := c
  obtain rfl : k = n := site
  cases phase with
  | awaiting uri request run =>
    have overtaken := ((sound.inOrder k).calls i uri request run asked found).resolve_left
      fun latest => absurd (h.current.symm.trans latest.current) (by simp)
    have isOver := overtaken.isOver
    rw [going] at isOver
    have current : (d.editor k).current ≠ some i := by simp [h.current]
    exact (alike_react_of_overtaken p host found overtaken.request isOver current own).1
  | ended outcome =>
    rw [react_of_ended found own]
    exact .refl d
  | scheduled =>
    by_cases due : e = .call i
    · subst due
      cases asked with
      | true =>
        have ends : d.react p host (.call i) = d.endCall i .cancelled := by
          simp [react, advanceCall, found]
        rw [ends]
        exact alike_setPhase _ _ d
      | false => exact absurd ⟨rfl, found⟩ unbegun
    · rw [react_of_not_due own found (by simpa [TestCall.due, eq_comm] using due)]
      exact .refl d

/-- A cleared editor stays so until a call begins in it. -/
theorem Cleared.move (sound : d.Sound p host) (h : d.Cleared n) {m : Move σ}
    (unbegun : ¬ d.BeginsIn n m) : (d.move p host m).Cleared n := by
  cases acts : d.act m with
  | none => exact h.of_alike (editor_move_of_quiet p host acts n)
  | some e =>
    obtain ⟨ready, same⟩ := move_of_act (η := η) acts
    have taken := sound.taken ready
    have h' : ({ d with ready } : Desk σ ρ ν ε).Cleared n := ⟨h.state, h.report, h.current⟩
    have unbegun (j : CallId) : ¬ ({ d with ready } : Desk σ ρ ν ε).Begins n j e := fun begins =>
      unbegun ⟨e, j, acts, begins⟩
    rw [same]
    by_cases site : e.site ({ d with ready } : Desk σ ρ ν ε) = some n
    · have driven {j : CallId} (own : e.call? = some j)
          (site : (({ d with ready } : Desk σ ρ ν ε).call? j).map TestCall.editor = some n) :
          (({ d with ready } : Desk σ ρ ν ε).react p host e).Cleared n := by
        obtain ⟨c, found, site⟩ := Option.map_eq_some_iff.mp site
        have going : d.interrupt.isSome = false := interrupt_of_act acts own
        have alike := h'.alike_react taken going found site own (unbegun j)
        exact h'.of_alike (.of_eq (alike.editor n))
      cases e with
      | call j => exact driven rfl site
      | run j => exact driven rfl site
      | lowering j => exact driven rfl site
      | command k c =>
        obtain rfl : k = n := by simpa [Event.site] using site
        change ((({ d with ready } : Desk σ ρ ν ε).perform p k c).toOption.getD _).Cleared k
        cases performed : ({ d with ready } : Desk σ ρ ν ε).perform p k c with
        | ok d' => exact perform (taken.inOrder k) performed
        | error cause => exact h'
    · exact h'.of_alike (.of_eq (editor_react_of_ne site))

theorem Cleared.after (reachable : Reachable p host d) (h : d.Cleared n) {ms : List (Move σ)}
    (unbegun : Along p host (fun d m => ¬ d.BeginsIn n m) d ms) :
    (d.after p host ms).Cleared n := by
  induction ms generalizing d with
  | nil => exact h
  | cons m ms ih =>
    exact ih (reachable.move m) (h.move reachable.sound unbegun.1) unbegun.2

theorem Spent.inert (reachable : Reachable p host d) (h : d.Spent i) : d.Inert p host i :=
  fun ms => (h.after reachable ms).idles (reachable.after ms).sound

/-- Superseded calls do nothing. A call that waits for its run and is superseded is inert. Once a
command was performed, its editor is at rest and without a report until a call begins there. Of two
calls of one editor that wait at the same time one is inert, and not the one with the later
request. -/
theorem Reachable.superseded_inert (h : Reachable p host d) (n : Nat) :
    (∀ i uri request run asked m, d.call? i = some ⟨n, .awaiting uri request run, asked⟩ →
      d.Supersedes n i m → (d.move p host m).Inert p host i) ∧
    (∀ c m, d.act m = some (.command n c) → (d.perform p n c).isOk = true → ∀ ms,
      Along p host (fun d m => ¬ d.BeginsIn n m) (d.move p host m) ms →
        (((d.move p host m).after p host ms).editor n).state = .idle ∧
          (((d.move p host m).after p host ms).editor n).report = none) ∧
    (∀ i j uri uri' request request' run run' asked asked', i ≠ j →
      d.call? i = some ⟨n, .awaiting uri request run, asked⟩ →
      d.call? j = some ⟨n, .awaiting uri' request' run', asked'⟩ →
      d.Inert p host i ∨ request' < request ∧ d.Inert p host j) := by
  refine ⟨?_, ?_, ?_⟩
  · intro i uri request run asked m found supersedes
    exact (Spent.of_supersedes h.sound found supersedes).inert (h.move m)
  · intro c m acts ok ms unbegun
    have cleared : (d.move p host m).Cleared n := by
      obtain ⟨ready, same⟩ := move_of_act (η := η) acts
      have taken := h.sound.taken ready
      rw [same]
      change ((({ d with ready } : Desk σ ρ ν ε).perform p n c).toOption.getD _).Cleared n
      cases performed : ({ d with ready } : Desk σ ρ ν ε).perform p n c with
      | ok d' => exact .perform (taken.inOrder n) performed
      | error cause =>
        have closed := closed_of_perform_error (taken.inOrder n) performed
        have closed : (d.editor n).uri = none := closed
        cases c with
        | edit text => simp [perform, edit, closed, Except.isOk, Except.toBool] at ok
        | _ => cases performed
    have after := cleared.after (h.move m) unbegun
    exact ⟨after.state, after.report⟩
  · intro i j uri uri' request request' run run' asked asked' ne found found'
    cases (h.sound.inOrder n).calls i uri request run asked found with
    | inr overtaken =>
      exact .inl ((Spent.waiting n uri request run asked found overtaken.request).inert h)
    | inl latest =>
      have overtaken := ((h.sound.inOrder n).calls j uri' request' run' asked' found').resolve_left
        fun latest' => ne (Option.some.inj (latest.current.symm.trans latest'.current))
      exact .inr ⟨latest.request ▸ overtaken.request,
        (Spent.waiting n uri' request' run' asked' found' overtaken.request).inert h⟩

/-- A test is superseded while its buffer is being lowered, once by an invalidation and once by a
newer test. -/
theorem grouping_superseded :
    (sampleAfter groupingScript 2).call? 0 = some ⟨0, .awaiting (bufferUri 0) 1
        (.lowering ⟨bufferUri 0, ⟨groupingScript, 0⟩⟩), false⟩ ∧
    ((sampleAfter groupingScript 2).move sampleBench Execution.host
        (.command 0 .invalidate)).Inert sampleBench Execution.host 0 ∧
    (((sampleAfter groupingScript 2).after sampleBench Execution.host
        [.command 0 .invalidate, .start 0, .turn 0]).editor 0).report = none ∧
    ((sampleAfter groupingScript 2).after sampleBench Execution.host
        [.start 0, .turn 1]).Inert sampleBench Execution.host 0 := by
  have reachable := reachable_sampleAfter groupingScript 2
  obtain ⟨inert, rests, _⟩ := Reachable.superseded_inert reachable 0
  have waiting : (sampleAfter groupingScript 2).call? 0 = some ⟨0, .awaiting (bufferUri 0) 1
      (.lowering ⟨bufferUri 0, ⟨groupingScript, 0⟩⟩), false⟩ := rfl
  refine ⟨waiting, ?_, ?_, ?_⟩
  · exact inert 0 _ _ _ _ _ waiting ⟨_, rfl, .inl ⟨_, rfl⟩⟩
  · refine (rests .invalidate (.command 0 .invalidate) rfl rfl [.start 0, .turn 0]
      ⟨?_, ?_, trivial⟩).2
    · rintro ⟨e, j, acts, _⟩
      cases acts
    · rintro ⟨e, j, acts, rfl, _⟩
      have first : ((((sampleAfter groupingScript 2).move sampleBench Execution.host
        (.command 0 .invalidate)).move sampleBench Execution.host (.start 0)).act
          (.turn 0 : Move Execution.Scene)) = some (.lowering 0) := rfl
      rw [first] at acts
      cases acts
  · have reachable := reachable.after [.start 0, .turn 1]
    obtain ⟨_, _, overlap⟩ := Reachable.superseded_inert reachable 0
    have first := overlap 0 1 (bufferUri 0) (bufferUri 0) 1 2 _ _ false false (by decide) rfl rfl
    refine first.resolve_right fun other => ?_
    exact absurd other.1 (by decide)

end Desk

end RuleBench
