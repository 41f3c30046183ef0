import Mathlib.Algebra.Order.Group.Int
import RuleBench.Proofs.Desk.Quiet
import RuleBench.Proofs.Pacer.Rate

/-!
# How often listeners are told

Whatever happens on a desk, the notifier of an editor hears at most three things of it: that a text
was edited, that a buffer was closed, and that its timer went off (`heard`). It does what a pacer
does that hears these, and the listener of the editor is told of what the pacer delivers (`Paced`).
To close a buffer and to open another one is to cancel, so the rate is kept across that.
-/

namespace RuleBench

variable {σ ρ ν η ε : Type} {p : Bench} {host : ScriptHost σ ρ ν η ε}

theorem Pacer.fire_of_idle {τ α : Type} {t : Pacer τ α} (now : τ) (idle : t.deadline = none)
    (pending : t.pending = none) : t.fire now = (t, none) := by
  obtain ⟨lastCall, _, _⟩ := t
  cases idle
  cases pending
  rfl

namespace Editor

/-- What an editor knows of telling its listener. -/
structure Voice where
  notifier : Pacer Float Unit
  notified : List Float
  listening : Bool

def voice (e : Editor ρ ν) : Voice := ⟨e.notifier, e.notified, e.listening⟩

/-- An editor has done with its listener what this traffic does. -/
structure Voice.Paced (e : Voice) (t : Pacer.Traffic Float Unit) : Prop where
  notifier : e.notifier = t.pacer.relabel Prod.snd
  notified : e.notified = if e.listening then t.delivered.map Pacer.Delivery.time else []
  armed : t.Armed

variable {e : Editor ρ ν} {t : Pacer.Traffic Float Unit}

/-- The listener is told of what the traffic delivers, if anything. -/
theorem paced_tell {notifier : Pacer Float Unit} (paced : notifier = t.pacer.relabel Prod.snd)
    (notified : e.notified = if e.listening then t.delivered.map Pacer.Delivery.time else [])
    (now : Float) (passed : Option (Nat × Unit)) (armed : (t.deliver now passed).Armed) :
    (if (passed.map Prod.snd).isSome then { e with notifier }.tell now
      else { e with notifier }).voice.Paced (t.deliver now passed) := by
  cases passed with
  | none => exact ⟨paced, notified, armed⟩
  | some call =>
    cases listening : e.listening with
    | true =>
      have told : e.notified = t.delivered.map Pacer.Delivery.time := by
        simpa [listening] using notified
      refine ⟨?_, ?_, armed⟩
      · simpa [tell, listening, voice, Pacer.Traffic.deliver] using paced
      · simp [tell, voice, Pacer.Traffic.deliver, told]
    | false =>
      refine ⟨?_, ?_, armed⟩
      · simpa [tell, listening, voice, Pacer.Traffic.deliver] using paced
      · simpa [tell, listening, voice, Pacer.Traffic.deliver] using notified

theorem paced_announce (h : e.voice.Paced t) (interval now : Float) :
    (e.announce interval now).voice.Paced (t.call interval now ()) := by
  have armed := h.armed.step (t.step_handle interval (.call now ()))
  have notifier : e.notifier = t.pacer.relabel Prod.snd := h.notifier
  have heard := t.pacer.call_relabel Prod.snd interval now (t.made.length, ())
  let pacer := (t.pacer.call interval now (t.made.length, ())).1
  let timers := t.timers ++ if t.pacer.deadline.isSome then [] else pacer.deadline.toList
  rw [announce, notifier, heard]
  exact paced_tell (t := { t with pacer, timers, made := t.made ++ [(now, ())] }) rfl h.notified now
    _ armed

theorem paced_fire (h : e.voice.Paced t) (now : Float) :
    (e.fire now).voice.Paced (t.ring 0 now) := by
  have notifier : e.notifier = t.pacer.relabel Prod.snd := h.notifier
  have heard := t.pacer.fire_relabel Prod.snd now
  rw [fire, notifier, heard]
  by_cases live : 0 < t.timers.length
  · have armed := h.armed.step (t.step_handle 0 (.ring 0 now))
    simp only [Pacer.Traffic.handle, Pacer.Traffic.ring, live, if_true] at armed ⊢
    exact paced_tell (t := { t with pacer := (t.pacer.fire now).1, timers := t.timers.eraseIdx 0 })
      rfl h.notified now _ armed
  · -- no timer is armed, so that no call waits either
    have idle : t.pacer.deadline = none := by simpa [h.armed.timers] using live
    rw [Pacer.fire_of_idle now idle (h.armed.pending_of_idle idle)]
    simp only [Pacer.Traffic.ring, live, if_false]
    exact ⟨rfl, h.notified, h.armed⟩

theorem paced_leave (h : e.voice.Paced t) : e.leave.voice.Paced t.cancel where
  notifier := congrArg Pacer.cancel h.notifier
  notified := h.notified
  armed := h.armed.step (t.step_handle 0 (.cancel 0))

end Editor

namespace Desk

variable {d d' : Desk σ ρ ν ε} {m n : Nat} {t : Pacer.Traffic Float Unit}

/-! ### What the notifier of an editor hears -/

/-- An edit is accepted: an editor has a buffer open, which is registered. -/
def isEditable (n : Nat) (text : String) (d : Desk σ ρ ν ε) : Bool :=
  (d.editor n).uri.any fun uri => (d.buffers.edit uri text).isOk

/-- What the notifier of an editor hears of a command there. -/
def commandHeard (n : Nat) (d : Desk σ ρ ν ε) : Command → List (Pacer.Event Float Unit)
  | .open _ => if (d.editor n).uri.isSome then [.cancel d.now] else []
  | .close => [.cancel d.now]
  | .edit text => if d.isEditable n text then [.call d.now ()] else []
  | .invalidate => []

/-- What the notifier of an editor hears while timers go off one after the other. -/
def rung (n : Nat) : Desk σ ρ ν ε → List (Float × Nat) → List (Pacer.Event Float Unit)
  | _, [] => []
  | d, timer :: rest =>
    (if timer.2 = n then [.ring 0 (d.ring timer).now] else []) ++ rung n (d.ring timer) rest

/-- What the notifier of an editor hears of an event. -/
def eventHeard (n : Nat) (d : Desk σ ρ ν ε) : Event → List (Pacer.Event Float Unit)
  | .command k c => if k = n then d.commandHeard n c else []
  | _ => []

/-- What the notifier of an editor hears of a move. -/
def heard (n : Nat) (d : Desk σ ρ ν ε) : Move σ → List (Pacer.Event Float Unit)
  | .advance seconds => d.rung n (d.due (d.now + seconds))
  | m => match d.act m with
    | some e => d.eventHeard n e
    | none => []

/-- What the notifier of an editor hears of some moves. -/
def heardAll (p : Bench) (host : ScriptHost σ ρ ν η ε) (n : Nat) :
    Desk σ ρ ν ε → List (Move σ) → List (Pacer.Event Float Unit)
  | _, [] => []
  | d, m :: ms => d.heard n m ++ heardAll p host n (d.move p host m) ms

/-! ### Operations and the listener -/

/-- What an alteration does to an editor, it does wherever the editor is, as long as it does not make
an editor that is nowhere tell anybody. -/
theorem voice_alterEditor {f : Editor ρ ν → Editor ρ ν} (still : (f {}).voice = ({} : Editor ρ ν).voice)
    (n : Nat) (d : Desk σ ρ ν ε) :
    ((d.alterEditor n f).editor n).voice = (f (d.editor n)).voice := by
  by_cases inside : n < d.editors.length
  · rw [editor_alterEditor inside, if_pos rfl]
  · have beyond := Nat.le_of_not_lt inside
    rw [alterEditor_of_le f beyond, editor_of_le beyond, still]

theorem voice_invalidate (n m : Nat) (d : Desk σ ρ ν ε) :
    ((d.invalidate n).editor m).voice = (d.editor m).voice := by
  rw [← editor_abandonRun n m d]
  exact view_alterEditor Editor.voice (f := Editor.forget) (fun _ => rfl) n m _

theorem voice_close (n : Nat) (d : Desk σ ρ ν ε) :
    ((d.close n).editor n).voice = (d.editor n).leave.voice := by
  have left : (((d.invalidate n).alterEditor n Editor.leave).editor n).voice =
      (d.editor n).leave.voice := by
    rw [voice_alterEditor (f := Editor.leave) rfl]
    have same := voice_invalidate n n d
    simp only [Editor.voice, Editor.Voice.mk.injEq] at same
    simp [Editor.leave, Editor.voice, same]
  unfold close
  dsimp only
  split <;> exact left

theorem voice_openBuffer (n : Nat) (rawRule : Option RawRule) (d : Desk σ ρ ν ε) :
    ((d.openBuffer p n rawRule).editor n).voice =
      if (d.editor n).uri.isSome then (d.editor n).leave.voice else (d.editor n).voice := by
  have entered (text uri : String) (d : Desk σ ρ ν ε) :
      (((d.register text).alterEditor n (Editor.enter rawRule uri)).editor n).voice =
        (d.editor n).voice :=
    view_alterEditor Editor.voice (f := Editor.enter rawRule uri) (fun _ => rfl) n n _
  unfold openBuffer
  dsimp only
  split
  · exact (entered _ _ _).trans (voice_close n d)
  · exact entered _ _ d

theorem now_invalidate (n : Nat) (d : Desk σ ρ ν ε) : (d.invalidate n).now = d.now := by
  have stopped (i : CallId) (d : Desk σ ρ ν ε) : (d.stopRun i).now = d.now := by
    unfold stopRun
    split
    · split <;> rfl
    · rfl
  have abandoned : (d.abandonRun n).now = d.now := by
    unfold abandonRun
    split
    · split
      · exact stopped _ _
      · rfl
    · rfl
  exact abandoned

/-- A listener is told of an edit as the pacer tells of a call. -/
theorem voice_edit {text : String} (ok : d.edit p n text = .ok d') :
    d.isEditable n text = true ∧ ∃ e : Editor ρ ν, e.voice = (d.editor n).voice ∧
      (d'.editor n).voice = (e.announce p.settings.throttleInterval d.now).voice := by
  simp only [edit] at ok
  split at ok
  · cases ok
  · next uri opened =>
    split at ok
    · cases ok
    · next buffers edited =>
      cases ok
      have same := voice_invalidate n n ({ d with buffers } : Desk σ ρ ν ε)
      have inside : n < (({ d with buffers } : Desk σ ρ ν ε).invalidate n).editors.length := by
        have kept := (alike_abandonRun n ({ d with buffers } : Desk σ ρ ν ε)).editors
        simpa [invalidate, alterEditor, kept] using lt_of_uri opened
      have now : (({ d with buffers } : Desk σ ρ ν ε).invalidate n).now = d.now :=
        now_invalidate n _
      refine ⟨by simp [isEditable, opened, edited, Except.isOk, Except.toBool], _, same, ?_⟩
      rw [editor_alterEditor inside, if_pos rfl, now]

theorem not_isEditable_of_error {text : String} {cause : EditorError}
    (refused : d.edit p n text = .error cause) : d.isEditable n text = false := by
  simp only [edit] at refused
  split at refused
  · next closed => simp [isEditable, closed]
  · next uri opened =>
    split at refused
    · next edited => simp [isEditable, opened, edited, Except.isOk, Except.toBool]
    · cases refused

/-! ### What a move does to the listener -/

theorem paced_perform (h : (d.editor n).voice.Paced t) {c : Command}
    (ok : d.perform p n c = .ok d') :
    (d'.editor n).voice.Paced (t.after p.settings.throttleInterval (d.commandHeard n c)) := by
  cases c with
  | «open» rawRule =>
    cases ok
    rw [voice_openBuffer]
    simp only [commandHeard]
    split
    · exact Editor.paced_leave h
    · exact h
  | close =>
    cases ok
    rw [voice_close]
    exact Editor.paced_leave h
  | edit text =>
    obtain ⟨editable, e, same, told⟩ := voice_edit ok
    simp only [commandHeard, editable, if_true, told]
    rw [← same] at h
    exact Editor.paced_announce h _ d.now
  | invalidate =>
    cases ok
    rw [voice_invalidate]
    exact h

/-- Only commands make a notifier hear something of an event. -/
theorem voice_react {e : Event} (uncommanded : ∀ c, e ≠ .command n c) :
    ((d.react p host e).editor n).voice = (d.editor n).voice :=
  view_react Editor.voice (fun _ _ _ _ _ => rfl) p host uncommanded

theorem paced_react (h : (d.editor n).voice.Paced t) (e : Event) :
    ((d.react p host e).editor n).voice.Paced
      (t.after p.settings.throttleInterval (d.eventHeard n e)) := by
  by_cases commanded : ∃ c, e = .command n c
  · obtain ⟨c, rfl⟩ := commanded
    simp only [eventHeard, if_true]
    change (((d.perform p n c).toOption.getD d).editor n).voice.Paced _
    cases performed : d.perform p n c with
    | ok d' => exact paced_perform h performed
    | error cause =>
      cases c with
      | edit text =>
        have refused : d.isEditable n text = false := not_isEditable_of_error performed
        simp only [commandHeard, refused]
        exact h
      | _ => cases performed
  · have uncommanded : ∀ c, e ≠ .command n c := fun c same => commanded ⟨c, same⟩
    have silent : d.eventHeard n e = [] := by
      cases e with
      | command k c =>
        have other : k ≠ n := by
          rintro rfl
          exact uncommanded c rfl
        simp [eventHeard, other]
      | _ => rfl
    rw [silent, voice_react uncommanded]
    exact h

theorem paced_rung (h : (d.editor n).voice.Paced t) (interval : Float)
    (timers : List (Float × Nat)) :
    ((timers.foldl ring d).editor n).voice.Paced (t.after interval (d.rung n timers)) := by
  induction timers generalizing d t with
  | nil => exact h
  | cons timer rest ih =>
    have first : ((d.ring timer).editor n).voice.Paced
        (t.after interval (if timer.2 = n then [.ring 0 (d.ring timer).now] else [])) := by
      split
      · next own =>
        subst own
        have rung : ((d.ring timer).editor timer.2).voice =
            ((d.editor timer.2).fire (d.ring timer).now).voice :=
          voice_alterEditor (f := Editor.fire (d.ring timer).now) rfl timer.2 _
        rw [rung]
        exact Editor.paced_fire h _
      · next other =>
        have same : (d.ring timer).editor n = d.editor n :=
          editor_alterEditor_of_ne (Ne.symm other)
        rw [same]
        exact h
    simp only [rung, Pacer.Traffic.after_append, List.foldl_cons]
    exact ih first

theorem voice_move_of_quiet (p : Bench) (host : ScriptHost σ ρ ν η ε) {m : Move σ}
    (quiet : d.act m = none) (timeless : ∀ seconds, m ≠ .advance seconds) (n : Nat) :
    ((d.move p host m).editor n).voice = (d.editor n).voice := by
  by_cases saving : ∃ k name freshKey, m = .save k name freshKey
  · obtain ⟨k, name, freshKey, rfl⟩ := saving
    obtain ⟨rawRule, same⟩ := editor_move_save p host k name freshKey n d
    rw [same]
    rfl
  · rw [editor_move_of_still p host quiet
      (fun k name freshKey same => saving ⟨k, name, freshKey, same⟩) timeless]

/-- With every move the notifier of an editor does what a pacer does that hears the same. -/
theorem paced_move (h : (d.editor n).voice.Paced t) (m : Move σ) :
    ((d.move p host m).editor n).voice.Paced
      (t.after p.settings.throttleInterval (d.heard n m)) := by
  by_cases timed : ∃ seconds, m = .advance seconds
  · obtain ⟨seconds, rfl⟩ := timed
    exact paced_rung h _ _
  · have timeless : ∀ seconds, m ≠ .advance seconds := fun seconds same => timed ⟨seconds, same⟩
    have heard : d.heard n m = match d.act m with
        | some e => d.eventHeard n e
        | none => [] := by
      cases m with
      | advance seconds => exact absurd rfl (timeless seconds)
      | _ => rfl
    rw [heard]
    cases acts : d.act m with
    | none =>
      rw [voice_move_of_quiet p host acts timeless]
      exact h
    | some e =>
      obtain ⟨ready, same⟩ := move_of_act (η := η) acts
      have h : (({ d with ready } : Desk σ ρ ν ε).editor n).voice.Paced t := h
      rw [same]
      exact paced_react h e

theorem paced_after (h : (d.editor n).voice.Paced t) (ms : List (Move σ)) :
    ((d.after p host ms).editor n).voice.Paced
      (t.after p.settings.throttleInterval (d.heardAll p host n ms)) := by
  induction ms generalizing d t with
  | nil => exact h
  | cons m ms ih =>
    simp only [heardAll, Pacer.Traffic.after_append, after_cons]
    exact ih (paced_move h m)

theorem paced_fresh (listening : List Bool) (buffers : Buffers) (opened : Nat)
    (generator : Generator) (world : σ) (n : Nat) :
    ((fresh listening buffers opened generator world : Desk σ ρ ν ε).editor n).voice.Paced {} := by
  obtain ⟨listening', same⟩ := editor_fresh (ρ := ρ) (ν := ν) (ε := ε) listening buffers opened
    generator world n
  rw [same]
  exact ⟨rfl, by cases listening' <;> rfl, Pacer.Traffic.armed_empty⟩

/-- A pacer never exceeds its rate. Calls that it delivers one after the other are at least one
interval apart, whatever calls, cancellations and timers there were in between, as long as no timer
goes off early. In particular the notifier of an editor is such a pacer throughout all moves on a
desk, also while its editor is closed and opened again: if the arithmetic of its calls is right for
some values of its times, its listener is told at times whose values are at least an interval
apart. -/
theorem never_exceeds_rate (p : Bench) (host : ScriptHost σ ρ ν η ε) {τ α : Type}
    [AddCommGroup τ] [LinearOrder τ] [IsOrderedAddMonoid τ] :
    (∀ (interval : τ) (ds : List (Pacer.Deed τ α)),
      Pacer.Traffic.Along interval Pacer.Traffic.OnTime {}
        (Pacer.Traffic.happeningsAll interval {} ds) →
      (Pacer.Traffic.performAll interval {} ds).Apart interval) ∧
    ∀ (listening : List Bool) (buffers : Buffers) (opened : Nat) (generator : Generator) (world : σ)
      (ms : List (Move σ)) (n : Nat) (v : Float → τ),
      let start : Desk σ ρ ν ε := fresh listening buffers opened generator world
      let interval := p.settings.throttleInterval
      let heard := start.heardAll p host n ms
      let t := Pacer.Traffic.after interval {} heard
      let e := (start.after p host ms).editor n
      e.notifier = t.pacer.relabel Prod.snd ∧
      (e.notified = if e.listening then t.delivered.map Pacer.Delivery.time else []) ∧
      (Pacer.Traffic.Along interval (Pacer.Traffic.Exact v interval) {} heard →
        Pacer.Traffic.Along (v interval) Pacer.Traffic.OnTime {}
          (heard.map (Pacer.Event.timed v)) →
        (t.delivered.map Pacer.Delivery.time).IsChain fun s t => v interval ≤ v t - v s) := by
  refine ⟨fun interval ds onTime => ?_, ?_⟩
  · rw [Pacer.Traffic.performAll_eq_after]
    exact .after onTime
  · intro listening buffers opened generator world ms n v start interval heard t e
    have paced : e.voice.Paced t :=
      paced_after (paced_fresh listening buffers opened generator world n) ms
    refine ⟨paced.notifier, paced.notified, fun exact onTime => ?_⟩
    have apart : (Pacer.Traffic.after (v interval) {} (heard.map (Pacer.Event.timed v))).Apart
        (v interval) := .after onTime
    have same : t.timed v =
        Pacer.Traffic.after (v interval) {} (heard.map (Pacer.Event.timed v)) :=
      Pacer.Traffic.after_timed exact
    rw [← same, Pacer.Traffic.Apart, Pacer.Traffic.timed, List.isChain_map] at apart
    exact (List.isChain_map _).mpr apart

/-- The value of a finite floating-point number as a multiple of the smallest positive one. -/
def exactly (x : Float) : Int := ((Number.Binary.ofFloat? x).map Number.Binary.scaled).getD 0

/-- An editor that is edited twice, and again when its timer has gone off; then it is closed and
another rule is opened and edited at the same time. -/
def hastyEdits : List (Move Execution.Scene) :=
  [.command 0 (.open none), .command 0 (.edit "a"), .command 0 (.edit "b"), .advance 0.1,
    .command 0 (.edit "c"), .command 0 .close, .command 0 (.open none), .command 0 (.edit "d"),
    .advance 0.1]

/-- The listener is told of the first edit, of the second one an interval later, and of the last one
another interval later. -/
theorem hastyEdits_keep_rate :
    ((sampleDesk.after sampleBench Execution.host hastyEdits).editor 0).notified.length = 3 ∧
    ((sampleDesk.after sampleBench Execution.host hastyEdits).editor 0).notified.IsChain
      fun s t => exactly 0.1 ≤ exactly t - exactly s := by
  obtain ⟨_, rate⟩ := never_exceeds_rate sampleBench Execution.host (τ := Int) (α := Unit)
  obtain ⟨_, notified, apart⟩ := rate [true] {} 0 (.ofSeed 0)
    (.ofTraces (Trace.sample (.str "t1") [.str "checkout"]).toOption.toList) hastyEdits 0 exactly
  have told := apart (by decide +kernel) (by decide +kernel)
  have listening : ((sampleDesk.after sampleBench Execution.host hastyEdits).editor 0).listening =
      true := by decide +kernel
  refine ⟨by decide +kernel, ?_⟩
  rw [show ((sampleDesk.after sampleBench Execution.host hastyEdits).editor 0).notified = _ from
    notified.trans (if_pos listening)]
  exact told

end Desk

end RuleBench
