import Mathlib.Data.List.Chain
import Mathlib.Data.List.InsertIdx
import RuleBench.Proofs.Pacer.Traffic

/-!
# The rate of a pacer

Any two deliveries that follow each other are at least one interval apart, if no timer goes off
early. A cancellation forgets the call that waits, but not when one was delivered last, so this holds
across cancellations as well.

What a pacer does depends neither on what its calls are (`relabel`) nor, as long as the arithmetic of
its calls is right, on how times are written down (`timed`).
-/

namespace RuleBench.Pacer

variable {τ τ' α β : Type}

/-! ### Other values -/

/-- The same pacer for other calls. -/
def relabel (f : α → β) (t : Pacer τ α) : Pacer τ β := { t with pending := t.pending.map f }

theorem fire_relabel (f : α → β) (now : τ) (t : Pacer τ α) :
    (t.relabel f).fire now = ((t.fire now).1.relabel f, (t.fire now).2.map f) := by
  cases pending : t.pending <;> simp [fire, relabel, pending]

theorem cancel_relabel (f : α → β) (t : Pacer τ α) : (t.relabel f).cancel = t.cancel.relabel f := rfl

theorem call_relabel [Add τ] [Sub τ] [OfNat τ 0] [LE τ] [DecidableRel (α := τ) (· ≤ ·)]
    (f : α → β) (interval now : τ) (a : α) (t : Pacer τ α) :
    (t.relabel f).call interval now (f a) =
      ((t.call interval now a).1.relabel f, (t.call interval now a).2.map f) := by
  cases deadline : t.deadline with
  | some due => simp [call, relabel, deadline]
  | none =>
    cases lastCall : t.lastCall with
    | none => simp [call, relabel, deadline, lastCall]
    | some last =>
      by_cases apart : interval ≤ now - last <;>
        simp [call, relabel, deadline, lastCall, apart]

/-! ### Other times -/

/-- The same pacer by another clock. -/
def timed (v : τ → τ') (t : Pacer τ α) : Pacer τ' α :=
  { lastCall := t.lastCall.map v, pending := t.pending, deadline := t.deadline.map v }

def Event.timed (v : τ → τ') : Event τ α → Event τ' α
  | call time a => .call (v time) a
  | cancel time => .cancel (v time)
  | ring place time => .ring place (v time)

def Delivery.timed (v : τ → τ') (x : Delivery τ α) : Delivery τ' α := { x with time := v x.time }

namespace Traffic

/-- The same traffic by another clock. -/
def timed (v : τ → τ') (t : Traffic τ α) : Traffic τ' α where
  pacer := t.pacer.timed v
  timers := t.timers.map v
  made := t.made.map (Prod.map v id)
  delivered := t.delivered.map (Delivery.timed v)

section Exact

variable [Add τ] [Sub τ] [OfNat τ 0] [LE τ] [DecidableRel (α := τ) (· ≤ ·)]
  [Add τ'] [Sub τ'] [OfNat τ' 0] [LE τ'] [DecidableRel (α := τ') (· ≤ ·)]
  {v : τ → τ'} {interval : τ} {t : Traffic τ α} {e : Event τ α} {es : List (Event τ α)}

/-- The arithmetic of an event is right when times are taken for these values: a call is found to
come too early if it does, and its timer is armed for the right time. No other event calculates. -/
def Exact (v : τ → τ') (interval : τ) (t : Traffic τ α) : Event τ α → Prop
  | .call now _ => t.pacer.deadline = none → ∀ last ∈ t.pacer.lastCall,
    (interval ≤ now - last ↔ v interval ≤ v now - v last) ∧
      (¬ interval ≤ now - last → v (now + atLeastZero (interval - (now - last))) =
        v now + atLeastZero (v interval - (v now - v last)))
  | _ => True

instance [DecidableEq τ'] (v : τ → τ') (interval : τ) (t : Traffic τ α) :
    ∀ e, Decidable (t.Exact v interval e)
  | .call now _ =>
    inferInstanceAs (Decidable (t.pacer.deadline = none → ∀ last ∈ t.pacer.lastCall,
      (interval ≤ now - last ↔ v interval ≤ v now - v last) ∧
        (¬ interval ≤ now - last → v (now + atLeastZero (interval - (now - last))) =
          v now + atLeastZero (v interval - (v now - v last)))))
  | .cancel _ => .isTrue trivial
  | .ring _ _ => .isTrue trivial

/-- While its arithmetic is right, the traffic is the same by either clock. -/
theorem handle_timed (exact : t.Exact v interval e) :
    (t.handle interval e).timed v = (t.timed v).handle (v interval) (e.timed v) := by
  have step := step_handle interval t e
  generalize t.handle interval e = t' at step
  cases step with
  | passes time a idle apart =>
    cases lastCall : t.pacer.lastCall with
    | none =>
      simp [timed, Pacer.timed, Event.timed, Delivery.timed, handle, call, Pacer.call, idle,
        lastCall, deliver]
    | some last =>
      have apart : v interval ≤ v time - v last :=
        (exact idle last lastCall).1.mp (apart last lastCall)
      simp [timed, Pacer.timed, Event.timed, Delivery.timed, handle, call, Pacer.call, idle,
        lastCall, apart, deliver]
  | arms time a last idle lastCall early =>
    obtain ⟨elapsed, due⟩ := exact idle last lastCall
    have early' : ¬ v interval ≤ v time - v last := fun apart => early (elapsed.mpr apart)
    simp [timed, Pacer.timed, Event.timed, handle, call, Pacer.call, idle, lastCall, early',
      due early, deliver]
  | replaces time a due armed =>
    simp [timed, Pacer.timed, Event.timed, handle, call, Pacer.call, armed, deliver]
  | cancels time =>
    cases deadline : t.pacer.deadline <;>
      simp [timed, Pacer.timed, Event.timed, handle, cancel, Pacer.cancel, deadline,
        List.map_dropLast]
  | rings place time number a live pending =>
    simp [timed, Pacer.timed, Event.timed, Delivery.timed, handle, ring, live, fire, pending,
      deliver, List.eraseIdx_map]
  | lapses place time live pending =>
    simp [timed, Pacer.timed, Event.timed, handle, ring, live, fire, pending, deliver,
      List.eraseIdx_map]
  | silent place time dead =>
    simp [timed, Event.timed, handle, ring, Nat.not_lt.mpr dead]

theorem after_timed (exact : Along interval (Exact v interval) t es) :
    (t.after interval es).timed v = (t.timed v).after (v interval) (es.map (Event.timed v)) := by
  induction es generalizing t with
  | nil => rfl
  | cons e es ih =>
    rw [after_cons, ih exact.2, handle_timed exact.1]
    rfl

end Exact

/-! ### The rate -/

/-- No timer goes off early. -/
def OnTime [LE τ] (t : Traffic τ α) : Event τ α → Prop
  | .ring place time => ∀ due ∈ t.timers[place]?, due ≤ time
  | _ => True

instance [LE τ] [DecidableRel (α := τ) (· ≤ ·)] (t : Traffic τ α) : ∀ e, Decidable (t.OnTime e)
  | .ring place time => inferInstanceAs (Decidable (∀ due ∈ t.timers[place]?, due ≤ time))
  | .call _ _ => .isTrue trivial
  | .cancel _ => .isTrue trivial

/-- Deliveries that follow each other are at least one interval apart. -/
def Apart [Sub τ] [LE τ] (interval : τ) (t : Traffic τ α) : Prop :=
  t.delivered.IsChain fun x y => interval ≤ y.time - x.time

theorem Apart.append [Sub τ] [LE τ] {interval : τ} {t : Traffic τ α} (h : t.Apart interval) {y : Delivery τ α}
    (later : ∀ x, t.delivered.getLast? = some x → interval ≤ y.time - x.time) :
    (t.delivered ++ [y]).IsChain fun x y => interval ≤ y.time - x.time := by
  refine List.IsChain.append h (.singleton y) fun x last z first => ?_
  obtain rfl : y = z := by simpa using first
  exact later x last

variable [AddCommGroup τ] [LinearOrder τ] [IsOrderedAddMonoid τ]
  {interval : τ} {t t' : Traffic τ α} {e : Event τ α} {es : List (Event τ α)}

theorem Apart.step (h : t.Apart interval) (sound : t.Sound interval)
    (step : t.Step interval e t') (onTime : t.OnTime e) : t'.Apart interval := by
  cases step with
  | passes time a idle apart =>
    refine h.append fun x last => apart x.time ?_
    rw [sound.lastCall, last, Option.map_some]
  | rings place time number a live pending =>
    refine h.append fun x last => ?_
    -- the timer was armed for one interval after the delivery before
    obtain ⟨rfl, due, _, timers, deadline, _⟩ := sound.armed.of_live live
    obtain ⟨x', last', rfl⟩ := sound.deadline due deadline
    obtain rfl : x' = x := Option.some.inj (last'.symm.trans last)
    have rung : x'.time + interval ≤ time := onTime _ (by simp [timers])
    exact le_sub_iff_add_le'.mpr rung
  | arms time a last idle lastCall early => exact h
  | replaces time a due armed => exact h
  | cancels time => exact h
  | lapses place time live pending => exact h
  | silent place time dead => exact h

theorem Apart.after (onTime : Along interval OnTime {} es) :
    (after interval ({} : Traffic τ α) es).Apart interval := by
  have start : ({} : Traffic τ α).Apart interval := List.IsChain.nil
  refine (after_preserves (I := fun t => t.Apart interval ∧ t.Sound interval) ?_ ⟨start, .empty⟩
    onTime).1
  rintro t e ⟨apart, sound⟩ onTime
  have step := step_handle interval t e
  exact ⟨apart.step sound step onTime, sound.step step⟩

end Traffic

end RuleBench.Pacer
