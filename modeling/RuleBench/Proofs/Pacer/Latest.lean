import Mathlib.Algebra.Order.Group.Int
import RuleBench.Proofs.Pacer.Traffic

/-!
# The latest call is never lost

As long as nobody cancels, the latest call has been delivered or waits for its timer. A call that
comes too early is due one interval after the delivery before it, and if timers go off in time it is
delivered or replaced by then (`Settled`).
-/

namespace RuleBench.Pacer.Traffic

variable {τ α : Type} {interval δ : τ} {t t' : Traffic τ α} {e : Event τ α} {es : List (Event τ α)}

theorem le_of_getLast? {l : List (Delivery τ α)} {y : Delivery τ α}
    (ordered : l.Pairwise fun x y => x.number < y.number) (last : l.getLast? = some y) :
    ∀ x ∈ l, x.number ≤ y.number := by
  obtain ⟨front, rfl⟩ := List.getLast?_eq_some_iff.mp last
  intro x mem
  rcases List.mem_append.mp mem with front | own
  · exact Nat.le_of_lt ((List.pairwise_append.mp ordered).2.2 x front y (by simp))
  · exact Nat.le_of_eq (congrArg Delivery.number (List.mem_singleton.mp own))

/-! ### The latest call -/

/-- The latest call was the last one to be delivered, or it waits. -/
def Current (t : Traffic τ α) : Prop :=
  ∀ k, t.made.length = k + 1 →
    (∃ x, t.delivered.getLast? = some x ∧ x.number = k) ∨ ∃ a, t.pacer.pending = some (k, a)

/-! ### What becomes of a call -/

section Settled

variable [Add τ] [LE τ]

/-- No event comes later than this after an armed timer is due. -/
def Late (δ : τ) (t : Traffic τ α) (e : Event τ α) : Prop := ∀ due ∈ t.timers, e.time ≤ due + δ

instance [DecidableRel (α := τ) (· ≤ ·)] (δ : τ) (t : Traffic τ α) (e : Event τ α) :
    Decidable (t.Late δ e) := inferInstanceAs (Decidable (∀ due ∈ t.timers, e.time ≤ due + δ))

/-- What has become of a call that is due at some time. -/
inductive Fate (due δ : τ) (t : Traffic τ α) (k : Nat) : Prop
  | delivered (x : Delivery τ α) (mem : x ∈ t.delivered) (number : x.number = k)
      (inTime : x.time ≤ due + δ)
  | replaced (next : τ × α) (made : t.made[k + 1]? = some next) (inTime : next.1 ≤ due + δ)
  | waiting (latest : t.made.length = k + 1) (armed : t.timers = [due])

/-- What has become of a call that was made at some time: it was let through at once, or it is due
one interval after the delivery before it. -/
inductive Settled (interval δ : τ) (t : Traffic τ α) (k : Nat) (time : τ) : Prop
  | atOnce (x : Delivery τ α) (mem : x ∈ t.delivered) (number : x.number = k) (now : x.time = time)
  | inTime (previous : Delivery τ α) (mem : previous ∈ t.delivered) (before : previous.number < k)
      (newest : ∀ x ∈ t.delivered, x.number < k → x.number ≤ previous.number)
      (fate : t.Fate (previous.time + interval) δ k)

/-- All calls are settled. -/
def AllSettled (interval δ : τ) (t : Traffic τ α) : Prop :=
  ∀ k time a, t.made[k]? = some (time, a) → t.Settled interval δ k time

/-- A call that waits is settled until its timer goes off. -/
theorem Sound.settled_of_waiting (h : t.Sound interval) {k : Nat} {a : α} (δ time : τ)
    (pending : t.pacer.pending = some (k, a)) : t.Settled interval δ k time := by
  obtain ⟨latest, _, later⟩ := h.pending k a pending
  have armed : t.pacer.deadline.isSome := by simp [← h.armed.pending, pending]
  obtain ⟨due, deadline⟩ := Option.isSome_iff_exists.mp armed
  obtain ⟨x, last, rfl⟩ := h.deadline due deadline
  have mem := List.mem_of_getLast? last
  refine .inTime x mem (later x mem) (fun y mem _ => le_of_getLast? h.ordered last y mem) ?_
  exact .waiting latest (by simp [h.armed.timers, deadline])

/-- A call stays settled while only calls are delivered that are not older. -/
theorem Settled.carry {k : Nat} {time : τ} (h : t.Settled interval δ k time)
    {new : List (Delivery τ α)} (delivered : t'.delivered = t.delivered ++ new)
    (later : ∀ x ∈ new, k ≤ x.number)
    (fate : ∀ due, t.Fate due δ k → t'.Fate due δ k) : t'.Settled interval δ k time := by
  have kept : ∀ x ∈ t.delivered, x ∈ t'.delivered := fun x mem =>
    delivered ▸ List.mem_append_left new mem
  cases h with
  | atOnce x mem number now => exact .atOnce x (kept x mem) number now
  | inTime previous mem before newest fate' =>
    refine .inTime previous (kept previous mem) before (fun x mem older => ?_) (fate _ fate')
    rw [delivered, List.mem_append] at mem
    exact mem.elim (newest x · older) fun mem => absurd (later x mem) (Nat.not_le.mpr older)

end Settled

/-! ### What one event does -/

section Step

variable [Add τ] [Sub τ] [OfNat τ 0] [LE τ] [DecidableRel (α := τ) (· ≤ ·)]

/-- What holds of all events holds along them. -/
theorem Along.and_forall {P : Traffic τ α → Event τ α → Prop} {Q : Event τ α → Prop}
    (h : Along interval P t es) (all : ∀ e ∈ es, Q e) :
    Along interval (fun t e => P t e ∧ Q e) t es := by
  induction es generalizing t with
  | nil => trivial
  | cons e es ih =>
    obtain ⟨own, rest⟩ := List.forall_mem_cons.mp all
    exact ⟨⟨h.1, own⟩, ih h.2 rest⟩

theorem along_trivial (interval : τ) (t : Traffic τ α) (es : List (Event τ α)) :
    Along interval (fun _ _ => True) t es := by
  induction es generalizing t with
  | nil => trivial
  | cons e es ih => exact ⟨trivial, ih _⟩

theorem Current.step (h : t.Current) (sound : t.Sound interval) (step : t.Step interval e t')
    (uncancelled : e.isCancel = false) : t'.Current := by
  cases step with
  | passes time a idle apart =>
    intro k length
    obtain rfl : t.made.length = k := by simpa using length
    exact .inl ⟨_, List.getLast?_concat, rfl⟩
  | arms time a last idle lastCall early =>
    intro k length
    obtain rfl : t.made.length = k := by simpa using length
    exact .inr ⟨a, rfl⟩
  | replaces time a due armed =>
    intro k length
    obtain rfl : t.made.length = k := by simpa using length
    exact .inr ⟨a, rfl⟩
  | cancels time => cases uncancelled
  | rings place time number a live pending =>
    intro k length
    obtain ⟨length', _⟩ := sound.pending number a pending
    obtain rfl : number = k := Nat.succ.inj (length'.symm.trans length)
    exact .inl ⟨_, List.getLast?_concat, rfl⟩
  | lapses place time live pending => exact h
  | silent place time dead => exact h

/-- What has become of a call stays so; while it waits, the next event that is not its timer replaces
it. -/
theorem Fate.step {due : τ} {k : Nat} (h : t.Fate due δ k) (sound : t.Sound interval)
    (step : t.Step interval e t') (late : t.Late δ e) (uncancelled : e.isCancel = false) :
    t'.Fate due δ k := by
  cases h with
  | delivered x mem number inTime =>
    have kept : x ∈ t'.delivered := by
      cases step with
      | passes | rings => exact List.mem_append_left _ mem
      | _ => exact mem
    exact .delivered x kept number inTime
  | replaced next made inTime =>
    have kept : t'.made[k + 1]? = some next := by
      have inside := (List.getElem?_eq_some_iff.mp made).1
      cases step with
      | passes | arms | replaces => exact (List.getElem?_append_left inside).trans made
      | _ => exact made
    exact .replaced next kept inTime
  | waiting latest armed =>
    have known : t.pacer.deadline.toList = [due] := sound.armed.timers.symm.trans armed
    cases step with
    | passes time a idle apart => simp [idle] at known
    | arms time a last idle lastCall early => simp [idle] at known
    | replaces time a due' deadline =>
      refine .replaced (time, a) ?_ (late due (by simp [armed]))
      rw [← latest]
      exact List.getElem?_concat_length
    | cancels time => cases uncancelled
    | rings place time number a live pending =>
      obtain ⟨length, _⟩ := sound.pending number a pending
      refine .delivered ⟨time, number, a⟩ (by simp) ?_ (late due (by simp [armed]))
      exact Nat.succ.inj (length.symm.trans latest)
    | lapses place time live pending =>
      obtain ⟨_, _, _, _, _, pending'⟩ := sound.armed.of_live live
      rw [pending] at pending'
      cases pending'
    | silent place time dead => exact .waiting latest armed

end Step

variable [AddCommGroup τ] [LinearOrder τ] [IsOrderedAddMonoid τ]

theorem AllSettled.step (h : t.AllSettled interval δ) (sound : t.Sound interval)
    (step : t.Step interval e t') (late : t.Late δ e) (uncancelled : e.isCancel = false) :
    t'.AllSettled interval δ := by
  have sound' := sound.step step
  have fate {k : Nat} (due : τ) (fate : t.Fate due δ k) : t'.Fate due δ k :=
    fate.step sound step late uncancelled
  intro k time a made
  have inside {call : τ × α} (made : (t.made ++ [call])[k]? = some (time, a)) :
      t.made[k]? = some (time, a) ∨ k = t.made.length ∧ call = (time, a) := by
    rcases Nat.lt_trichotomy k t.made.length with old | rfl | beyond
    · exact .inl ((List.getElem?_append_left old).symm.trans made)
    · exact .inr ⟨rfl, by simpa using made⟩
    · rw [List.getElem?_eq_none (by simpa using Nat.succ_le_of_lt beyond)] at made
      cases made
  cases step with
  | passes time' a' idle apart =>
    rcases inside made with old | ⟨rfl, same⟩
    · refine (h k time a old).carry rfl (fun x mem => ?_) fate
      obtain rfl := List.mem_singleton.mp mem
      exact Nat.le_of_lt (List.getElem?_eq_some_iff.mp old).1
    · obtain ⟨rfl, rfl⟩ := Prod.mk.inj same
      exact .atOnce _ (List.mem_append_right _ (List.mem_singleton_self _)) rfl rfl
  | arms time' a' last idle lastCall early =>
    rcases inside made with old | ⟨rfl, same⟩
    · exact (h k time a old).carry (List.append_nil _).symm (by simp) fate
    · exact sound'.settled_of_waiting δ time rfl
  | replaces time' a' due armed =>
    rcases inside made with old | ⟨rfl, same⟩
    · exact (h k time a old).carry (List.append_nil _).symm (by simp) fate
    · exact sound'.settled_of_waiting δ time rfl
  | cancels time => cases uncancelled
  | rings place time' number a' live pending =>
    refine (h k time a made).carry rfl (fun x mem => ?_) fate
    obtain rfl := List.mem_singleton.mp mem
    obtain ⟨length, _⟩ := sound.pending number a' pending
    exact Nat.le_of_lt_succ (Nat.lt_of_lt_of_eq (List.getElem?_eq_some_iff.mp made).1 length)
  | lapses place time' live pending =>
    exact (h k time a made).carry (List.append_nil _).symm (by simp) fate
  | silent place time' dead => exact h k time a made

/-- The pacer delivers the latest call and loses nothing, whatever comes in whatever order, and also
if the listener calls again while it is told of a call. At every moment a call waits exactly while
one timer is armed. It is the latest call, and it is due at most one interval after the delivery
before it. Calls are delivered in their order, each at most once. As long as nobody cancels, the
latest call has been delivered or waits, and every call is delivered or replaced by the time at which
it is due, or later by no more than timers are late. Nothing is delivered after a cancellation until
a new call is made. -/
theorem delivers_latest (interval : τ) (ds : List (Deed τ α)) :
    performAll interval {} ds = after interval {} (happeningsAll interval {} ds) ∧
    ∀ es, es <+: happeningsAll interval {} ds →
      let t : Traffic τ α := after interval {} es
      (t.timers.length = if t.pacer.pending.isSome then 1 else 0) ∧
      (∀ k a, t.pacer.pending = some (k, a) →
        t.made.length = k + 1 ∧ ∃ time, t.made[k]? = some (time, a)) ∧
      (∀ due ∈ t.timers, ∃ x, t.delivered.getLast? = some x ∧ due ≤ x.time + interval) ∧
      (t.delivered.Pairwise fun x y => x.number < y.number) ∧
      (∀ x ∈ t.delivered, ∃ time, t.made[x.number]? = some (time, x.value)) ∧
      ((∀ e ∈ es, e.isCancel = false) →
        t.Current ∧ ∀ δ, Along interval (Late δ) {} es → t.AllSettled interval δ) ∧
      ∀ before time behind, es = before ++ .cancel time :: behind →
        (∀ e ∈ behind, e.isCall = false) →
          t.delivered = (after interval {} before).delivered := by
  refine ⟨performAll_eq_after interval {} ds, fun es _ => ?_⟩
  intro t
  have sound : t.Sound interval := Sound.empty.after es
  refine ⟨?_, ?_, ?_, sound.ordered, sound.genuine, fun uncancelled => ⟨?_, fun δ late => ?_⟩, ?_⟩
  · rw [sound.armed.timers, sound.armed.pending]
    cases t.pacer.deadline <;> rfl
  · intro k a pending
    obtain ⟨latest, made, _⟩ := sound.pending k a pending
    exact ⟨latest, made⟩
  · intro due mem
    rw [sound.armed.timers, Option.mem_toList] at mem
    obtain ⟨x, last, same⟩ := sound.deadline due mem
    exact ⟨x, last, le_of_eq same⟩
  · have start : ({} : Traffic τ α).Current := fun k length => by cases length
    refine (after_preserves (I := fun t => t.Current ∧ t.Sound interval) ?_ ⟨start, .empty⟩
      ((along_trivial interval {} es).and_forall uncancelled)).1
    rintro t e ⟨current, sound⟩ ⟨_, uncancelled⟩
    have step := step_handle interval t e
    exact ⟨current.step sound step uncancelled, sound.step step⟩
  · have start : ({} : Traffic τ α).AllSettled interval δ := fun k time a made => by cases made
    refine (after_preserves (I := fun t => t.AllSettled interval δ ∧ t.Sound interval) ?_
      ⟨start, .empty⟩ (late.and_forall uncancelled)).1
    rintro t e ⟨settled, sound⟩ ⟨late, uncancelled⟩
    have step := step_handle interval t e
    exact ⟨settled.step sound step late uncancelled, sound.step step⟩
  · rintro before time behind rfl uncalled
    have armed : (after interval ({} : Traffic τ α) before).cancel.Armed :=
      (armed_empty.after before).step (step_handle interval _ (.cancel time))
    change (after interval {} (before ++ .cancel time :: behind)).delivered = _
    rw [after_append, after_cons]
    exact delivered_of_idle armed rfl uncalled

/-- A listener that calls again as soon as it is told of the first call, and a second call while that
one waits. -/
def echoed : List (Deed Int Nat) :=
  [.mk (.call 0 1) [.mk (.call 0 2) []], .mk (.call 3 3) [], .mk (.ring 0 10) []]

/-- The second call has been replaced, the third is delivered when the interval is over. -/
theorem echoed_delivers_latest :
    happeningsAll 10 {} echoed = [.call 0 1, .call 0 2, .call 3 3, .ring 0 10] ∧
    (performAll 10 {} echoed).delivered = [⟨0, 0, 1⟩, ⟨10, 2, 3⟩] ∧
    (performAll 10 {} echoed).Current ∧ (performAll 10 {} echoed).AllSettled 10 0 := by
  have flat : happeningsAll 10 {} echoed = [.call 0 1, .call 0 2, .call 3 3, .ring 0 10] := rfl
  obtain ⟨same, moments⟩ := delivers_latest 10 echoed
  obtain ⟨_, _, _, _, _, uncancelled, _⟩ := moments _ List.prefix_rfl
  rw [flat] at uncancelled same
  obtain ⟨current, settled⟩ := uncancelled (by simp [Event.isCancel])
  rw [same]
  exact ⟨flat, rfl, current, settled 0 (by decide)⟩

end RuleBench.Pacer.Traffic
