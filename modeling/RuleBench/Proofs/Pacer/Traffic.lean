import Mathlib.Algebra.Order.Group.Defs
import Mathlib.Tactic.Abel
import RuleBench.Pacer

/-!
# Traffic through a pacer

A pacer with everything around it: the timers that the loop has armed for it, the calls that were
made and those that were delivered, each under its number. Events come in any order and at any
times. A listener may call the pacer again while it is told of a call; since the pacer has finished
with a call before it tells of it, what the listener does just comes next (`performAll_eq_after`).

What an event can do is said once (`Step`). An armed timer and a waiting call always go together
(`Armed`), whatever the times are and however they are added up.
-/

namespace RuleBench.Pacer

/-- What happens to a pacer at some time. -/
inductive Event (τ α : Type) where
  | call (time : τ) (a : α)
  | cancel (time : τ)
  /-- The timer goes off that has this place among the armed ones. -/
  | ring (place : Nat) (time : τ)

/-- A call that was delivered. -/
structure Delivery (τ α : Type) where
  time : τ
  /-- How many calls had been made before this one. -/
  number : Nat
  value : α

/-- A pacer whose calls are numbered, with what went into it and what came out. -/
structure Traffic (τ α : Type) where
  pacer : Pacer τ (Nat × α) := {}
  /-- When the armed timers are due. The pacer knows the one that was armed last. -/
  timers : List τ := []
  /-- The calls that were made, the latest last. -/
  made : List (τ × α) := []
  /-- The calls that were delivered, the latest last. -/
  delivered : List (Delivery τ α) := []

namespace Event

variable {τ α : Type}

def time : Event τ α → τ
  | call time _ => time
  | cancel time => time
  | ring _ time => time

def isCall : Event τ α → Bool
  | call _ _ => true
  | _ => false

def isCancel : Event τ α → Bool
  | cancel _ => true
  | _ => false

end Event

/-- An event, and what the listener does if it is told of a call then. -/
inductive Deed (τ α : Type) where
  | mk (event : Event τ α) (reaction : List (Deed τ α))

namespace Traffic

variable {τ α : Type}

/-- Tells the listener of a call that is let through. -/
def deliver (time : τ) (t : Traffic τ α) : Option (Nat × α) → Traffic τ α
  | some (number, value) => { t with delivered := t.delivered ++ [⟨time, number, value⟩] }
  | none => t

/-- The pacer disarms the timer that it knows. -/
def cancel (t : Traffic τ α) : Traffic τ α :=
  { t with
    pacer := t.pacer.cancel
    timers := if t.pacer.deadline.isSome then t.timers.dropLast else t.timers }

/-- An armed timer goes off. -/
def ring (place : Nat) (time : τ) (t : Traffic τ α) : Traffic τ α :=
  if place < t.timers.length then
    let (pacer, passed) := t.pacer.fire time
    { t with pacer, timers := t.timers.eraseIdx place }.deliver time passed
  else t

/-- A call waits exactly while one timer is armed, which is the one that the pacer knows. -/
structure Armed (t : Traffic τ α) : Prop where
  timers : t.timers = t.pacer.deadline.toList
  pending : t.pacer.pending.isSome = t.pacer.deadline.isSome

theorem armed_empty : ({} : Traffic τ α).Armed := ⟨rfl, rfl⟩

namespace Armed

variable {t : Traffic τ α}

theorem pending_of_idle (h : t.Armed) (idle : t.pacer.deadline = none) :
    t.pacer.pending = none := by
  simpa [idle] using h.pending

/-- A timer that can go off is the one for the call that waits. -/
theorem of_live (h : t.Armed) {place : Nat} (live : place < t.timers.length) :
    place = 0 ∧ ∃ due call, t.timers = [due] ∧ t.pacer.deadline = some due ∧
      t.pacer.pending = some call := by
  cases deadline : t.pacer.deadline with
  | none => simp [h.timers, deadline] at live
  | some due =>
    have timers : t.timers = [due] := by simp [h.timers, deadline]
    obtain ⟨call, pending⟩ := Option.isSome_iff_exists.mp (h.pending.trans (by simp [deadline]))
    exact ⟨by simpa [timers] using live, due, call, timers, rfl, pending⟩

end Armed

section Run

variable [Add τ] [Sub τ] [OfNat τ 0] [LE τ] [DecidableRel (α := τ) (· ≤ ·)]

/-- A call is made. A timer is armed for it if none is known and it has to wait. -/
def call (interval time : τ) (a : α) (t : Traffic τ α) : Traffic τ α :=
  let (pacer, passed) := t.pacer.call interval time (t.made.length, a)
  let armed := if t.pacer.deadline.isSome then [] else pacer.deadline.toList
  { t with pacer, timers := t.timers ++ armed, made := t.made ++ [(time, a)] }.deliver time passed

def handle (interval : τ) (t : Traffic τ α) : Event τ α → Traffic τ α
  | .call time a => t.call interval time a
  | .cancel _ => t.cancel
  | .ring place time => t.ring place time

def after (interval : τ) (t : Traffic τ α) (es : List (Event τ α)) : Traffic τ α :=
  es.foldl (handle interval) t

/-- Every one of some events has a property in the state in which it happens. -/
def Along (interval : τ) (P : Traffic τ α → Event τ α → Prop) :
    Traffic τ α → List (Event τ α) → Prop
  | _, [] => True
  | t, e :: es => P t e ∧ Along interval P (t.handle interval e) es

instance decidableAlong (interval : τ) (P : Traffic τ α → Event τ α → Prop)
    [∀ t e, Decidable (P t e)] : ∀ t es, Decidable (Along interval P t es)
  | _, [] => .isTrue trivial
  | t, e :: es =>
    have := decidableAlong interval P (t.handle interval e) es
    inferInstanceAs (Decidable (_ ∧ _))

variable {interval : τ} {t t' : Traffic τ α} {e : Event τ α} {es : List (Event τ α)}

@[simp] theorem after_nil : t.after interval [] = t := rfl

@[simp] theorem after_cons :
    t.after interval (e :: es) = (t.handle interval e).after interval es := rfl

@[simp] theorem after_append (es' : List (Event τ α)) :
    t.after interval (es ++ es') = (t.after interval es).after interval es' := List.foldl_append

/-- What single events preserve is preserved by all of them. -/
theorem after_preserves {I : Traffic τ α → Prop} {P : Traffic τ α → Event τ α → Prop}
    (step : ∀ t e, I t → P t e → I (t.handle interval e)) (h : I t)
    (along : Along interval P t es) : I (t.after interval es) := by
  induction es generalizing t with
  | nil => exact h
  | cons e es ih => exact ih (step t e h along.1) along.2

/-! ### Listeners that call again -/

/-- An event lets a call through. -/
def Tells (interval : τ) (t : Traffic τ α) (e : Event τ α) : Prop :=
  t.delivered.length < (t.handle interval e).delivered.length

instance : Decidable (t.Tells interval e) := inferInstanceAs (Decidable (_ < _))

mutual

/-- An event happens; if it lets a call through, the listener does what it does before anything else
happens. -/
def perform (interval : τ) (t : Traffic τ α) : Deed τ α → Traffic τ α
  | .mk e reaction =>
    if t.Tells interval e then performAll interval (t.handle interval e) reaction
    else t.handle interval e

def performAll (interval : τ) (t : Traffic τ α) : List (Deed τ α) → Traffic τ α
  | [] => t
  | d :: ds => performAll interval (perform interval t d) ds

end

mutual

/-- The events that happen with a deed, in their order. -/
def happenings (interval : τ) (t : Traffic τ α) : Deed τ α → List (Event τ α)
  | .mk e reaction =>
    e :: if t.Tells interval e then happeningsAll interval (t.handle interval e) reaction else []

def happeningsAll (interval : τ) (t : Traffic τ α) : List (Deed τ α) → List (Event τ α)
  | [] => []
  | d :: ds => happenings interval t d ++ happeningsAll interval (perform interval t d) ds

end

mutual

theorem perform_eq_after (interval : τ) (t : Traffic τ α) (d : Deed τ α) :
    perform interval t d = t.after interval (happenings interval t d) := by
  cases d with
  | mk e reaction =>
    simp only [perform, happenings]
    split
    · exact performAll_eq_after interval (t.handle interval e) reaction
    · rfl

/-- A listener that calls again while it is told of a call might as well call right after that. -/
theorem performAll_eq_after (interval : τ) (t : Traffic τ α) (ds : List (Deed τ α)) :
    performAll interval t ds = t.after interval (happeningsAll interval t ds) := by
  cases ds with
  | nil => simp [performAll, happeningsAll]
  | cons d ds =>
    simp only [performAll, happeningsAll, after_append]
    rw [performAll_eq_after, perform_eq_after]

end

/-! ### What an event does -/

/-- Everything that an event can do. -/
inductive Step (interval : τ) (t : Traffic τ α) : Event τ α → Traffic τ α → Prop
  /-- A call is let through at once. -/
  | passes (time : τ) (a : α) (idle : t.pacer.deadline = none)
      (apart : ∀ last, t.pacer.lastCall = some last → interval ≤ time - last) :
      Step interval t (.call time a)
        { t with
          pacer := { t.pacer with lastCall := some time }
          made := t.made ++ [(time, a)]
          delivered := t.delivered ++ [⟨time, t.made.length, a⟩] }
  /-- A call has to wait, and a timer is armed for it. -/
  | arms (time : τ) (a : α) (last : τ) (idle : t.pacer.deadline = none)
      (lastCall : t.pacer.lastCall = some last) (early : ¬ interval ≤ time - last) :
      Step interval t (.call time a)
        { t with
          pacer := { t.pacer with
            pending := some (t.made.length, a)
            deadline := some (time + atLeastZero (interval - (time - last))) }
          timers := t.timers ++ [time + atLeastZero (interval - (time - last))]
          made := t.made ++ [(time, a)] }
  /-- A call takes the place of the one that waits. -/
  | replaces (time : τ) (a : α) (due : τ) (armed : t.pacer.deadline = some due) :
      Step interval t (.call time a)
        { t with
          pacer := { t.pacer with pending := some (t.made.length, a) }
          made := t.made ++ [(time, a)] }
  | cancels (time : τ) : Step interval t (.cancel time) t.cancel
  /-- The call that waits is let through. -/
  | rings (place : Nat) (time : τ) (number : Nat) (a : α) (live : place < t.timers.length)
      (pending : t.pacer.pending = some (number, a)) :
      Step interval t (.ring place time)
        { t with
          pacer := { lastCall := some time }
          timers := t.timers.eraseIdx place
          delivered := t.delivered ++ [⟨time, number, a⟩] }
  /-- A timer goes off and no call waits. -/
  | lapses (place : Nat) (time : τ) (live : place < t.timers.length)
      (pending : t.pacer.pending = none) :
      Step interval t (.ring place time)
        { t with
          pacer := { t.pacer with deadline := none }
          timers := t.timers.eraseIdx place }
  /-- There is no such timer. -/
  | silent (place : Nat) (time : τ) (dead : t.timers.length ≤ place) :
      Step interval t (.ring place time) t

theorem step_handle (interval : τ) (t : Traffic τ α) (e : Event τ α) :
    t.Step interval e (t.handle interval e) := by
  cases e with
  | call time a =>
    cases idle : t.pacer.deadline with
    | some due =>
      have moved : t.handle interval (.call time a) = { t with
          pacer := { t.pacer with pending := some (t.made.length, a) }
          made := t.made ++ [(time, a)] } := by
        simp [handle, call, Pacer.call, idle, deliver]
      exact moved ▸ .replaces time a due idle
    | none =>
      have passed (told : t.pacer.call interval time (t.made.length, a) =
          ({ t.pacer with lastCall := some time }, some (t.made.length, a))) :
          t.handle interval (.call time a) = { t with
            pacer := { t.pacer with lastCall := some time }
            made := t.made ++ [(time, a)]
            delivered := t.delivered ++ [⟨time, t.made.length, a⟩] } := by
        simp [handle, call, told, idle, deliver]
      cases lastCall : t.pacer.lastCall with
      | none =>
        rw [passed (by simp [Pacer.call, idle, lastCall])]
        exact .passes time a idle (by simp [lastCall])
      | some last =>
        by_cases apart : interval ≤ time - last
        · rw [passed (by simp [Pacer.call, idle, lastCall, apart])]
          exact .passes time a idle (by simpa [lastCall] using apart)
        · have moved : t.handle interval (.call time a) = { t with
              pacer := { t.pacer with
                pending := some (t.made.length, a)
                deadline := some (time + atLeastZero (interval - (time - last))) }
              timers := t.timers ++ [time + atLeastZero (interval - (time - last))]
              made := t.made ++ [(time, a)] } := by
            simp [handle, call, Pacer.call, idle, lastCall, apart, deliver]
          exact moved ▸ .arms time a last idle lastCall apart
  | cancel time => exact .cancels time
  | ring place time =>
    by_cases live : place < t.timers.length
    · cases pending : t.pacer.pending with
      | none =>
        have moved : t.handle interval (.ring place time) = { t with
            pacer := { t.pacer with deadline := none }
            timers := t.timers.eraseIdx place } := by
          simp [handle, ring, live, fire, pending, deliver]
        exact moved ▸ .lapses place time live pending
      | some call =>
        have moved : t.handle interval (.ring place time) = { t with
            pacer := { lastCall := some time }
            timers := t.timers.eraseIdx place
            delivered := t.delivered ++ [⟨time, call.1, call.2⟩] } := by
          simp [handle, ring, live, fire, pending, deliver]
        exact moved ▸ .rings place time call.1 call.2 live pending
    · have still : t.handle interval (.ring place time) = t := by simp [handle, ring, live]
      rw [still]
      exact .silent place time (Nat.le_of_not_lt live)

/-! ### Timers -/

namespace Armed

theorem step (h : t.Armed) (step : t.Step interval e t') : t'.Armed := by
  cases step with
  | passes time a idle apart => exact ⟨h.timers, h.pending⟩
  | arms time a last idle lastCall early => exact ⟨by simp [h.timers, idle], rfl⟩
  | replaces time a due armed => exact ⟨h.timers, by simp [armed]⟩
  | cancels time =>
    refine ⟨?_, rfl⟩
    cases deadline : t.pacer.deadline <;>
      simp [cancel, Pacer.cancel, h.timers, deadline]
  | rings place time number a live pending =>
    obtain ⟨rfl, due, _, timers, _⟩ := h.of_live live
    exact ⟨by simp [timers], rfl⟩
  | lapses place time live pending =>
    obtain ⟨_, _, _, _, _, pending'⟩ := h.of_live live
    rw [pending] at pending'
    cases pending'
  | silent place time dead => exact h

theorem after (h : t.Armed) (es : List (Event τ α)) : (t.after interval es).Armed := by
  induction es generalizing t with
  | nil => exact h
  | cons e es ih => exact ih (h.step (step_handle interval t e))

end Armed

/-- While no call waits, nothing but a new call gets anything delivered. -/
theorem delivered_of_idle (armed : t.Armed) (idle : t.pacer.pending = none)
    (uncalled : ∀ e ∈ es, e.isCall = false) : (t.after interval es).delivered = t.delivered := by
  suffices still : (t.after interval es).delivered = t.delivered ∧
      (t.after interval es).pacer.pending = none from still.1
  induction es generalizing t with
  | nil => exact ⟨rfl, idle⟩
  | cons e es ih =>
    obtain ⟨own, rest⟩ := List.forall_mem_cons.mp uncalled
    have step := step_handle interval t e
    rw [after_cons]
    suffices still : (t.handle interval e).delivered = t.delivered ∧
        (t.handle interval e).pacer.pending = none by
      obtain ⟨delivered, pending⟩ := ih (armed.step step) still.2 rest
      exact ⟨delivered.trans still.1, pending⟩
    generalize t.handle interval e = t' at step
    cases step with
    | cancels time => exact ⟨rfl, rfl⟩
    | rings place time number a live pending =>
      rw [idle] at pending
      cases pending
    | lapses place time live pending => exact ⟨rfl, idle⟩
    | silent place time dead => exact ⟨rfl, idle⟩
    | _ => cases own

end Run

section Sound

variable [Add τ] {interval : τ} {t : Traffic τ α}

/-- The pacer knows when it delivered last, and the call that waits is the latest one, due one
interval after that. Calls are delivered in the order in which they were made, each at most once. -/
structure Sound (interval : τ) (t : Traffic τ α) : Prop where
  armed : t.Armed
  lastCall : t.pacer.lastCall = t.delivered.getLast?.map Delivery.time
  deadline : ∀ due, t.pacer.deadline = some due →
    ∃ x, t.delivered.getLast? = some x ∧ due = x.time + interval
  pending : ∀ number a, t.pacer.pending = some (number, a) → t.made.length = number + 1 ∧
    (∃ time, t.made[number]? = some (time, a)) ∧ ∀ x ∈ t.delivered, x.number < number
  genuine : ∀ x ∈ t.delivered, ∃ time, t.made[x.number]? = some (time, x.value)
  ordered : t.delivered.Pairwise fun x y => x.number < y.number

namespace Sound

theorem empty : ({} : Traffic τ α).Sound interval where
  armed := armed_empty
  lastCall := rfl
  deadline := by simp
  pending := by simp
  genuine := by simp
  ordered := .nil

theorem number_lt (h : t.Sound interval) {x : Delivery τ α} (mem : x ∈ t.delivered) :
    x.number < t.made.length := by
  obtain ⟨time, found⟩ := h.genuine x mem
  exact (List.getElem?_eq_some_iff.mp found).1

/-- A delivery before which something was delivered is not the only one. -/
theorem last_of_lastCall (h : t.Sound interval) {last : τ}
    (lastCall : t.pacer.lastCall = some last) :
    ∃ x, t.delivered.getLast? = some x ∧ x.time = last := by
  rw [h.lastCall] at lastCall
  exact Option.map_eq_some_iff.mp lastCall

/-- What was made keeps its number while more calls are made. -/
theorem genuine_append (h : t.Sound interval) (call : τ × α) :
    ∀ x ∈ t.delivered, ∃ time, (t.made ++ [call])[x.number]? = some (time, x.value) := by
  intro x mem
  obtain ⟨time, found⟩ := h.genuine x mem
  exact ⟨time, by rw [List.getElem?_append_left (h.number_lt mem), found]⟩

theorem ordered_append (h : t.Sound interval) {y : Delivery τ α}
    (later : ∀ x ∈ t.delivered, x.number < y.number) :
    (t.delivered ++ [y]).Pairwise fun x y => x.number < y.number :=
  List.pairwise_append.mpr ⟨h.ordered, List.pairwise_singleton _ _, by simpa using later⟩

end Sound

end Sound

/-! ### Exact times -/

section Exact

variable [AddCommGroup τ] [LinearOrder τ] [IsOrderedAddMonoid τ]
  {interval : τ} {t t' : Traffic τ α} {e : Event τ α}

/-- A call that comes too early is due one interval after the delivery before it. -/
theorem due_eq {time last : τ} (early : ¬ interval ≤ time - last) :
    time + atLeastZero (interval - (time - last)) = last + interval := by
  have left : 0 < interval - (time - last) := sub_pos.mpr (not_le.mp early)
  rw [atLeastZero, if_neg (not_le.mpr left)]
  abel

namespace Sound

theorem step (h : t.Sound interval) (step : t.Step interval e t') : t'.Sound interval := by
  have armed := h.armed.step step
  cases step with
  | passes time a idle apart =>
    have unasked := h.armed.pending_of_idle idle
    refine ⟨armed, by simp, by simp [idle], by simp [unasked], ?_, ?_⟩
    · intro x mem
      rcases List.mem_append.mp mem with old | new
      · exact h.genuine_append _ x old
      · obtain rfl := List.mem_singleton.mp new
        exact ⟨time, by simp⟩
    · exact h.ordered_append fun x mem => h.number_lt mem
  | arms time a last idle lastCall early =>
    refine ⟨armed, h.lastCall, ?_, ?_, h.genuine_append _, h.ordered⟩
    · intro due deadline
      obtain ⟨x, newest, rfl⟩ := h.last_of_lastCall lastCall
      obtain rfl := Option.some.inj deadline
      exact ⟨x, newest, due_eq early⟩
    · intro number b pending
      obtain ⟨rfl, rfl⟩ := Prod.mk.inj (Option.some.inj pending)
      exact ⟨by simp, ⟨time, by simp⟩, fun x mem => h.number_lt mem⟩
  | replaces time a due deadline =>
    refine ⟨armed, h.lastCall, h.deadline, ?_, h.genuine_append _, h.ordered⟩
    intro number b pending
    obtain ⟨rfl, rfl⟩ := Prod.mk.inj (Option.some.inj pending)
    exact ⟨by simp, ⟨time, by simp⟩, fun x mem => h.number_lt mem⟩
  | cancels time =>
    exact ⟨armed, h.lastCall, by simp [cancel, Pacer.cancel], by simp [cancel], h.genuine,
      h.ordered⟩
  | rings place time number a live pending =>
    obtain ⟨_, ⟨made, found⟩, later⟩ := h.pending number a pending
    refine ⟨armed, by simp, by simp, by simp, ?_, h.ordered_append later⟩
    intro x mem
    rcases List.mem_append.mp mem with old | new
    · exact h.genuine x old
    · obtain rfl := List.mem_singleton.mp new
      exact ⟨made, found⟩
  | lapses place time live pending =>
    obtain ⟨_, _, _, _, _, pending'⟩ := h.armed.of_live live
    rw [pending] at pending'
    cases pending'
  | silent place time dead => exact h

theorem after (h : t.Sound interval) (es : List (Event τ α)) :
    (t.after interval es).Sound interval := by
  induction es generalizing t with
  | nil => exact h
  | cons e es ih => exact ih (h.step (step_handle interval t e))

end Sound

end Exact

end Traffic

end RuleBench.Pacer
