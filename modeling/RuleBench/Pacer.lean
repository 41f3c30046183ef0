/-!
# Pacing

Calls are delivered at most once per interval. The first one is delivered at once; of those that
follow within the interval the last is delivered when the interval is over. Times are left open, so
that the same pacer runs on floating-point numbers and is reasoned about on exact ones.
-/

namespace RuleBench

/-- The state of a pacer for calls `α` at times `τ`. -/
structure Pacer (τ α : Type) where
  /-- When a call was last delivered. -/
  lastCall : Option τ := none
  /-- The call that waits. -/
  pending : Option α := none
  /-- When the waiting call is due. -/
  deadline : Option τ := none
deriving Repr

namespace Pacer

variable {τ α : Type} [Add τ] [Sub τ] [OfNat τ 0] [LE τ] [DecidableRel (α := τ) (· ≤ ·)]

/-- The longer of a time span and none at all. -/
def atLeastZero (t : τ) : τ := if t ≤ 0 then 0 else t

/-- A call at some time: the next state, and the call if it is delivered at once. -/
def call (interval now : τ) (a : α) (t : Pacer τ α) : Pacer τ α × Option α :=
  match t.deadline with
  | some _ => ({ t with pending := some a }, none)
  | none => match t.lastCall with
    | none => ({ t with lastCall := some now }, some a)
    | some last =>
      if interval ≤ now - last then ({ t with lastCall := some now }, some a)
      else
        let due := now + atLeastZero (interval - (now - last))
        ({ t with pending := some a, deadline := some due }, none)

/-- The timer goes off at some time: the next state and the call that waited. -/
def fire (now : τ) (t : Pacer τ α) : Pacer τ α × Option α :=
  match t.pending with
  | none => ({ t with deadline := none }, none)
  | some a => ({ lastCall := some now, pending := none, deadline := none }, some a)

/-- Drops the call that waits. -/
def cancel (t : Pacer τ α) : Pacer τ α := { t with pending := none, deadline := none }

omit [Add τ] [Sub τ] [OfNat τ 0] [LE τ] [DecidableRel (α := τ) (· ≤ ·)] in
@[simp] theorem pending_cancel (t : Pacer τ α) : t.cancel.pending = none := rfl

omit [Add τ] [Sub τ] [OfNat τ 0] [LE τ] [DecidableRel (α := τ) (· ≤ ·)] in
@[simp] theorem lastCall_cancel (t : Pacer τ α) : t.cancel.lastCall = t.lastCall := rfl

end Pacer

end RuleBench
