import RuleBench.Execution.Notes
import RuleBench.Execution.Statement

/-!
# Runs that agree but for annotations

One computation follows another one when it makes the same moves, in the same worlds, except that the
first may note annotations on the way and keep other code. Whatever both do alike needs no look at
what it is: every computation follows itself, and what is put together from computations that follow
one another follows too.
-/

namespace RuleBench.Execution

open RuleBench.Script

/-- A note that only adds to the tables of annotations. -/
def Note.IsQuiet : Note → Prop
  | .start .. => True
  | .entry .. => True
  | .move .. => False
  | .look => False
  | .locate => False

section

variable {α β : Type} (Like : List Stmt → List Stmt → Prop)

/-- Computations that make the same moves, where code of one may stand for like code of the other
and the first may take quiet notes of its own. -/
inductive Run.Follows : Run α → Run α → Prop
  | done (a : α) (w : World) : Follows (.done a w) (.done a w)
  | raised (e : Value) (w : World) : Follows (.raised e w) (.raised e w)
  | ask (r : Request) (w : World) {k k' : Except Value Value → World → Run α}
      (next : ∀ x w, Follows (k x w) (k' x w)) : Follows (.ask r w k) (.ask r w k')
  | keep {c c' : List Stmt} (w : World) {k k' : Nat → World → Run α} (like : Like c c')
      (next : ∀ n w, Follows (k n w) (k' n w)) : Follows (.keep c w k) (.keep c' w k')
  | note (n : Note) (w : World) {k k' : Bool → World → Run α}
      (next : ∀ b w, Follows (k b w) (k' b w)) : Follows (.note n w k) (.note n w k')
  | quiet {n : Note} (w : World) {k : Bool → World → Run α} {r : Run α} (quiet : n.IsQuiet)
      (next : Follows (k true w) r) : Follows (.note n w k) r

/-- Actions whose computations follow one another, wherever they start. -/
def Action.Follows (m m' : Action α) : Prop := ∀ w, Run.Follows Like (m w) (m' w)

end

namespace Run.Follows

variable {α β : Type} {Like : List Stmt → List Stmt → Prop}

theorem refl (same : ∀ c, Like c c) (r : Run α) : Follows Like r r := by
  induction r with
  | done a w => exact .done a w
  | raised e w => exact .raised e w
  | ask r w _ ih => exact .ask r w ih
  | keep c w _ ih => exact .keep w (same c) ih
  | note n w _ ih => exact .note n w ih

theorem bind {r r' : Run α} {f f' : α → World → Run β} (h : Follows Like r r')
    (next : ∀ a w, Follows Like (f a w) (f' a w)) : Follows Like (r.bind f) (r'.bind f') := by
  induction h with
  | done a w => exact next a w
  | raised e w => exact .raised e w
  | ask r w _ ih => exact .ask r w ih
  | keep w like _ ih => exact .keep w like ih
  | note n w _ ih => exact .note n w ih
  | quiet w quiet _ ih => exact .quiet w quiet ih

theorem recover {r r' : Run α} {f f' : Value → World → Run α} (h : Follows Like r r')
    (next : ∀ e w, Follows Like (f e w) (f' e w)) :
    Follows Like (r.recover f) (r'.recover f') := by
  induction h with
  | done a w => exact .done a w
  | raised e w => exact next e w
  | ask r w _ ih => exact .ask r w ih
  | keep w like _ ih => exact .keep w like ih
  | note n w _ ih => exact .note n w ih
  | quiet w quiet _ ih => exact .quiet w quiet ih

end Run.Follows

/-! ### Laws of actions -/

instance : LawfulMonad Action :=
  LawfulMonad.mk' Action (fun m => funext fun w => (m w).bind_pure) (fun _ _ => rfl)
    fun m f g => funext fun w => (m w).bind_assoc (fun a => f a) fun b => g b

namespace Action.Follows

variable {α β σ : Type} {Like : List Stmt → List Stmt → Prop}

section

variable {m m' : Action α} {f f' : α → Action β}

theorem bind (h : Follows Like m m') (next : ∀ a, Follows Like (f a) (f' a)) :
    Follows Like (m >>= f) (m' >>= f') :=
  fun w => (h w).bind fun a w => next a w

theorem recover {f f' : Value → Action α} (h : Follows Like m m')
    (next : ∀ e, Follows Like (f e) (f' e)) :
    Follows Like (tryCatch m f) (tryCatch m' f') :=
  fun w => (h w).recover fun e w => next e w

end

section

variable (same : ∀ c, Like c c)
include same

theorem refl (m : Action α) : Follows Like m m := fun w => .refl same (m w)

/-- Both begin with the same and go on alike. -/
theorem after (m : Action α) {f f' : α → Action β} (next : ∀ a, Follows Like (f a) (f' a)) :
    Follows Like (m >>= f) (m >>= f') := bind (refl same m) next

/-- Both go on with the same. -/
theorem before {m m' : Action α} (h : Follows Like m m') (f : α → Action β) :
    Follows Like (m >>= f) (m' >>= f) := bind h fun a => refl same (f a)

end

/-- A quiet note changes nothing. -/
theorem quiet {n : Note} (h : n.IsQuiet) {f : Bool → Action α} {m : Action α}
    (next : Follows Like (f true) m) : Follows Like (Action.note n >>= f) m :=
  fun w => .quiet w h (next w)

theorem keep {c c' : List Stmt} (like : Like c c') {f f' : Nat → Action α}
    (next : ∀ n, Follows Like (f n) (f' n)) :
    Follows Like (Action.keep c >>= f) (Action.keep c' >>= f') :=
  fun w => .keep w like fun n w => next n w

section

variable (same : ∀ c, Like c c) {m m' : Action α}
include same

theorem attempted (h : Follows Like m m') : Follows Like (attempt m) (attempt m') :=
  recover (before same h _) fun _ => refl same _

theorem handled (e : Value) (h : Follows Like m m') :
    Follows Like (handling e m) (handling e m') :=
  after same _ fun _ => before same (attempted same h) _

theorem repeated {step step' : σ → Action (σ ⊕ α)} (h : ∀ s, Follows Like (step s) (step' s))
    (fuel : Nat) (s : σ) : Follows Like (repeatAction step fuel s) (repeatAction step' fuel s) := by
  induction fuel generalizing s with
  | zero => exact refl same _
  | succ fuel ih =>
    refine bind (h s) fun
      | .inl s => ih s
      | .inr a => refl same (pure a)

theorem looped {step step' : σ → Action (σ ⊕ α)} (h : ∀ s, Follows Like (step s) (step' s))
    (start : σ) : Follows Like (loop start step) (loop start step') :=
  repeated same h patience start

end

end Action.Follows

end RuleBench.Execution
