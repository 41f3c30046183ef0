import RuleBench.Proofs.Script.Unplaced
import RuleBench.Script.Plain

/-!
# Lowering does not deepen a script

Without its annotations a script nests no deeper than with them.
-/

namespace RuleBench.Script

theorem foldl_max (n : Nat) (hs : List Nat) : hs.foldl max n = max n (hs.foldl max 0) := by
  induction hs generalizing n with
  | nil => simp
  | cons h hs ih =>
    simp only [List.foldl_cons]
    rw [ih (max n h), ih (max 0 h)]
    omega

theorem tallest_cons (h : Nat) (hs : List Nat) : tallest (h :: hs) = max h (tallest hs) := by
  simp only [tallest, List.foldl_cons]
  rw [foldl_max, Nat.zero_max]

@[simp] theorem tallest_nil : tallest [] = 0 := rfl

theorem depthOfParam_plain (ps : List (Param Expr)) :
    depthOfParam (ps.map Param.plain) ≤ depthOfParam ps := by
  induction ps with
  | nil => exact Nat.le_refl 0
  | cons p ps ih =>
    simp only [List.map_cons, Param.plain, depthOfParam, depthOfOption]
    omega

theorem depthOfRest_plain (p : Option (Param Expr)) :
    depthOfRest (p.map Param.plain) ≤ depthOfRest p := by
  cases p with
  | none => exact Nat.le_refl 0
  | some p =>
    simp only [Option.map_some, Param.plain, depthOfRest, depthOfOption]
    omega

theorem depthOfParams_bare (ps : Params Expr) : depthOfParams ps.bare ≤ depthOfParams ps := by
  obtain ⟨po, pl, r, ko, kr⟩ := ps
  have := depthOfParam_plain po
  have := depthOfParam_plain pl
  have := depthOfRest_plain r
  have := depthOfParam_plain ko
  have := depthOfRest_plain kr
  simp only [Params.bare, depthOfParams]
  omega

theorem Stmt.one_le_depth (s : Stmt) : 1 ≤ s.depth := by
  cases s <;> simp [Stmt.depth]

theorem depthOfBlock_le_depthOfBody (ss : List Stmt) : depthOfBlock ss ≤ depthOfBody ss := by
  cases ss <;> simp [depthOfBlock, depthOfBody]

theorem one_le_depthOfBody (ss : List Stmt) : 1 ≤ depthOfBody ss := by
  cases ss with
  | nil => exact Nat.le_refl 1
  | cons s ss => exact Nat.le_trans s.one_le_depth (Nat.le_max_left _ _)

/-- A body gets a `pass` only if it is left empty. -/
theorem depthOfBody_filled (r : Region) (ss : List Stmt) :
    depthOfBody (filled r ss) = max 1 (depthOfBlock ss) := by
  cases ss with
  | nil => rfl
  | cons s ss =>
    have := s.one_le_depth
    simp only [filled, depthOfBody, depthOfBlock]
    omega

theorem depthOfBlock_filled (r : Region) (ss : List Stmt) :
    depthOfBlock (filled r ss) = max 1 (depthOfBlock ss) := by
  cases ss with
  | nil => rfl
  | cons s ss =>
    have := s.one_le_depth
    simp only [filled, depthOfBlock]
    omega

theorem depthOfBlock_append (ss ts : List Stmt) :
    depthOfBlock (ss ++ ts) = max (depthOfBlock ss) (depthOfBlock ts) := by
  induction ss with
  | nil => simp [depthOfBlock]
  | cons s ss ih => simp [depthOfBlock, ih, Nat.max_assoc]

theorem depthOfBody_plain {b : List Stmt} (h : depthOfBlock (plainBlock b) ≤ depthOfBlock b) :
    max 1 (depthOfBlock (plainBlock b)) ≤ depthOfBody b :=
  Nat.max_le.mpr ⟨one_le_depthOfBody b, Nat.le_trans h (depthOfBlock_le_depthOfBody b)⟩

mutual

theorem Stmt.depth_plain : ∀ s : Stmt, depthOfBlock s.plain.toList ≤ s.depth
  | .functionDef _ _ _ ps b ds ret => by
    have := depthOfParams_bare ps
    have := depthOfBody_plain (depthOfBlock_plain b)
    simp only [Stmt.plain, Option.toList_some, depthOfBlock, Stmt.depth, tallest_cons, tallest_nil,
      depthOfBody_filled, depthOfOption]
    omega
  | .classDef _ _ bs ks b ds => by
    have := depthOfBody_plain (depthOfBlock_plain b)
    simp only [Stmt.plain, Option.toList_some, depthOfBlock, Stmt.depth, tallest_cons, tallest_nil,
      depthOfBody_filled]
    omega
  | .annAssign _ _ _ none _ => Nat.zero_le _
  | .annAssign _ t a (some v) _ => by
    simp only [Stmt.plain, Option.toList_some, depthOfBlock, Stmt.depth, depthOfAll, depthOfOption]
    omega
  | .forLoop _ _ t s b e => by
    have := depthOfBody_plain (depthOfBlock_plain b)
    have := depthOfBlock_plain e
    simp only [Stmt.plain, Option.toList_some, depthOfBlock, Stmt.depth, tallest_cons, tallest_nil,
      depthOfBody_filled]
    omega
  | .whileLoop _ t b e | .ifElse _ t b e => by
    have := depthOfBody_plain (depthOfBlock_plain b)
    have := depthOfBlock_plain e
    simp only [Stmt.plain, Option.toList_some, depthOfBlock, Stmt.depth, tallest_cons, tallest_nil,
      depthOfBody_filled]
    omega
  | .withBlock _ _ is b => by
    have := depthOfBody_plain (depthOfBlock_plain b)
    simp only [Stmt.plain, Option.toList_some, depthOfBlock, Stmt.depth, depthOfBody_filled]
    omega
  | .matchOn r s cs => by
    have := depthOfCases_plain r cs
    simp only [Stmt.plain, Option.toList_some, depthOfBlock, Stmt.depth]
    omega
  | .tryBlock r _ b hs e f => by
    have := depthOfBody_plain (depthOfBlock_plain b)
    have := one_le_depthOfBody b
    have := depthOfHandlers_plain hs
    have := depthOfBlock_plain e
    have := depthOfBlock_plain f
    have final : depthOfBlock (if hs.isEmpty then filled r (plainBlock f) else plainBlock f) ≤
        max 1 (depthOfBlock (plainBlock f)) := by
      split
      · exact Nat.le_of_eq (depthOfBlock_filled r _)
      · exact Nat.le_max_right _ _
    simp only [Stmt.plain, Option.toList_some, depthOfBlock, Stmt.depth, tallest_cons, tallest_nil,
      depthOfBody_filled]
    omega
  | .returnStmt .. | .delete .. | .assign .. | .augAssign .. | .raise .. | .assert ..
  | .importModules .. | .importFrom .. | .global .. | .nonlocal .. | .expr .. | .pass ..
  | .breakLoop .. | .continueLoop .. => by simp [Stmt.plain, depthOfBlock]

theorem depthOfBlock_plain : ∀ ss : List Stmt, depthOfBlock (plainBlock ss) ≤ depthOfBlock ss
  | [] => Nat.le_refl 0
  | s :: ss => by
    have := s.depth_plain
    have := depthOfBlock_plain ss
    simp only [plainBlock, depthOfBlock_append, depthOfBlock]
    omega

theorem depthOfHandlers_plain : ∀ hs : List (Handler Stmt),
    depthOfHandlers (plainHandlers hs) ≤ depthOfHandlers hs
  | [] => Nat.le_refl 0
  | ⟨_, t, _, b⟩ :: hs => by
    have := depthOfBody_plain (depthOfBlock_plain b)
    have := depthOfHandlers_plain hs
    simp only [plainHandlers, depthOfHandlers, depthOfBody_filled]
    omega

theorem depthOfCases_plain (r : Region) : ∀ cs : List (MatchCase Stmt),
    depthOfCases (plainCases r cs) ≤ depthOfCases cs
  | [] => Nat.le_refl 0
  | ⟨p, g, b⟩ :: cs => by
    have := depthOfBody_plain (depthOfBlock_plain b)
    have := depthOfCases_plain r cs
    simp only [plainCases, depthOfCases, depthOfBody_filled]
    omega

end

/-- A script that is left empty still has a statement. -/
theorem depthOfBlock_plainScript (script : List Stmt) :
    depthOfBlock (plainScript script) ≤ max 1 (depthOfBlock script) := by
  have := depthOfBlock_plain script
  rw [plainScript, depthOfBlock_filled]
  omega

end RuleBench.Script
