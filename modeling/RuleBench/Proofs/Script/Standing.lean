import RuleBench.Proofs.Script.Fates
import RuleBench.Proofs.Script.Places

/-!
# What lowering leaves stands where it may

Where all parts of a script stand where they may, so do those that are left when the annotations are
taken away. A function may cease to hand out values or to suspend, and a `finally` block that is left
empty no longer stands around anything; both only allow more.
-/

namespace RuleBench.Script

open Placement

/-! ### Handing out values and suspending -/

/-- Mentions that leave the blocks which they enter do not hide a `yield` behind them. -/
theorem Balanced.yieldsAt {c : Bool} {ms : List Mention} (h : Balanced c ms) {depth : Nat}
    {rest : List Mention} (behind : Script.yieldsAt depth rest = true) :
    Script.yieldsAt depth (ms ++ rest) = true := by
  induction h generalizing depth rest with
  | nil => exact behind
  | name | annotate | rebind | bareOnly | suspends =>
    cases depth <;> exact behind
  | yields loc =>
    cases depth
    · rfl
    · exact behind
  | append _ _ ih ih' =>
    rw [List.append_assoc]
    exact ih (ih' behind)
  | @block c kind ms named _ ih =>
    have left : Script.yieldsAt (depth + 1) (.leave kind :: rest) = true := by
      cases kind <;> first | exact absurd rfl named | exact behind
    have inside := ih left
    simp only [List.append_assoc, List.cons_append, List.nil_append]
    cases kind <;> first | exact absurd rfl named | (cases depth <;> exact inside)
  | @hint c ms _ ih =>
    have left : Script.yieldsAt depth (.leave .hint :: rest) = true := by
      cases depth <;> exact behind
    have inside := ih left
    simp only [annotationMentions, List.append_assoc, List.cons_append, List.nil_append]
    cases depth <;> exact inside
  | @source c ms _ ih =>
    have left : Script.yieldsAt depth (.leaveSource :: rest) = true := by
      cases depth <;> exact behind
    have inside := ih left
    simp only [List.append_assoc, List.cons_append, List.nil_append]
    cases depth <;> exact inside
  | @target ms _ ih =>
    have left : Script.yieldsAt depth (.leaveTarget :: rest) = true := by
      cases depth <;> exact behind
    have inside := ih left
    simp only [List.append_assoc, List.cons_append, List.nil_append]
    cases depth <;> exact inside

/-- What is left of a function hands out values only if the function did. -/
theorem Thinned.yieldsAt {ks : List BlockKind} {fs : List Fate} (h : Thinned ks fs) {depth : Nat}
    (left : Script.yieldsAt depth (fs.filterMap Prod.snd) = true) :
    Script.yieldsAt depth (fs.map Prod.fst) = true := by
  induction h generalizing depth with
  | done => exact left
  | keep flat like rest ih =>
    simp only [List.filterMap_cons, List.map_cons] at left ⊢
    cases like <;> first | exact flat.elim | (cases depth <;> first | rfl | exact ih left)
  | @enter ks kind fs rest ih =>
    simp only [List.filterMap_cons, List.map_cons] at left ⊢
    cases kind <;> cases depth <;> exact ih left
  | @leave ks kind fs rest ih =>
    simp only [List.filterMap_cons, List.map_cons] at left ⊢
    cases kind <;> cases depth <;> first | exact ih left | cases left
  | drop settled balanced rest ih =>
    rw [List.filterMap_append, snd_dropped, List.nil_append] at left
    rw [List.map_append, fst_dropped]
    exact balanced.yieldsAt (ih left)

/-- The answers so far for the open blocks, and those with more blocks that suspend. -/
def Below (as bs : List Bool) : Prop := List.Forall₂ (fun a b => a = true → b = true) as bs

theorem Below.refl (as : List Bool) : Below as as := List.forall₂_same.mpr fun _ _ => id

theorem Below.trans {as bs cs : List Bool} (h : Below as bs) (h' : Below bs cs) : Below as cs :=
  forall₂_trans h h' fun _ _ _ first second => second ∘ first

theorem Below.last {as bs : List Bool} (h : Below as bs) (ends : as.getLast?.getD false = true) :
    bs.getLast?.getD false = true := by
  induction h with
  | nil => exact ends
  | @cons a b as bs head rest ih =>
    cases rest with
    | nil => exact head ends
    | cons head' rest' => exact ih ends

/-- Mentions that leave the blocks which they enter can only make blocks suspend. -/
theorem Balanced.suspendsAt {c : Bool} {ms : List Mention} (h : Balanced c ms) {open' : List Bool}
    (some : open' ≠ []) (rest : List Mention) : ∃ after, Below open' after ∧
      Script.suspendsAt open' (ms ++ rest) = Script.suspendsAt after rest := by
  obtain ⟨here, around, rfl⟩ := List.exists_cons_of_ne_nil some
  clear some
  induction h generalizing here around rest with
  | nil => exact ⟨_, .refl _, rfl⟩
  | name | annotate | rebind | bareOnly | yields => exact ⟨_, .refl _, rfl⟩
  | suspends => exact ⟨true :: around, .cons (fun _ => rfl) (Below.refl _), rfl⟩
  | @append c ms ns _ _ ih ih' =>
    obtain ⟨after, below, first⟩ := ih (ns ++ rest) here around
    cases below with
    | @cons _ here' _ around' head tail =>
      obtain ⟨after, below', second⟩ := ih' rest here' around'
      refine ⟨after, Below.trans (.cons head tail) below', ?_⟩
      rw [List.append_assoc, first, second]
  | @block c kind ms named _ ih =>
    obtain ⟨after, below, inside⟩ := ih (.leave kind :: rest) false (here :: around)
    cases below with
    | @cons _ inner _ after _ below =>
      cases below with
      | @cons _ here' _ around' head tail =>
        have whole : Script.suspendsAt (here :: around) (.enter kind :: ms ++ [.leave kind] ++ rest) =
            Script.suspendsAt (inner :: here' :: around') (.leave kind :: rest) := by
          rw [← inside]
          simp only [List.append_assoc, List.cons_append, List.nil_append]
          cases kind <;> first | exact absurd rfl named | rfl
        rw [whole]
        cases kind with
        | hint => exact absurd rfl named
        | comprehension form =>
          exact ⟨(here' || (inner && form != .generator)) :: around',
            .cons (fun set => by simp [head set]) tail, rfl⟩
        | _ => exact ⟨here' :: around', .cons head tail, rfl⟩
  | @hint c ms _ ih =>
    obtain ⟨after, below, inside⟩ := ih (.leave .hint :: rest) here around
    refine ⟨after, below, ?_⟩
    simp only [annotationMentions, List.append_assoc, List.cons_append, List.nil_append]
    exact inside
  | @source c ms _ ih =>
    obtain ⟨after, below, inside⟩ := ih (.leaveSource :: rest) here around
    refine ⟨after, below, ?_⟩
    simp only [List.append_assoc, List.cons_append, List.nil_append]
    exact inside
  | @target ms _ ih =>
    obtain ⟨after, below, inside⟩ := ih (.leaveTarget :: rest) here around
    refine ⟨after, below, ?_⟩
    simp only [List.append_assoc, List.cons_append, List.nil_append]
    exact inside

/-- What is left of a block suspends only if the block did. -/
theorem Thinned.suspendsAt {ks : List BlockKind} {fs : List Fate} (h : Thinned ks fs)
    {open' left' : List Bool} (deep : (ks.filter (· != .hint)).length < open'.length)
    (below : Below left' open')
    (left : Script.suspendsAt left' (fs.filterMap Prod.snd) = true) :
    Script.suspendsAt open' (fs.map Prod.fst) = true := by
  induction h generalizing open' left' with
  | done => exact below.last left
  | keep flat like rest ih =>
    simp only [List.filterMap_cons, List.map_cons] at left ⊢
    cases like with
    | enter | leave => exact flat.elim
    | suspends =>
      cases below with
      | nil => cases deep
      | cons head tail => exact ih deep (.cons (fun _ => rfl) tail) left
    | _ => exact ih deep below left
  | @enter ks kind fs rest ih =>
    simp only [List.filterMap_cons, List.map_cons] at left ⊢
    cases kind with
    | hint => exact ih deep below left
    | _ => exact ih (by simpa using deep) (.cons id below) left
  | @leave ks kind fs rest ih =>
    simp only [List.filterMap_cons, List.map_cons] at left ⊢
    cases kind with
    | hint => exact ih deep below left
    | comprehension form =>
      cases below with
      | nil => cases deep
      | @cons inner' inner _ _ inmost below =>
        cases below with
        | nil => simp at deep
        | @cons here' here around' around head tail =>
          refine ih (by simpa using deep) (.cons (fun set => ?_) tail) left
          simp only [Bool.or_eq_true, Bool.and_eq_true] at set ⊢
          exact set.imp head (And.imp_left inmost)
    | _ =>
      cases below with
      | nil => cases deep
      | cons head tail => exact ih (by simpa using deep) tail left
  | drop settled balanced rest ih =>
    rw [List.filterMap_append, snd_dropped, List.nil_append] at left
    rw [List.map_append, fst_dropped]
    have nonempty : open' ≠ [] := by
      rintro rfl
      cases deep
    obtain ⟨after, further, same⟩ := balanced.suspendsAt nonempty _
    rw [same]
    have deep' : _ < after.length := further.length_eq ▸ deep
    exact ih deep' (below.trans further) left

/-! ### What stands around -/

/-- Statements around a place, and the same with some of the harmless `finally` blocks missing. -/
inductive Fewer : List Enclosing → List Enclosing → Prop where
  | nil : Fewer [] []
  | keep (e : Enclosing) {es es' : List Enclosing} (rest : Fewer es es') :
      Fewer (e :: es) (e :: es')
  | skip {es es' : List Enclosing} (rest : Fewer es es') : Fewer (.final none :: es) es'

theorem Fewer.length {es es' : List Enclosing} (h : Fewer es es') : es'.length ≤ es.length := by
  induction h with
  | nil => exact Nat.le_refl _
  | keep e rest ih => exact Nat.succ_le_succ ih
  | skip rest ih => exact Nat.le_succ_of_le ih

/-- A jump meets the same things on its way out. -/
theorem Fewer.leave {es es' : List Enclosing} (h : Fewer es es') (toLoop : Bool) (r : Region) :
    Placement.leave toLoop r es' = Placement.leave toLoop r es := by
  induction h with
  | nil => rfl
  | keep e rest ih =>
    cases e with
    | loop => cases toLoop <;> first | rfl | exact ih
    | groupHandler => rfl
    | final fault => cases fault <;> first | rfl | exact ih
    | other => exact ih
  | skip rest ih => exact ih

theorem Fewer.isOk_leave_bind {es es' : List Enclosing} (h : Fewer es es') (toLoop : Bool)
    (r r' : Region) {f g : Bool → Except Fault Unit} (same : ∀ b, (g b).isOk = (f b).isOk) :
    (Placement.leave toLoop r' es' >>= g).isOk = (Placement.leave toLoop r es >>= f).isOk := by
  rw [h.leave]
  have ends := ends_leave toLoop r' r es
  generalize Placement.leave toLoop r' es = x, Placement.leave toLoop r es = y at ends ⊢
  cases ends with
  | ok equal => exact equal ▸ same _
  | error => rfl

namespace Placement

/-- Code around a place, in a script and in what is left of it. -/
structure Relaxed (p q : Placement) : Prop where
  kind : q.kind = p.kind
  future : q.future = p.future
  generator : q.asyncGenerator = true → p.asyncGenerator = true
  enclosing : Fewer p.enclosing q.enclosing

namespace Relaxed

variable {p q : Placement}

theorem inside (h : p.Relaxed q) (kind : CodeKind) : (p.inside kind).Relaxed (q.inside kind) :=
  ⟨rfl, h.future, id, .nil⟩

theorem entered (h : p.Relaxed q) (e : Enclosing) :
    Relaxed { p with enclosing := e :: p.enclosing } { q with enclosing := e :: q.enclosing } :=
  ⟨h.kind, h.future, h.generator, .keep e h.enclosing⟩

theorem room (h : p.Relaxed q) (some : p.enclosing.length < maxEnclosing) :
    q.enclosing.length < maxEnclosing :=
  Nat.lt_of_le_of_lt h.enclosing.length some

/-- The body of a function. -/
theorem insideFunction (h : p.Relaxed q) (isAsync : Bool) (body : List Stmt) :
    (p.insideFunction isAsync (mentionsOfBlock body)).Relaxed
      (q.insideFunction isAsync (mentionsOfBlock (plainBlock body))) where
  kind := rfl
  future := h.future
  generator left := by
    have thinned := thinned_fatesOfBlock body
    rw [← fst_fatesOfBlock]
    rw [← snd_fatesOfBlock] at left
    simp only [Placement.insideFunction, Bool.and_eq_true, Bool.or_eq_true] at left ⊢
    refine ⟨thinned.yieldsAt left.1, left.2.imp_right fun left => ?_⟩
    exact thinned.suspendsAt Nat.zero_lt_one (Below.refl [false]) left
  enclosing := .nil

theorem withItems (h : p.Relaxed q) (isAsync : Bool) (r r' : Region) (is : List WithItem)
    {f g : Placement → Except Fault Unit}
    (next : ∀ p' q', p'.Relaxed q' → (f p').isOk = true → (g q').isOk = true)
    (ok : (checkWithItems p isAsync r is >>= f).isOk = true) :
    (checkWithItems q isAsync r' (is.map WithItem.unplaced) >>= g).isOk = true := by
  induction is generalizing p q with
  | nil => exact next p q h ok
  | cons i is ih =>
    obtain ⟨context, target⟩ := i
    have context' := isOk_checkExpr h.kind context
    simp only [List.map_cons, WithItem.unplaced, checkWithItems, h.kind] at ok ⊢
    by_cases outside : (isAsync && p.kind != .asyncFunction) = true
    · simp only [outside, if_true] at ok
      cases ok
    · simp only [outside, Bool.false_eq_true, if_false, bind_assoc, isOk_bind_unit,
        isOk_enter_bind, Bool.and_eq_true, decide_eq_true_eq, context'] at ok ⊢
      obtain ⟨okContext, room, ok⟩ := ok
      refine ⟨okContext, h.room room, ?_⟩
      cases target with
      | none => exact ih (h.entered .other) ok
      | some t =>
        simp only [unplacedOption, bind_assoc, isOk_bind_unit, Bool.and_eq_true] at ok ⊢
        exact ⟨(isOk_checkTarget (h.entered .other).kind t).trans ok.1,
          ih (h.entered .other) ok.2⟩

end Relaxed

end Placement

theorem isOk_checkBlock_filled (p : Placement) (r : Region) (ss : List Stmt) :
    (checkBlock p (unplacedBlock (filled r ss))).isOk = (checkBlock p (unplacedBlock ss)).isOk := by
  cases ss <;> rfl

theorem isOk_checkBlock_append (p : Placement) (ss ts : List Stmt) :
    (checkBlock p (ss ++ ts)).isOk = ((checkBlock p ss).isOk && (checkBlock p ts).isOk) := by
  induction ss with
  | nil => rfl
  | cons s ss ih => simp [checkBlock, ih, Bool.and_assoc]

/-- A mention of a name that may be bound. -/
def Mention.bindable : Mention → Bool
  | .name id _ _ => id != debugName
  | _ => true

theorem isOk_checkParams_eq (r : Region) (ps : Params Expr) :
    (checkParams r ps).isOk = ps.mentions.all Mention.bindable := by
  have same : Mention.bindable ∘ Param.mention = fun p => p.name != debugName := rfl
  simp only [checkParams, List.forM_eq_forM, isOk_forM, isOk_checkName, Params.mentions,
    List.all_map, same, List.all_append]
  ac_rfl

theorem isOk_checkParams_bare (r : Region) (ps : Params Expr) :
    (checkParams r ps.bare).isOk = (checkParams r ps).isOk := by
  rw [isOk_checkParams_eq, isOk_checkParams_eq, ps.mentions_bare]

theorem checkDefault_plain (p : Placement) (ps : List (Param Expr)) :
    checkDefault p (ps.map Param.plain) = checkDefault p ps := by
  induction ps with
  | nil => rfl
  | cons x ps ih => simp [checkDefault, Param.plain, ih]

theorem checkDefaults_bare (p : Placement) (ps : Params Expr) :
    checkDefaults p ps.bare = checkDefaults p ps := by
  obtain ⟨po, pl, r, ko, kr⟩ := ps
  simp [Params.bare, checkDefaults, checkDefault_plain]

/-- Parameters without annotations have nothing to check in them. -/
theorem isOk_checkAnnotations_bare (p : Placement) (ps : Params Expr) :
    (checkAnnotations p ps.bare none).isOk = true := by
  have list : ∀ ps : List (Param Expr),
      (ps.map Param.plain).filterMap (Param.annotation ·) = [] := by
    intro ps
    simp [List.filterMap_map, Function.comp_def, Param.plain]
  have option : ∀ x : Option (Param Expr),
      (x.map Param.plain).toList.filterMap (Param.annotation ·) = [] := by
    intro x
    cases x <;> rfl
  simp [checkAnnotations, Params.bare, list, option]

/-! ### The parts of a `try` statement -/

/-- The code inside a statement that may be missing. -/
def Placement.within (p : Placement) (present : Bool) (e : Enclosing) : Placement :=
  if present then { p with enclosing := e :: p.enclosing } else p

theorem isOk_enterIf_bind_within {α : Type} (p : Placement) (present : Bool) (r : Region)
    (e : Enclosing) (f : Placement → Except Fault α) :
    (p.enterIf present r e >>= f).isOk = true ↔
      (present = true → p.enclosing.length < maxEnclosing) ∧
        (f (p.within present e)).isOk = true := by
  rw [isOk_enterIf_bind]
  cases present <;> simp [Placement.within]

theorem Placement.Relaxed.within {p q : Placement} (h : p.Relaxed q) (present : Bool)
    (e : Enclosing) : (p.within present e).Relaxed (q.within present e) := by
  cases present
  · exact h
  · exact h.entered e

/-- A `finally` block that is left empty is no longer entered. -/
theorem Placement.Relaxed.final {p q : Placement} (h : p.Relaxed q) {present present' : Bool}
    (less : present' = true → present = true) :
    (p.within present (.final none)).Relaxed (q.within present' (.final none)) := by
  cases present with
  | false =>
    obtain rfl : present' = false := Bool.eq_false_iff.mpr fun some => absurd (less some) nofun
    exact h
  | true =>
    cases present' with
    | false => exact ⟨h.kind, h.future, h.generator, .skip h.enclosing⟩
    | true => exact h.entered (.final none)

/-- What a `try` statement has inside its `finally` block. -/
structure Guarded (p : Placement) (isStar : Bool) (b : List Stmt) (hs : List (Handler Stmt))
    (e : List Stmt) : Prop where
  room : hs.isEmpty = false → p.enclosing.length < maxEnclosing
  body : (checkBlock (p.within (!hs.isEmpty) .other) b).isOk = true
  other : (checkBlock p e).isOk = true
  handlers : (checkHandlers (p.within (!hs.isEmpty) (if isStar then .groupHandler else .other))
    hs).isOk = true

theorem isOk_checkStmt_try (p : Placement) (r : Region) (isStar : Bool) (b : List Stmt)
    (hs : List (Handler Stmt)) (e f : List Stmt) :
    (checkStmt p (.tryBlock r isStar b hs e f)).isOk = true ↔
      (hs.isEmpty && f.isEmpty) = false ∧ (checkBlock p f).isOk = true ∧
        (f.isEmpty = false → p.enclosing.length < maxEnclosing) ∧
        Guarded (p.within (!f.isEmpty) (.final none)) isStar b hs e ∧
        (checkBlock { p with enclosing := .other :: p.enclosing } f).isOk = true := by
  simp only [checkStmt]
  cases nothing : hs.isEmpty && f.isEmpty with
  | true => simp
  | false =>
    simp only [Bool.false_eq_true, if_false, true_and]
    cases settled : checkBlock p f with
    | error fault => simp [faultOf?]
    | ok =>
      simp only [faultOf?, isOk_ok, true_and, isOk_enterIf_bind_within, isOk_bind_unit,
        Bool.and_eq_true, isOk_checkIf]
      generalize p.within (!f.isEmpty) (.final none) = q
      constructor
      · rintro ⟨room, deeper, body, first, deeper', handlers, second, final⟩
        refine ⟨by simpa using room, ⟨by simpa using deeper, body, ?_, handlers⟩, final⟩
        cases isStar
        · simpa using first
        · simpa using second
      · rintro ⟨room, ⟨deeper, body, other, handlers⟩, final⟩
        exact ⟨by simpa using room, by simpa using deeper, body, by simp [other],
          by simpa using deeper, handlers, by simp [other], final⟩

namespace Placement.Relaxed

mutual

/-- What is left of a statement that stands where it may stands where it may. -/
theorem stmt {p q : Placement} (h : p.Relaxed q) : ∀ s : Stmt, (checkStmt p s).isOk = true →
    (checkBlock q (unplacedBlock s.plain.toList)).isOk = true
  | .functionDef r isAsync n ps b ds ret, ok => by
    simp only [checkStmt, isOk_bind_unit, Bool.and_eq_true] at ok
    obtain ⟨okParams, okDecorators, okDefaults, -, okBody, okName⟩ := ok
    have body := (h.insideFunction isAsync b).block b okBody
    simp only [Stmt.plain, Option.toList_some, unplacedBlock, Stmt.unplaced, checkBlock, checkStmt,
      isOk_bind_unit, Bool.and_eq_true, isOk_checkBlock_filled, mentionsOfBlock_unplaced,
      mentionsOfBlock_filled, Placement.insideFunction, yields_unplaced, suspends_unplaced]
    refine ⟨⟨?_, ?_, ?_, ?_, body, ?_⟩, rfl⟩
    · rw [isOk_checkParams default r, isOk_checkParams_bare]
      exact okParams
    · exact (isOk_checkAll h.kind ds).trans okDecorators
    · rw [isOk_checkDefaults h.kind, checkDefaults_bare]
      exact okDefaults
    · exact (isOk_checkAnnotations q ps.bare none).trans (isOk_checkAnnotations_bare q ps)
    · simpa using okName
  | .classDef r n bs ks b ds, ok => by
    simp only [checkStmt, isOk_bind_unit, Bool.and_eq_true] at ok
    obtain ⟨okDecorators, okBody, okKeywords, okBases, okValues, okName⟩ := ok
    have body := (h.inside .classBody).block b okBody
    simp only [Stmt.plain, Option.toList_some, unplacedBlock, Stmt.unplaced, checkBlock, checkStmt,
      isOk_bind_unit, Bool.and_eq_true, isOk_checkBlock_filled]
    refine ⟨⟨?_, body, ?_, ?_, ?_, ?_⟩, rfl⟩
    · exact (isOk_checkAll h.kind ds).trans okDecorators
    · exact (isOk_checkKeywords default r ks).trans okKeywords
    · exact (isOk_checkElements h.kind bs).trans okBases
    · exact (isOk_checkValues h.kind ks).trans okValues
    · simpa using okName
  | .annAssign _ _ _ none _, _ => rfl
  | .annAssign r t a (some v) simple, ok => by
    simp only [checkStmt, isOk_bind_unit, Bool.and_eq_true] at ok
    simp only [Stmt.plain, Option.toList_some, unplacedBlock, unplacedAll, Stmt.unplaced, checkBlock,
      checkStmt, isOk_bind_unit, Bool.and_eq_true, isOk_checkExpr h.kind v, List.forM_eq_forM,
      isOk_forM, List.all_cons, List.all_nil, isOk_checkTarget h.kind t]
    exact ⟨⟨ok.1, ok.2.1, trivial⟩, rfl⟩
  | .forLoop r isAsync t s b e, ok => by
    have entered := h.entered .loop
    have target := isOk_checkTarget entered.kind t
    cases isAsync with
    | true =>
      simp only [checkStmt, if_true] at ok
      cases outside : p.kind != .asyncFunction with
      | true => simp [outside] at ok
      | false =>
        have outside' : (q.kind != .asyncFunction) = false := h.kind ▸ outside
        simp [outside] at ok
        obtain ⟨okSource, room, okTarget, okBody, okElse⟩ := ok
        have body := entered.block b okBody
        have other := h.block e okElse
        simp [Stmt.plain, unplacedBlock, Stmt.unplaced, checkBlock, checkStmt, outside',
          isOk_checkBlock_filled, isOk_checkExpr h.kind s, okSource, h.room room, target,
          okTarget, body, other]
    | false =>
      simp [checkStmt] at ok
      obtain ⟨room, okSource, okTarget, okBody, okElse⟩ := ok
      have body := entered.block b okBody
      have other := h.block e okElse
      simp [Stmt.plain, unplacedBlock, Stmt.unplaced, checkBlock, checkStmt,
        isOk_checkBlock_filled, isOk_checkExpr entered.kind s, okSource, h.room room, target,
        okTarget, body, other]
  | .whileLoop r t b e, ok => by
    simp only [checkStmt, isOk_bind_unit, isOk_enter_bind, Bool.and_eq_true,
      decide_eq_true_eq] at ok
    obtain ⟨room, okTest, okBody, okElse⟩ := ok
    have entered := h.entered .loop
    have body := entered.block b okBody
    simp only [Stmt.plain, Option.toList_some, unplacedBlock, Stmt.unplaced, checkBlock, checkStmt,
      isOk_bind_unit, isOk_enter_bind, Bool.and_eq_true, decide_eq_true_eq, isOk_checkBlock_filled]
    exact ⟨⟨h.room room, (isOk_checkExpr entered.kind t).trans okTest, body, h.block e okElse⟩, rfl⟩
  | .ifElse r t b e, ok => by
    simp only [checkStmt, isOk_bind_unit, Bool.and_eq_true] at ok
    obtain ⟨okTest, okBody, okElse⟩ := ok
    simp only [Stmt.plain, Option.toList_some, unplacedBlock, Stmt.unplaced, checkBlock, checkStmt,
      isOk_bind_unit, Bool.and_eq_true, isOk_checkBlock_filled]
    exact ⟨⟨(isOk_checkExpr h.kind t).trans okTest, h.block b okBody, h.block e okElse⟩, rfl⟩
  | .withBlock r isAsync is b, ok => by
    simp only [Stmt.plain, Option.toList_some, unplacedBlock, Stmt.unplaced, checkBlock, checkStmt,
      isOk_bind_unit, Bool.and_eq_true]
    refine ⟨h.withItems isAsync r default is (fun p' q' inner okBody => ?_) ok, rfl⟩
    rw [isOk_checkBlock_filled]
    exact inner.block b okBody
  | .matchOn r s cs, ok => by
    simp only [checkStmt, isOk_bind_unit, Bool.and_eq_true] at ok
    simp only [Stmt.plain, Option.toList_some, unplacedBlock, Stmt.unplaced, checkBlock, checkStmt,
      isOk_bind_unit, Bool.and_eq_true]
    exact ⟨⟨(isOk_checkExpr h.kind s).trans ok.1, h.cases r cs ok.2⟩, rfl⟩
  | .tryBlock r isStar b hs e f, ok => by
    obtain ⟨some, final, room, ⟨deeper, body, other, handled⟩, onExit⟩ :=
      (isOk_checkStmt_try p r isStar b hs e f).mp ok
    have noHandler : (unplacedHandlers (plainHandlers hs)).isEmpty = hs.isEmpty := by
      cases hs <;> rfl
    have left : ∀ q, (checkBlock q (unplacedBlock
        (if hs.isEmpty then filled r (plainBlock f) else plainBlock f))).isOk =
        (checkBlock q (unplacedBlock (plainBlock f))).isOk := by
      intro q
      split
      · exact isOk_checkBlock_filled q r _
      · rfl
    -- The `finally` block is there only if it was, and has to be if there is no handler.
    have less : (!(unplacedBlock
        (if hs.isEmpty then filled r (plainBlock f) else plainBlock f)).isEmpty) = true →
        (!f.isEmpty) = true := by
      cases f with
      | nil =>
        have handler : hs.isEmpty = false := by simpa using some
        simp [handler, plainBlock, unplacedBlock]
      | cons => simp
    have still : (hs.isEmpty && (unplacedBlock
        (if hs.isEmpty then filled r (plainBlock f) else plainBlock f)).isEmpty) = false := by
      cases hs with
      | nil => cases plainBlock f <;> rfl
      | cons => rfl
    have guarded := h.final less
    simp only [Stmt.plain, Option.toList_some, unplacedBlock, Stmt.unplaced, checkBlock,
      isOk_bind_unit, Bool.and_eq_true]
    refine ⟨(isOk_checkStmt_try q default isStar _ _ _ _).mpr
      ⟨noHandler ▸ still, ?_, ?_, ⟨?_, ?_, ?_, ?_⟩, ?_⟩, rfl⟩
    · exact (left q).trans (h.block f final)
    · exact fun present => h.room (room (by simpa using less (by rw [present]; rfl)))
    · exact fun present => guarded.room (deeper (noHandler ▸ present))
    · rw [isOk_checkBlock_filled, noHandler]
      exact (guarded.within _ .other).block b body
    · exact guarded.block e other
    · rw [noHandler]
      exact (guarded.within _ _).handlers hs handled
    · exact (left _).trans ((h.entered .other).block f onExit)
  | .returnStmt r v, ok => by
    have left := h.enclosing.isOk_leave_bind false r default (f := fun _ => pure ())
      (g := fun _ => pure ()) fun _ => rfl
    simp only [checkStmt] at ok
    cases outside : p.kind != .function && p.kind != .asyncFunction with
    | true => simp [outside] at ok
    | false =>
      cases generated : v.isSome && p.asyncGenerator with
      | true => simp [outside, generated] at ok
      | false =>
        have outside' : (q.kind != .function && q.kind != .asyncFunction) = false :=
          h.kind ▸ outside
        have generated' : ((unplacedOption v).isSome && q.asyncGenerator) = false := by
          rw [Bool.and_eq_false_iff] at generated ⊢
          refine generated.imp (fun bare => ?_) fun plain => ?_
          · cases v <;> first | rfl | cases bare
          · exact Bool.eq_false_iff.mpr fun set => by simp [h.generator set] at plain
        simp only [outside, generated, Bool.false_eq_true, if_false, isOk_bind_unit,
          Bool.and_eq_true] at ok
        simp only [Stmt.plain, Option.toList_some, unplacedBlock, Stmt.unplaced, checkBlock,
          checkStmt, outside', generated', Bool.false_eq_true, if_false, isOk_bind_unit,
          Bool.and_eq_true]
        exact ⟨⟨(isOk_checkOption h.kind v).trans ok.1, left.trans ok.2⟩, rfl⟩
  | .delete _ ts, ok => by
    simpa [Stmt.plain, unplacedBlock, Stmt.unplaced, checkBlock, checkStmt,
      isOk_checkDeletions h.kind ts] using ok
  | .assign _ ts v, ok => by
    simpa [Stmt.plain, unplacedBlock, Stmt.unplaced, checkBlock, checkStmt, unplacedAll_eq,
      isOk_checkExpr h.kind v, isOk_checkTarget h.kind] using ok
  | .augAssign _ t _ v, ok => by
    have target := isOk_checkTarget h.kind t
    have value := isOk_checkExpr h.kind v
    cases t <;> simp_all [Stmt.plain, unplacedBlock, Stmt.unplaced, Expr.unplaced, checkBlock,
      checkStmt]
  | .raise _ e c, ok => by
    simpa [Stmt.plain, unplacedBlock, Stmt.unplaced, checkBlock, checkStmt,
      isOk_checkOption h.kind] using ok
  | .assert _ t m, ok => by
    simpa [Stmt.plain, unplacedBlock, Stmt.unplaced, checkBlock, checkStmt,
      isOk_checkExpr h.kind, isOk_checkOption h.kind] using ok
  | .importModules r ns, ok => by
    simpa [Stmt.plain, unplacedBlock, Stmt.unplaced, checkBlock, checkStmt, Alias.unplaced,
      Alias.boundName] using ok
  | .importFrom r m ns l, ok => by
    simpa [Stmt.plain, unplacedBlock, Stmt.unplaced, checkBlock, checkStmt,
      isOk_checkAliases default r ns] using ok
  | .expr _ e, ok => by
    simpa [Stmt.plain, unplacedBlock, Stmt.unplaced, checkBlock, checkStmt,
      isOk_checkExpr h.kind] using ok
  | .global .., _ | .nonlocal .., _ | .pass _, _ => rfl
  | .breakLoop r, ok | .continueLoop r, ok => by
    simp only [Stmt.plain, Option.toList_some, unplacedBlock, Stmt.unplaced, checkBlock,
      isOk_bind_unit, Bool.and_eq_true]
    refine ⟨(h.enclosing.isOk_leave_bind true r default fun found => ?_).trans ok, rfl⟩
    cases found <;> rfl

theorem block {p q : Placement} (h : p.Relaxed q) : ∀ ss : List Stmt,
    (checkBlock p ss).isOk = true → (checkBlock q (unplacedBlock (plainBlock ss))).isOk = true
  | [], _ => rfl
  | s :: ss, ok => by
    simp only [checkBlock, isOk_bind_unit, Bool.and_eq_true] at ok
    simp only [plainBlock, unplacedBlock_append, isOk_checkBlock_append, Bool.and_eq_true]
    exact ⟨h.stmt s ok.1, h.block ss ok.2⟩

theorem handlers {p q : Placement} (h : p.Relaxed q) : ∀ hs : List (Handler Stmt),
    (checkHandlers p hs).isOk = true →
      (checkHandlers q (unplacedHandlers (plainHandlers hs))).isOk = true
  | [], _ => rfl
  | ⟨r, t, n, b⟩ :: hs, ok => by
    have last : (unplacedHandlers (plainHandlers hs)).isEmpty = hs.isEmpty := by
      cases hs <;> rfl
    have typed : (unplacedOption t).isNone = t.isNone := by cases t <;> rfl
    simp only [checkHandlers] at ok
    cases misplaced : t.isNone && !hs.isEmpty with
    | true => simp [misplaced] at ok
    | false =>
      simp only [misplaced, Bool.false_eq_true, if_false, isOk_bind_unit, isOk_enter_bind,
        Bool.and_eq_true, decide_eq_true_eq] at ok
      obtain ⟨okType, okName, room, okBody, okRest⟩ := ok
      simp only [plainHandlers, unplacedHandlers, checkHandlers, last, typed, misplaced,
        Bool.false_eq_true, if_false, isOk_bind_unit, isOk_enter_bind, Bool.and_eq_true,
        decide_eq_true_eq, isOk_checkBlock_filled]
      refine ⟨(isOk_checkOption h.kind t).trans okType, ?_, h.room room,
        (h.entered .other).block b okBody, h.handlers hs okRest⟩
      cases n with
      | none => rfl
      | some n => simpa using okName

theorem cases {p q : Placement} (h : p.Relaxed q) (r : Region) : ∀ cs : List (MatchCase Stmt),
    (checkCases p cs).isOk = true → (checkCases q (unplacedCases (plainCases r cs))).isOk = true
  | [], _ => rfl
  | ⟨x, g, b⟩ :: cs, ok => by
    have last : (unplacedCases (plainCases r cs)).isEmpty = cs.isEmpty := by cases cs <;> rfl
    have guarded : (unplacedOption g).isSome = g.isSome := by cases g <;> rfl
    simp only [checkCases, isOk_bind_unit, Bool.and_eq_true] at ok
    obtain ⟨okPattern, okGuard, okBody, okRest⟩ := ok
    simp only [plainCases, unplacedCases, checkCases, last, guarded, isOk_bind_unit,
      Bool.and_eq_true, isOk_checkBlock_filled]
    exact ⟨(isOk_checkCasePattern h.kind _ x).trans okPattern,
      (isOk_checkOption h.kind g).trans okGuard, h.block b okBody, h.cases r cs okRest⟩

end

end Placement.Relaxed

end RuleBench.Script
