import RuleBench.Proofs.Script.Reread
import RuleBench.Proofs.Script.Unremarked

/-!
# Silenced scripts are accepted

A text that is read as a script with `None` for every annotation passes all checks, if the script
does and what it is lowered to does: nothing that the checks ask for is lost but what lowering loses
too.
-/

namespace RuleBench.Script

/-! ### Mentions in other places -/

/-- The same fate, but that what stays stays as it was, and may stand elsewhere. -/
inductive Fate.Restored : Fate → Fate → Prop
  | stays {m n : Mention} (m' : Mention) (same : n.unplaced = m.unplaced) :
    Restored (m, some m') (m, some n)
  | goes (m : Mention) : Restored (m, none) (m, none)

theorem restored_dropped {ms : List Mention} {fs gs : List Fate}
    (h : List.Forall₂ Fate.Restored (dropped ms ++ fs) gs) :
    ∃ rest, gs = dropped ms ++ rest ∧ List.Forall₂ Fate.Restored fs rest := by
  induction ms generalizing gs with
  | nil => exact ⟨gs, rfl, h⟩
  | cons m ms ih =>
    cases h with
    | cons head behind =>
      obtain ⟨rest, rfl, restored⟩ := ih behind
      cases head
      exact ⟨rest, rfl, restored⟩

theorem Thinned.restored {ks : List BlockKind} {fs gs : List Fate} (h : Thinned ks fs)
    (same : List.Forall₂ Fate.Restored fs gs) : Thinned ks gs := by
  induction h generalizing gs with
  | done =>
    cases same
    exact .done
  | keep flat like rest ih =>
    cases same with
    | cons head same =>
      cases head with
      | stays _ unplaced => exact .keep flat (.of_unplaced unplaced.symm) (ih same)
  | @enter ks kind fs rest ih =>
    cases same with
    | cons head same =>
      cases head with
      | @stays _ n _ unplaced =>
        obtain rfl : n = .enter kind := by cases n <;> simp_all [Mention.unplaced]
        exact .enter (ih same)
  | @leave ks kind fs rest ih =>
    cases same with
    | cons head same =>
      cases head with
      | @stays _ n _ unplaced =>
        obtain rfl : n = .leave kind := by cases n <;> simp_all [Mention.unplaced]
        exact .leave (ih same)
  | drop settled balanced rest ih =>
    obtain ⟨rest, rfl, behind⟩ := restored_dropped same
    exact .drop settled balanced (ih behind)

/-- All that is left of mentions, as if nothing had been left out. -/
theorem Thinned.left {ks : List BlockKind} {fs : List Fate} (h : Thinned ks fs) :
    Thinned ks (kept (fs.filterMap Prod.snd)) := by
  induction h with
  | done => exact .done
  | keep flat like rest ih =>
    refine .keep ?_ (.refl _) ih
    cases like <;> trivial
  | enter rest ih => exact .enter ih
  | leave rest ih => exact .leave ih
  | drop settled balanced rest ih => simpa using ih

theorem restored_fst {fs gs : List Fate} (h : List.Forall₂ Fate.Restored fs gs) :
    gs.map Prod.fst = fs.map Prod.fst := by
  induction h with
  | nil => rfl
  | cons head _ ih => cases head <;> simp [ih]

/-- What is left out in the end was left out before. -/
theorem restored_none {fs gs : List Fate} (h : List.Forall₂ Fate.Restored fs gs) {m : Mention}
    (mem : (m, none) ∈ gs) : (m, none) ∈ fs := by
  induction h with
  | nil => cases mem
  | cons head _ ih =>
    cases mem with
    | head =>
      cases head
      exact List.mem_cons_self
    | tail _ mem => exact List.mem_cons_of_mem _ (ih mem)

/-- Mentions that stay may stay elsewhere. -/
theorem restored_kept {ms ns : List Mention}
    (same : ns.map Mention.unplaced = ms.map Mention.unplaced) :
    ∃ gs, List.Forall₂ Fate.Restored (kept ms) gs ∧ gs.filterMap Prod.snd = ns := by
  induction ms generalizing ns with
  | nil => exact ⟨[], .nil, (List.map_eq_nil_iff.mp same).symm⟩
  | cons m ms ih =>
    obtain ⟨n, ns, rfl, head, behind⟩ := List.map_eq_cons_iff.mp same
    obtain ⟨gs, restored, rfl⟩ := ih behind
    exact ⟨(m, some n) :: gs, .cons (.stays m head) restored, rfl⟩

/-- A silenced script, wherever it may stand, is what is left of its source without the annotations,
but for their blocks, in which there is nothing. -/
theorem Hushed.restored {ms ns : List Mention} {fs : List Fate} (h : Hushed ms fs)
    (same : ns.map Mention.unplaced = ms.map Mention.unplaced) :
    ∃ gs, List.Forall₂ Fate.Restored fs gs ∧ ∀ (later : Bool) (s : OpenBlocks),
      s.read later ns = s.read later (gs.filterMap Prod.snd) := by
  induction h generalizing ns with
  | nil =>
    obtain rfl := List.map_eq_nil_iff.mp same
    exact ⟨[], .nil, fun _ _ => rfl⟩
  | kept m _ ih =>
    obtain ⟨n, ns, rfl, head, behind⟩ := List.map_eq_cons_iff.mp same
    obtain ⟨gs, restored, reads⟩ := ih behind
    refine ⟨(m, some n) :: gs, .cons (.stays m head) restored, fun later s => ?_⟩
    simp only [List.filterMap_cons, OpenBlocks.read, List.foldlM_cons] at reads ⊢
    congr 1
    funext t
    exact reads later t
  | annotated id simple loc whole _ ih =>
    obtain ⟨n, ns, rfl, head, behind⟩ := List.map_eq_cons_iff.mp same
    obtain ⟨gs, restored, reads⟩ := ih behind
    refine ⟨(_, some n) :: gs, .cons (.stays _ head) restored, fun later s => ?_⟩
    simp only [List.filterMap_cons, OpenBlocks.read, List.foldlM_cons] at reads ⊢
    congr 1
    funext t
    exact reads later t
  | dropped m _ ih =>
    obtain ⟨gs, restored, reads⟩ := ih same
    exact ⟨(m, none) :: gs, .cons (.goes m) restored, reads⟩
  | hint _ ih =>
    obtain ⟨n, ns, rfl, head, same⟩ := List.map_eq_cons_iff.mp same
    obtain ⟨n', ns, rfl, head', behind⟩ := List.map_eq_cons_iff.mp same
    obtain rfl : n = .enter .hint := by cases n <;> simp_all [Mention.unplaced]
    obtain rfl : n' = .leave .hint := by cases n' <;> simp_all [Mention.unplaced]
    obtain ⟨gs, restored, reads⟩ := ih behind
    exact ⟨gs, restored, fun later s => (s.read_hint ns).trans (reads later s)⟩

/-- A silenced script may stand elsewhere, and its lowered form with it. -/
theorem Silenced.restored {ms ms' ns : List Mention} (h : Silenced ms ms')
    (same : ns.map Mention.unplaced = ms.map Mention.unplaced) :
    ∃ ns', Silenced ns ns' ∧ ns'.map Mention.unplaced = ms'.map Mention.unplaced := by
  induction h generalizing ns with
  | nil =>
    obtain rfl := List.map_eq_nil_iff.mp same
    exact ⟨[], .nil, rfl⟩
  | same m _ ih =>
    obtain ⟨n, ns, rfl, head, behind⟩ := List.map_eq_cons_iff.mp same
    obtain ⟨ns', silenced, same'⟩ := ih behind
    exact ⟨n :: ns', .same n silenced, by simp [head, same']⟩
  | annotated id simple loc whole _ ih =>
    obtain ⟨n, ns, rfl, head, behind⟩ := List.map_eq_cons_iff.mp same
    obtain ⟨ns', silenced, same'⟩ := ih behind
    obtain ⟨loc', whole', rfl⟩ : ∃ loc whole, n = .annotate id simple true loc whole := by
      cases n <;> simp_all [Mention.unplaced]
    exact ⟨_, .annotated id simple loc' whole' silenced, by simp [Mention.unplaced, same']⟩
  | hint _ ih =>
    obtain ⟨n, ns, rfl, head, same⟩ := List.map_eq_cons_iff.mp same
    obtain ⟨n', ns, rfl, head', behind⟩ := List.map_eq_cons_iff.mp same
    obtain rfl : n = .enter .hint := by cases n <;> simp_all [Mention.unplaced]
    obtain rfl : n' = .leave .hint := by cases n' <;> simp_all [Mention.unplaced]
    obtain ⟨ns', silenced, same'⟩ := ih behind
    exact ⟨ns', .hint silenced, same'⟩

/-! ### Names -/

/-- The names of a silenced script can be resolved, if those of its source and of its lowered form
can. -/
theorem Scope.ofScript_silenced {script lowered quiet : List Stmt}
    (valued : valuedBlock script = true)
    (same : unplacedBlock lowered = unplacedBlock (plainScript script))
    (same' : unplacedBlock quiet = unplacedBlock (silencedBlock script)) {later : Bool}
    {scope scope' : Scope} (ok : Scope.ofScript later script = .ok scope)
    (ok' : Scope.ofScript later lowered = .ok scope') :
    ∃ scope, Scope.ofScript later quiet = .ok scope := by
  have hushed := Hushed.block valued
  have places : (mentionsOfBlock quiet).map Mention.unplaced =
      (mentionsOfBlock (silencedBlock script)).map Mention.unplaced := by
    rw [← mentionsOfBlock_unplaced, same', mentionsOfBlock_unplaced]
  -- What stays of the source can be read, as the source can.
  obtain ⟨gs, restored, reads⟩ := hushed.restored places
  obtain ⟨b, whole, resolves⟩ := ofScript_eq_ok.mp ok
  have bound : ∀ m, (m, none) ∈ gs → ∀ n, m.Binds n → BoundByDropped script n :=
    fun m mem n binds => ⟨m, restored_none restored mem, binds⟩
  have whole' : Block.ofMentions later (gs.map Prod.fst) = .ok b := by
    rwa [restored_fst restored, fst_fatesOfBlock]
  obtain ⟨_, stays, -⟩ := ((thinned_fatesOfBlock script).restored restored).resolve bound whole'
    resolves
  obtain ⟨t, read, rfl⟩ := ofMentions_eq_ok.mp stays
  rw [← reads] at read
  -- The lowered form can be read with the places of the silenced script, and its names be resolved.
  obtain ⟨ns, silenced, places'⟩ := hushed.silenced.restored places
  obtain ⟨fs, thinned, -, after, -⟩ := exists_thinned same
  have lowers : ns.map Mention.unplaced = (mentionsOfBlock lowered).map Mention.unplaced := by
    rw [places', snd_fatesOfBlock, ← mentionsOfBlock_unplaced, ← mentionsOfBlock_unplaced, same,
      mentionsOfBlock_unplaced, mentionsOfBlock_unplaced, plainScript, mentionsOfBlock_filled]
  obtain ⟨ls, restored', rfl⟩ := restored_kept lowers
  obtain ⟨b', left, resolves'⟩ := ofScript_eq_ok.mp ok'
  have nothing : ∀ m, (m, none) ∈ ls → ∀ n, m.Binds n → False := fun m mem => by
    simpa [kept] using restored_none restored' mem
  have left' : Block.ofMentions later (ls.map Prod.fst) = .ok b' := by
    rwa [restored_fst restored', fst_kept]
  obtain ⟨_, stays', resolved⟩ := ((after ▸ thinned.left).restored restored').resolve nothing left'
    resolves'
  obtain ⟨t', read', rfl⟩ := ofMentions_eq_ok.mp stays'
  have near : t.unremarked = t'.unremarked := OpenBlocks.unremarked_read silenced rfl read read'
  have alike : t.current.close.resolve none = t'.current.close.resolve none := by
    rw [← Block.resolve_unremarked, ← Block.resolve_unremarked none t'.current.close,
      OpenBlock.unremarked_close, OpenBlock.unremarked_close]
    exact congrArg (fun s : OpenBlocks => s.current.close.resolve none) near
  rcases resolved with ⟨scope, resolved⟩ | ⟨n, place, gone, -⟩
  · exact ⟨scope, ofScript_eq_ok.mpr ⟨_, ofMentions_eq_ok.mpr ⟨t, read, rfl⟩, alike.trans resolved⟩⟩
  · exact gone.elim

/-! ### Places -/

theorem Silenced.suspendsAt {ms ms' : List Mention} (h : Silenced ms ms') (answers : List Bool) :
    Script.suspendsAt answers ms = Script.suspendsAt answers ms' := by
  induction h generalizing answers with
  | nil => rfl
  | same m _ ih =>
    cases m with
    | leave kind =>
      cases kind <;> rcases answers with _ | ⟨_, _ | ⟨_, _⟩⟩ <;> simp [Script.suspendsAt, ih]
    | enter kind => cases kind <;> simp [Script.suspendsAt, ih]
    | _ => simp [Script.suspendsAt, ih]
  | annotated id simple loc whole _ ih => simp [Script.suspendsAt, ih]
  | hint _ ih => simp [Script.suspendsAt, ih]

theorem Silenced.insideFunction {ms ms' : List Mention} (h : Silenced ms ms') (p : Placement)
    (isAsync : Bool) : p.insideFunction isAsync ms = p.insideFunction isAsync ms' := by
  simp only [Placement.insideFunction, Script.yields, Script.suspends, h.yieldsAt 0,
    h.suspendsAt [false]]

theorem isOk_checkParams_silenced (r : Region) (ps : Params Expr) :
    (checkParams r ps.silenced).isOk = (checkParams r ps).isOk := by
  rw [isOk_checkParams_eq, isOk_checkParams_eq, ps.mentions_silenced]

theorem checkDefault_silenced (p : Placement) (ps : List (Param Expr)) :
    checkDefault p (ps.map Param.silenced) = checkDefault p ps := by
  induction ps with
  | nil => rfl
  | cons x ps ih => simp [checkDefault, Param.silenced, ih]

theorem checkDefaults_silenced (p : Placement) (ps : Params Expr) :
    checkDefaults p ps.silenced = checkDefaults p ps := by
  obtain ⟨po, pl, r, ko, kr⟩ := ps
  simp [Params.silenced, checkDefaults, checkDefault_silenced]

/-- Annotations that say nothing have nothing to check in them. -/
theorem isOk_checkAnnotations_silenced (p : Placement) (ps : Params Expr) (ret : Option Expr) :
    (checkAnnotations p ps.silenced (ret.map silence)).isOk = true := by
  have list (qs : List (Param Expr)) : (qs.map Param.silenced).filterMap (Param.annotation ·) =
      (qs.filterMap (Param.annotation ·)).map silence := by
    simp [List.filterMap_map, List.map_filterMap, Function.comp_def, Param.silenced]
  have option {α β : Type} (f : α → β) (x : Option α) : (x.map f).toList = x.toList.map f := by
    cases x <;> rfl
  unfold checkAnnotations
  split
  · rfl
  · simp only [Params.silenced, option, ← List.map_append, list, List.forM_eq_forM, isOk_forM,
      List.all_map, List.all_eq_true]
    exact fun _ _ => rfl

theorem isOk_checkBlock_filled' (p : Placement) (r : Region) (ss : List Stmt) :
    (checkBlock p (filled r ss)).isOk = (checkBlock p ss).isOk := by
  cases ss <;> rfl

/-- An annotated target may stand where an assigned one may. -/
theorem isOk_checkTarget_silenced (p : Placement) (r : Region) (t : Expr) (e : Expr) (simple : Bool) :
    ((checkTarget p t).isOk && (checkAnnotated p r t (silence e) true simple).isOk) =
      (checkTarget p t).isOk := by
  have quiet : checkExpr p (silence e) = .ok () := rfl
  cases t <;> simp [checkTarget, checkAnnotated, quiet]

theorem isOk_bind_congr {ε α : Type} (x : Except ε α) {f g : α → Except ε Unit}
    (same : ∀ a, (f a).isOk = (g a).isOk) : (x >>= f).isOk = (x >>= g).isOk := by
  cases x with
  | error e => rfl
  | ok a => exact same a

theorem isOk_of_bind {ε α : Type} {x : Except ε α} {f : α → Except ε Unit}
    (ok : (x >>= f).isOk = true) : ∃ a, (f a).isOk = true := by
  cases x with
  | error e => cases ok
  | ok a => exact ⟨a, ok⟩

theorem Guarded.congr {p : Placement} {isStar : Bool} {b b' e e' : List Stmt}
    {hs hs' : List (Handler Stmt)} (h : Guarded p isStar b hs e) (missing : hs'.isEmpty = hs.isEmpty)
    (body : ∀ q, (checkBlock q b).isOk = (checkBlock q b').isOk)
    (other : ∀ q, (checkBlock q e).isOk = (checkBlock q e').isOk)
    (handlers : ∀ q, (checkHandlers q hs).isOk = (checkHandlers q hs').isOk) :
    Guarded p isStar b' hs' e' where
  room := missing ▸ h.room
  body := by
    rw [missing, ← body]
    exact h.body
  other := (other p).symm.trans h.other
  handlers := by
    rw [missing, ← handlers]
    exact h.handlers

theorem isEmpty_plainBlock {ss : List Stmt} (h : valuedBlock ss = true) :
    (plainBlock ss).isEmpty = ss.isEmpty := by
  cases ss with
  | nil => rfl
  | cons s ss =>
    cases s with
    | annAssign r t a v simple =>
      cases v with
      | none => cases h
      | some v => rfl
    | _ => rfl

mutual

/-- A silenced statement stands where what is left of it stands, if the statement itself may stand
anywhere at all: a `try` without handlers must have something to do last. -/
theorem isOk_checkStmt_silenced {around : Placement} : ∀ {s : Stmt}, s.valued = true →
    (checkStmt around s).isOk = true → ∀ p : Placement,
    (checkStmt p s.silenced).isOk = (checkBlock p s.plain.toList).isOk
  | .functionDef r isAsync n ps b ds ret, h, ok, p => by
    simp only [checkStmt, isOk_bind_unit, Bool.and_eq_true] at ok
    obtain ⟨-, -, -, -, okBody, -⟩ := ok
    have mentions : p.insideFunction isAsync (mentionsOfBlock (silencedBlock b)) =
        p.insideFunction isAsync (mentionsOfBlock (plainBlock b)) :=
      (Silenced.block (show valuedBlock b = true from h)).insideFunction p isAsync
    simp [Stmt.silenced, Stmt.plain, checkStmt, checkBlock, isOk_checkParams_silenced,
      isOk_checkParams_bare, checkDefaults_silenced, checkDefaults_bare,
      isOk_checkAnnotations_silenced, isOk_checkAnnotations_bare, mentions,
      isOk_checkBlock_filled', isOk_checkBlock_silenced (show valuedBlock b = true from h) okBody]
  | .classDef r n bs ks b ds, h, ok, p => by
    simp only [checkStmt, isOk_bind_unit, Bool.and_eq_true] at ok
    obtain ⟨-, okBody, -⟩ := ok
    simp [Stmt.silenced, Stmt.plain, checkStmt, checkBlock, isOk_checkBlock_filled',
      isOk_checkBlock_silenced (show valuedBlock b = true from h) okBody]
  | .annAssign r t a (some v) simple, _, _, p => by
    have target := isOk_checkTarget_silenced p r t a simple
    simp [Stmt.silenced, Stmt.plain, checkStmt, checkBlock, target]
  | .forLoop r isAsync t s b e, h, ok, p => by
    obtain ⟨hb, he⟩ := Bool.and_eq_true_iff.mp h
    obtain ⟨inside, okBody, okElse⟩ : ∃ q, (checkBlock q b).isOk = true ∧
        (checkBlock around e).isOk = true := by
      cases isAsync with
      | false =>
        simp only [checkStmt, Bool.false_eq_true, ↓reduceIte, isOk_enter_bind, isOk_bind_unit,
          Bool.and_eq_true, decide_eq_true_eq] at ok
        exact ⟨_, ok.2.2.2.1, ok.2.2.2.2⟩
      | true =>
        simp only [checkStmt, ↓reduceIte, bne_iff_ne, ne_eq, ite_not, isOk_ite, isOk_bind_unit,
          isOk_enter_bind, isOk_fail, Bool.false_and, Bool.if_false_right, Bool.and_eq_true,
          decide_eq_true_eq] at ok
        exact ⟨_, ok.2.2.2.2.1, ok.2.2.2.2.2⟩
    cases isAsync <;>
      simp [Stmt.silenced, Stmt.plain, checkStmt, checkBlock, isOk_checkBlock_filled',
        isOk_checkBlock_silenced hb okBody, isOk_checkBlock_silenced he okElse]
  | .whileLoop r t b e, h, ok, p => by
    obtain ⟨hb, he⟩ := Bool.and_eq_true_iff.mp h
    simp only [checkStmt, isOk_enter_bind, isOk_bind_unit, Bool.and_eq_true] at ok
    obtain ⟨-, -, okBody, okElse⟩ := ok
    simp [Stmt.silenced, Stmt.plain, checkStmt, checkBlock, isOk_checkBlock_filled',
      isOk_checkBlock_silenced hb okBody, isOk_checkBlock_silenced he okElse]
  | .ifElse r t b e, h, ok, p => by
    obtain ⟨hb, he⟩ := Bool.and_eq_true_iff.mp h
    simp only [checkStmt, isOk_bind_unit, Bool.and_eq_true] at ok
    obtain ⟨-, okBody, okElse⟩ := ok
    simp [Stmt.silenced, Stmt.plain, checkStmt, checkBlock, isOk_checkBlock_filled',
      isOk_checkBlock_silenced hb okBody, isOk_checkBlock_silenced he okElse]
  | .withBlock r isAsync is b, h, ok, p => by
    obtain ⟨inside, okBody⟩ := isOk_of_bind ok
    have body := isOk_bind_congr (checkWithItems p isAsync r is) fun q =>
      (isOk_checkBlock_silenced (show valuedBlock b = true from h) okBody q).trans
        (isOk_checkBlock_filled' q r (plainBlock b)).symm
    simp only [Stmt.silenced, Stmt.plain, Option.toList_some, checkStmt, checkBlock,
      isOk_bind_unit, body, isOk_ok, Bool.and_true]
  | .matchOn r s cs, h, ok, p => by
    simp only [checkStmt, isOk_bind_unit, Bool.and_eq_true] at ok
    simp [Stmt.silenced, Stmt.plain, checkStmt, checkBlock,
      isOk_checkCases_silenced r (show valuedCases cs = true from h) ok.2]
  | .tryBlock r isStar b hs e f, h, ok, p => by
    obtain ⟨h, hf⟩ := Bool.and_eq_true_iff.mp h
    obtain ⟨h, he⟩ := Bool.and_eq_true_iff.mp h
    obtain ⟨hb, hhs⟩ := Bool.and_eq_true_iff.mp h
    obtain ⟨some, okFinal, -, ⟨-, okBody, okElse, okHandlers⟩, -⟩ := (isOk_checkStmt_try ..).mp ok
    have whole (s : Stmt) (q : Placement) : (checkBlock q [s]).isOk = (checkStmt q s).isOk := by
      simp [checkBlock]
    have final : (if hs.isEmpty then filled r (plainBlock f) else plainBlock f) = plainBlock f := by
      cases handled : hs.isEmpty with
      | false => rfl
      | true =>
        rw [handled, Bool.true_and, ← isEmpty_plainBlock hf] at some
        cases left : plainBlock f with
        | nil => simp [left] at some
        | cons t ts => rfl
    have empty : (silencedBlock f).isEmpty = (plainBlock f).isEmpty := by
      rw [isEmpty_plainBlock hf]
      cases f <;> rfl
    have missing : (silencedHandlers hs).isEmpty = (plainHandlers hs).isEmpty := by cases hs <;> rfl
    have last := isOk_checkBlock_silenced hf okFinal
    simp only [Stmt.silenced, Stmt.plain, Option.toList_some, whole, final]
    rw [Bool.eq_iff_iff, isOk_checkStmt_try, isOk_checkStmt_try, empty, missing, last, last]
    have body (q : Placement) := (isOk_checkBlock_silenced hb okBody q).trans
      (isOk_checkBlock_filled' q r _).symm
    have other := isOk_checkBlock_silenced he okElse
    have handlers := isOk_checkHandlers_silenced hhs okHandlers
    have guarded : Guarded (p.within (!(plainBlock f).isEmpty) (.final none)) isStar
        (silencedBlock b) (silencedHandlers hs) (silencedBlock e) ↔
        Guarded (p.within (!(plainBlock f).isEmpty) (.final none)) isStar
          (filled r (plainBlock b)) (plainHandlers hs) (plainBlock e) :=
      ⟨(.congr · missing.symm body other handlers), (.congr · missing (fun q => (body q).symm)
        (fun q => (other q).symm) fun q => (handlers q).symm)⟩
    rw [guarded]
  | .returnStmt .., _, _, _ | .delete .., _, _, _ | .assign .., _, _, _ | .augAssign .., _, _, _
  | .raise .., _, _, _ | .assert .., _, _, _ | .importModules .., _, _, _
  | .importFrom .., _, _, _ | .global .., _, _, _ | .nonlocal .., _, _, _ | .expr .., _, _, _
  | .pass _, _, _, _ | .breakLoop _, _, _, _ | .continueLoop _, _, _, _ => by
    simp [Stmt.silenced, Stmt.plain, checkBlock]

theorem isOk_checkBlock_silenced {around : Placement} : ∀ {ss : List Stmt},
    valuedBlock ss = true → (checkBlock around ss).isOk = true → ∀ p : Placement,
    (checkBlock p (silencedBlock ss)).isOk = (checkBlock p (plainBlock ss)).isOk
  | [], _, _, _ => rfl
  | s :: ss, h, ok, p => by
    obtain ⟨hs, hss⟩ := Bool.and_eq_true_iff.mp h
    simp only [checkBlock, isOk_bind_unit, Bool.and_eq_true] at ok
    simp [silencedBlock, plainBlock, checkBlock, isOk_checkBlock_append,
      isOk_checkStmt_silenced hs ok.1, isOk_checkBlock_silenced hss ok.2]

theorem isOk_checkHandlers_silenced {around : Placement} : ∀ {hs : List (Handler Stmt)},
    valuedHandlers hs = true → (checkHandlers around hs).isOk = true → ∀ p : Placement,
    (checkHandlers p (silencedHandlers hs)).isOk = (checkHandlers p (plainHandlers hs)).isOk
  | [], _, _, _ => rfl
  | ⟨r, t, n, b⟩ :: hs, h, ok, p => by
    obtain ⟨hb, hhs⟩ := Bool.and_eq_true_iff.mp h
    have last : (silencedHandlers hs).isEmpty = (plainHandlers hs).isEmpty := by cases hs <;> rfl
    simp only [checkHandlers, Bool.and_eq_true, Option.isNone_iff_eq_none,
      Bool.not_eq_eq_eq_not, Bool.not_true, List.isEmpty_eq_false_iff, ne_eq, List.forM_eq_forM,
      isOk_ite, isOk_bind_unit, isOk_fail, isOk_forM, isOk_checkName, isOk_enter_bind,
      Bool.false_and, Bool.if_false_left, Bool.decide_and, decide_not, Bool.not_and, Bool.not_not,
      Bool.or_eq_true, decide_eq_false_iff_not, decide_eq_true_eq, List.all_eq_true,
      Option.mem_toList, bne_iff_ne] at ok
    obtain ⟨-, -, -, -, okBody, okRest⟩ := ok
    simp [silencedHandlers, plainHandlers, checkHandlers, last, isOk_checkBlock_filled',
      isOk_checkBlock_silenced hb okBody, isOk_checkHandlers_silenced hhs okRest]

theorem isOk_checkCases_silenced (r : Region) {around : Placement} :
    ∀ {cs : List (MatchCase Stmt)}, valuedCases cs = true →
    (checkCases around cs).isOk = true → ∀ p : Placement,
    (checkCases p (silencedCases cs)).isOk = (checkCases p (plainCases r cs)).isOk
  | [], _, _, _ => rfl
  | ⟨q, g, b⟩ :: cs, h, ok, p => by
    obtain ⟨hb, hcs⟩ := Bool.and_eq_true_iff.mp h
    have last : (silencedCases cs).isEmpty = (plainCases r cs).isEmpty := by cases cs <;> rfl
    simp only [checkCases, isOk_bind_unit, Bool.and_eq_true] at ok
    obtain ⟨-, -, okBody, okRest⟩ := ok
    simp [silencedCases, plainCases, checkCases, last, isOk_checkBlock_filled',
      isOk_checkBlock_silenced hb okBody, isOk_checkCases_silenced r hcs okRest]

end

/-! ### Imports from the future -/

namespace Future

theorem switched_silencedBlock (f : Future) (ss : List Stmt) :
    switched f (silencedBlock ss) = switched f ss := by
  induction ss generalizing f with
  | nil => rfl
  | cons s ss ih =>
    cases s with
    | importFrom r m ns l =>
      cases m with
      | none => exact ih f
      | some m => simp only [silencedBlock, Stmt.silenced, switched, ih]
    | _ => exact ih f

end Future

/-- A silenced script stands where it may if the script does. -/
theorem checkPlacement_silencedBlock {future : Future} {ss : List Stmt}
    (valued : valuedBlock ss = true) (ok : (checkPlacement future ss).isOk = true) :
    (checkPlacement future (silencedBlock ss)).isOk = true := by
  induction ss with
  | nil => rfl
  | cons s ss ih =>
    obtain ⟨-, valued'⟩ := Bool.and_eq_true_iff.mp valued
    by_cases leader : Future.leads s = true
    · have stays : s.silenced = s := by
        cases s <;> first | rfl | cases leader
      rw [isOk_checkPlacement, List.takeWhile_cons_of_pos leader,
        List.dropWhile_cons_of_pos leader, List.all_cons, Bool.and_assoc, Bool.and_eq_true] at ok
      obtain ⟨okHead, okRest⟩ := ok
      have rest := ih valued' ((isOk_checkPlacement future ss).trans okRest)
      rw [isOk_checkPlacement] at rest ⊢
      rw [silencedBlock, stays, List.takeWhile_cons_of_pos leader,
        List.dropWhile_cons_of_pos leader, List.all_cons, okHead]
      exact rest
    · rw [isOk_checkPlacement, List.takeWhile_cons_of_neg leader,
        List.dropWhile_cons_of_neg leader] at ok
      have same : (topLevel future).Relaxed (topLevel future) := ⟨rfl, rfl, id, .nil⟩
      have plain := same.block (s :: ss) ok
      rw [isOk_checkBlock] at plain
      exact checkPlacement_of_checkBlock ((isOk_checkBlock_silenced valued ok _).trans plain)

/-! ### Depth -/

theorem Expr.one_le_depth (e : Expr) : 1 ≤ e.depth := by
  cases e <;> simp [Expr.depth]

theorem depth_silence (e : Expr) : (silence e).depth ≤ e.depth := e.one_le_depth

theorem depthOfOption_silenced (o : Option Expr) :
    depthOfOption (o.map silence) ≤ depthOfOption o := by
  cases o with
  | none => exact Nat.le_refl 0
  | some e => exact depth_silence e

theorem depthOfParam_silenced (ps : List (Param Expr)) :
    depthOfParam (ps.map Param.silenced) ≤ depthOfParam ps := by
  induction ps with
  | nil => exact Nat.le_refl 0
  | cons p ps ih =>
    have := depthOfOption_silenced p.annotation
    simp only [List.map_cons, Param.silenced, depthOfParam]
    omega

theorem depthOfRest_silenced (p : Option (Param Expr)) :
    depthOfRest (p.map Param.silenced) ≤ depthOfRest p := by
  cases p with
  | none => exact Nat.le_refl 0
  | some p =>
    have := depthOfOption_silenced p.annotation
    simp only [Option.map_some, Param.silenced, depthOfRest]
    omega

theorem depthOfParams_silenced (ps : Params Expr) :
    depthOfParams ps.silenced ≤ depthOfParams ps := by
  obtain ⟨po, pl, r, ko, kr⟩ := ps
  have := depthOfParam_silenced po
  have := depthOfParam_silenced pl
  have := depthOfRest_silenced r
  have := depthOfParam_silenced ko
  have := depthOfRest_silenced kr
  simp only [Params.silenced, depthOfParams]
  omega

mutual

theorem Stmt.depth_silenced : ∀ s : Stmt, s.silenced.depth ≤ s.depth
  | .functionDef _ _ _ ps b _ ret => by
    have := depthOfParams_silenced ps
    have := depthOfBody_silenced b
    have := depthOfOption_silenced ret
    simp only [Stmt.silenced, Stmt.depth, tallest_cons, tallest_nil]
    omega
  | .classDef _ _ _ _ b _ | .withBlock _ _ _ b => by
    have := depthOfBody_silenced b
    simp only [Stmt.silenced, Stmt.depth, tallest_cons, tallest_nil]
    omega
  | .annAssign _ _ a _ _ => by
    have := depth_silence a
    simp only [Stmt.silenced, Stmt.depth]
    omega
  | .forLoop _ _ _ _ b e | .whileLoop _ _ b e | .ifElse _ _ b e => by
    have := depthOfBody_silenced b
    have := depthOfBlock_silenced e
    simp only [Stmt.silenced, Stmt.depth, tallest_cons, tallest_nil]
    omega
  | .matchOn _ _ cs => by
    have := depthOfCases_silenced cs
    simp only [Stmt.silenced, Stmt.depth]
    omega
  | .tryBlock _ _ b hs e f => by
    have := depthOfBody_silenced b
    have := depthOfHandlers_silenced hs
    have := depthOfBlock_silenced e
    have := depthOfBlock_silenced f
    simp only [Stmt.silenced, Stmt.depth, tallest_cons, tallest_nil]
    omega
  | .returnStmt .. | .delete .. | .assign .. | .augAssign .. | .raise .. | .assert ..
  | .importModules .. | .importFrom .. | .global .. | .nonlocal .. | .expr .. | .pass ..
  | .breakLoop .. | .continueLoop .. => Nat.le_refl _

theorem depthOfBlock_silenced : ∀ ss : List Stmt,
    depthOfBlock (silencedBlock ss) ≤ depthOfBlock ss
  | [] => Nat.le_refl 0
  | s :: ss => by
    have := s.depth_silenced
    have := depthOfBlock_silenced ss
    simp only [silencedBlock, depthOfBlock]
    omega

theorem depthOfBody_silenced : ∀ ss : List Stmt,
    depthOfBody (silencedBlock ss) ≤ depthOfBody ss
  | [] => Nat.le_refl 1
  | s :: ss => by
    have := s.depth_silenced
    have := depthOfBlock_silenced ss
    simp only [silencedBlock, depthOfBody]
    omega

theorem depthOfHandlers_silenced : ∀ hs : List (Handler Stmt),
    depthOfHandlers (silencedHandlers hs) ≤ depthOfHandlers hs
  | [] => Nat.le_refl 0
  | ⟨_, _, _, b⟩ :: hs => by
    have := depthOfBody_silenced b
    have := depthOfHandlers_silenced hs
    simp only [silencedHandlers, depthOfHandlers]
    omega

theorem depthOfCases_silenced : ∀ cs : List (MatchCase Stmt),
    depthOfCases (silencedCases cs) ≤ depthOfCases cs
  | [] => Nat.le_refl 0
  | ⟨_, _, b⟩ :: cs => by
    have := depthOfBody_silenced b
    have := depthOfCases_silenced cs
    simp only [silencedCases, depthOfCases]
    omega

end

/-! ### All checks -/

/-- A text that is read as a silenced script passes all checks, if the script does and code that it
is lowered to; and both have the same features switched on. -/
theorem silenced_accepted {text quiet code : String} {script quieted lowered : List Stmt}
    (accepted : parseChecked text = .ok script) (valued : valuedBlock script = true)
    (acceptedToo : parseChecked code = .ok lowered)
    (same : unplacedBlock lowered = unplacedBlock (plainScript script))
    (read : parse quiet = .ok quieted)
    (same' : unplacedBlock quieted = unplacedBlock (silencedBlock script)) :
    parseChecked quiet = .ok quieted ∧ Future.ofScript quieted = Future.ofScript lowered := by
  obtain ⟨-, shallow, ok⟩ := parseChecked_eq_ok.mp accepted
  obtain ⟨future, scope, switches, resolves, placed⟩ := check_eq_ok.mp ok
  obtain ⟨-, -, ok'⟩ := parseChecked_eq_ok.mp acceptedToo
  obtain ⟨future', scope', switches', resolves', placed'⟩ := check_eq_ok.mp ok'
  have sameFuture : Future.ofScript lowered = .ok future := ofScript_of_switched
    (isOk_iff.mpr placed) switches (isOk_iff.mpr placed') same (switched_plainScript _ script)
  obtain rfl : future' = future := Except.ok.inj (switches'.symm.trans sameFuture)
  have stands : (checkPlacement future' quieted).isOk = true := by
    rw [← isOk_checkPlacement_unplaced, same', isOk_checkPlacement_unplaced]
    exact checkPlacement_silencedBlock valued (isOk_iff.mpr placed)
  have switchesQuiet : Future.ofScript quieted = .ok future' := ofScript_of_switched
    (isOk_iff.mpr placed) switches stands same' (Future.switched_silencedBlock _ script)
  obtain ⟨scopeQuiet, resolvesQuiet⟩ :=
    Scope.ofScript_silenced valued same same' resolves resolves'
  have fits : depthOfBlock quieted ≤ greatestDepth := by
    rw [← depthOfBlock_unplaced, same', depthOfBlock_unplaced]
    exact Nat.le_trans (depthOfBlock_silenced script) shallow
  exact ⟨parseChecked_eq_ok.mpr ⟨read, fits, check_eq_ok.mpr
    ⟨future', scopeQuiet, switchesQuiet, resolvesQuiet, isOk_iff.mp stands⟩⟩,
    switchesQuiet.trans switches'.symm⟩

end RuleBench.Script
