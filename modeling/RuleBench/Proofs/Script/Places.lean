import RuleBench.Proofs.Script.Unplaced
import RuleBench.Script.Placement

/-!
# Places do not matter to the checks

A check points at the place of what it refuses, but whether it refuses anything does not depend on
places. Nor does it matter for an expression what stands around it, but for the kind of code.
-/

namespace RuleBench.Script

open Placement

section

variable {ε α : Type}

@[simp] theorem isOk_ok (a : α) : (Except.ok a : Except ε α).isOk = true := rfl

@[simp] theorem isOk_pure (a : α) : (pure a : Except ε α).isOk = true := rfl

@[simp] theorem isOk_error (e : ε) : (Except.error e : Except ε α).isOk = false := rfl

@[simp] theorem isOk_bind_unit (x : Except ε Unit) (f : Unit → Except ε α) :
    (x >>= f).isOk = (x.isOk && (f ()).isOk) := by
  cases x <;> rfl

@[simp] theorem isOk_ite (c : Prop) [Decidable c] (x y : Except ε α) :
    (if c then x else y).isOk = if c then x.isOk else y.isOk := by
  split <;> rfl

@[simp] theorem isOk_forM {β : Type} (f : β → Except ε Unit) (bs : List β) :
    (forM bs f).isOk = bs.all fun b => (f b).isOk := by
  induction bs with
  | nil => rfl
  | cons b bs ih => simp [List.forM_cons, ih]

theorem isOk_iff {x : Except ε Unit} : x.isOk = true ↔ x = .ok () := by
  cases x <;> simp

end

@[simp] theorem isOk_fail (r : Region) (d : Defect) : (fail r d).isOk = false := rfl

@[simp] theorem isOk_checkName (r : Region) (n : String) :
    (checkName r n).isOk = (n != debugName) := by
  by_cases bad : n = debugName <;> simp [checkName, bad]

@[simp] theorem isOk_enter_bind {α : Type} (p : Placement) (r : Region) (e : Enclosing)
    (f : Placement → Except Fault α) :
    (p.enter r e >>= f).isOk = (decide (p.enclosing.length < maxEnclosing) &&
      (f { p with enclosing := e :: p.enclosing }).isOk) := by
  by_cases full : p.enclosing.length ≥ maxEnclosing
  · have deep : ¬ p.enclosing.length < maxEnclosing := Nat.not_lt.mpr full
    rw [enter, if_pos full, decide_eq_false deep, Bool.false_and]
    rfl
  · have shallow : p.enclosing.length < maxEnclosing := Nat.not_le.mp full
    rw [enter, if_neg full, decide_eq_true shallow, Bool.true_and]
    rfl

@[simp] theorem isOk_enterIf_bind {α : Type} (p : Placement) (present : Bool) (r : Region)
    (e : Enclosing) (f : Placement → Except Fault α) :
    (p.enterIf present r e >>= f).isOk =
      (if present then decide (p.enclosing.length < maxEnclosing) &&
        (f { p with enclosing := e :: p.enclosing }).isOk else (f p).isOk) := by
  cases present
  · rfl
  · exact isOk_enter_bind p r e f

@[simp] theorem isOk_checkIf (condition : Bool) (check : Except Fault Unit) :
    (checkIf condition check).isOk = (!condition || check.isOk) := by
  cases condition <;> rfl

theorem unplacedAll_eq (es : List Expr) : unplacedAll es = es.map Expr.unplaced := by
  induction es with
  | nil => rfl
  | cons e es ih => simp [unplacedAll, ih]

theorem suspends_unplaced (ms : List Mention) : suspends (ms.map Mention.unplaced) = suspends ms :=
  suspendsAt_unplaced _ ms

theorem yields_unplaced (ms : List Mention) : yields (ms.map Mention.unplaced) = yields ms :=
  yieldsAt_unplaced _ ms

theorem names_unplacedParamList (ps : List (Param Expr)) :
    (unplacedParamList ps).map Param.name = ps.map Param.name := by
  induction ps with
  | nil => rfl
  | cons p ps ih => simp [unplacedParamList, ih]

theorem names_unplacedRest (p : Option (Param Expr)) :
    (unplacedRest p).toList.map Param.name = p.toList.map Param.name := by
  cases p <;> rfl

theorem isOk_checkParams (r r' : Region) (ps : Params Expr) :
    (checkParams r (unplacedParams ps)).isOk = (checkParams r' ps).isOk := by
  have list : ∀ ps : List (Param Expr), ps.all (fun p => p.name != debugName) =
      (ps.map Param.name).all (· != debugName) := by
    intro ps
    simp [Function.comp_def]
  obtain ⟨po, pl, rest, ko, kr⟩ := ps
  simp only [checkParams, List.forM_eq_forM, isOk_forM, isOk_checkName, list, unplacedParams,
    List.map_append, names_unplacedParamList, names_unplacedRest]

theorem find?_unplacedKeywords (n : String) (ks : List (Keyword Expr)) :
    ((unplacedKeywords ks).find? (·.name == some n)).isSome =
      (ks.find? (·.name == some n)).isSome := by
  induction ks with
  | nil => rfl
  | cons k ks ih =>
    by_cases same : k.name = some n <;> simp [unplacedKeywords, same, ih]

theorem isOk_checkKeywords (r r' : Region) (ks : List (Keyword Expr)) :
    (checkKeywords r (unplacedKeywords ks)).isOk = (checkKeywords r' ks).isOk := by
  induction ks with
  | nil => rfl
  | cons k ks ih =>
    obtain ⟨loc, name, value⟩ := k
    cases name with
    | none => simp [unplacedKeywords, checkKeywords, ih]
    | some n =>
      have again := find?_unplacedKeywords n ks
      simp only [unplacedKeywords, checkKeywords]
      cases found : ks.find? (·.name == some n) <;>
        cases found' : (unplacedKeywords ks).find? (·.name == some n) <;>
        simp_all

theorem isOk_checkStars (r r' : Region) (es : List Expr) :
    (checkStars r (unplacedAll es)).isOk = (checkStars r' es).isOk := by
  have same : Expr.isStarred ∘ Expr.unplaced = Expr.isStarred := by
    funext e
    cases e <;> rfl
  simp only [checkStars, unplacedAll_eq, List.findIdx?_map, ← List.map_drop, List.any_map, same]
  split <;> simp

theorem isOk_checkSuspension {p q : Placement} (kind : p.kind = q.kind) (r r' : Region)
    (form : ComprehensionForm) (b : Bool) :
    (checkSuspension p r form b).isOk = (checkSuspension q r' form b).isOk := by
  simp [checkSuspension, kind]

theorem kind_inside {p q : Placement} (k : CodeKind) : (p.inside k).kind = (q.inside k).kind := rfl

mutual

theorem isOk_checkExpr {p q : Placement} (kind : p.kind = q.kind) : ∀ e : Expr,
    (checkExpr p e.unplaced).isOk = (checkExpr q e).isOk
  | .boolOp _ _ vs | .joined _ vs => isOk_checkAll kind vs
  | .named _ t v => by
    simp [Expr.unplaced, checkExpr, isOk_checkExpr kind v, isOk_checkTarget kind t]
  | .binOp _ a _ b | .subscript _ a b => by
    simp [Expr.unplaced, checkExpr, isOk_checkExpr kind a, isOk_checkExpr kind b]
  | .unaryOp _ _ v | .member _ v _ => isOk_checkExpr kind v
  | .lambda r ps b => by
    simp [Expr.unplaced, checkExpr, isOk_checkParams default r ps, isOk_checkDefaults kind ps,
      isOk_checkExpr (kind_inside (p := p) (q := q) .lambda) b]
  | .ifElse _ t b e => by
    simp [Expr.unplaced, checkExpr, isOk_checkExpr kind t, isOk_checkExpr kind b,
      isOk_checkExpr kind e]
  | .dict _ is => isOk_checkItems kind is
  | .set _ es | .list _ es | .tuple _ es => isOk_checkElements kind es
  | .comprehension r k e cs => by
    have inner : (p.inside .comprehension).kind = (q.inside .comprehension).kind := rfl
    simp only [Expr.unplaced, checkExpr, isOk_bind_unit, e.mentions_unplaced,
      mentionsOfClauses_unplaced true cs, ← List.map_append, suspends_unplaced,
      isOk_checkSuspension kind default r, isOk_checkClauses inner rfl default r true cs,
      isOk_checkExpr inner e, isOk_checkFirst kind cs]
  | .dictComprehension r k v cs => by
    have inner : (p.inside .comprehension).kind = (q.inside .comprehension).kind := rfl
    simp only [Expr.unplaced, checkExpr, isOk_bind_unit, k.mentions_unplaced, v.mentions_unplaced,
      mentionsOfClauses_unplaced true cs, ← List.map_append, suspends_unplaced,
      isOk_checkSuspension kind default r, isOk_checkClauses inner rfl default r true cs,
      isOk_checkExpr inner k, isOk_checkExpr inner v, isOk_checkFirst kind cs]
  | .await _ v => by simp [Expr.unplaced, checkExpr, kind, isOk_checkExpr kind v]
  | .yield _ v => by simp [Expr.unplaced, checkExpr, kind, isOk_checkOption kind v]
  | .yieldFrom _ v => by simp [Expr.unplaced, checkExpr, kind, isOk_checkExpr kind v]
  | .compare _ a cs => by
    simp [Expr.unplaced, checkExpr, isOk_checkExpr kind a, isOk_checkChain kind cs]
  | .call r f as ks => by
    simp [Expr.unplaced, checkExpr, isOk_checkKeywords default r ks, isOk_checkExpr kind f,
      isOk_checkElements kind as, isOk_checkValues kind ks]
  | .formatted _ v _ s => by
    simp [Expr.unplaced, checkExpr, isOk_checkExpr kind v, isOk_checkOption kind s]
  | .literal .. | .starred .. | .name .. => rfl
  | .slice _ l u s => by
    simp [Expr.unplaced, checkExpr, isOk_checkOption kind l, isOk_checkOption kind u,
      isOk_checkOption kind s]

theorem isOk_checkTarget {p q : Placement} (kind : p.kind = q.kind) : ∀ e : Expr,
    (checkTarget p e.unplaced).isOk = (checkTarget q e).isOk
  | .name .. => by simp [Expr.unplaced, checkTarget]
  | .member _ v _ => by simp [Expr.unplaced, checkTarget, isOk_checkExpr kind v]
  | .subscript _ v i => by
    simp [Expr.unplaced, checkTarget, isOk_checkExpr kind v, isOk_checkExpr kind i]
  | .list r es | .tuple r es => by
    simp [Expr.unplaced, checkTarget, isOk_checkStars default r es, isOk_checkTargets kind es]
  | .starred .. | .boolOp .. | .named .. | .binOp .. | .unaryOp .. | .lambda .. | .ifElse ..
  | .dict .. | .set .. | .comprehension .. | .dictComprehension .. | .await .. | .yield ..
  | .yieldFrom .. | .compare .. | .call .. | .formatted .. | .joined .. | .literal ..
  | .slice .. => rfl

theorem isOk_checkTargets {p q : Placement} (kind : p.kind = q.kind) : ∀ es : List Expr,
    (checkTargets p (unplacedAll es)).isOk = (checkTargets q es).isOk
  | [] => rfl
  | e :: es => by
    have head := isOk_checkTarget kind e
    have rest := isOk_checkTargets kind es
    cases e with
    | starred r v => simp [unplacedAll, Expr.unplaced, checkTargets, rest, isOk_checkTarget kind v]
    | _ =>
      simp only [Expr.unplaced] at head
      simp only [unplacedAll, Expr.unplaced, checkTargets, isOk_bind_unit, rest, head]

theorem isOk_checkAll {p q : Placement} (kind : p.kind = q.kind) : ∀ es : List Expr,
    (checkAll p (unplacedAll es)).isOk = (checkAll q es).isOk
  | [] => rfl
  | e :: es => by simp [unplacedAll, checkAll, isOk_checkExpr kind e, isOk_checkAll kind es]

theorem isOk_checkElements {p q : Placement} (kind : p.kind = q.kind) : ∀ es : List Expr,
    (checkElements p (unplacedAll es)).isOk = (checkElements q es).isOk
  | [] => rfl
  | e :: es => by
    have head := isOk_checkExpr kind e
    have rest := isOk_checkElements kind es
    cases e with
    | starred r v => simp [unplacedAll, Expr.unplaced, checkElements, rest, isOk_checkExpr kind v]
    | _ =>
      simp only [Expr.unplaced] at head
      simp only [unplacedAll, Expr.unplaced, checkElements, isOk_bind_unit, rest, head]

theorem isOk_checkOption {p q : Placement} (kind : p.kind = q.kind) : ∀ o : Option Expr,
    (checkOption p (unplacedOption o)).isOk = (checkOption q o).isOk
  | none => rfl
  | some e => isOk_checkExpr kind e

theorem isOk_checkItems {p q : Placement} (kind : p.kind = q.kind) : ∀ is : List (DictItem Expr),
    (checkItems p (unplacedItems is)).isOk = (checkItems q is).isOk
  | [] => rfl
  | ⟨k, v⟩ :: is => by
    simp [unplacedItems, checkItems, isOk_checkOption kind k, isOk_checkExpr kind v,
      isOk_checkItems kind is]

theorem isOk_checkChain {p q : Placement} (kind : p.kind = q.kind) :
    ∀ cs : List (Comparand Expr), (checkChain p (unplacedChain cs)).isOk = (checkChain q cs).isOk
  | [] => rfl
  | ⟨_, e⟩ :: cs => by
    simp [unplacedChain, checkChain, isOk_checkExpr kind e, isOk_checkChain kind cs]

theorem isOk_checkValues {p q : Placement} (kind : p.kind = q.kind) :
    ∀ ks : List (Keyword Expr),
      (checkValues p (unplacedKeywords ks)).isOk = (checkValues q ks).isOk
  | [] => rfl
  | ⟨_, _, v⟩ :: ks => by
    simp [unplacedKeywords, checkValues, isOk_checkExpr kind v, isOk_checkValues kind ks]

theorem isOk_checkFirst {p q : Placement} (kind : p.kind = q.kind) :
    ∀ cs : List (Clause Expr), (checkFirst p (unplacedClauses cs)).isOk = (checkFirst q cs).isOk
  | [] => rfl
  | ⟨_, _, s, _⟩ :: _ => isOk_checkExpr kind s

theorem isOk_checkClauses {p q : Placement} (kind : p.kind = q.kind)
    (height : p.enclosing.length = q.enclosing.length) (r r' : Region) (first : Bool) :
    ∀ cs : List (Clause Expr),
      (checkClauses p r first (unplacedClauses cs)).isOk = (checkClauses q r' first cs).isOk
  | [] => rfl
  | ⟨isAsync, t, s, is⟩ :: cs => by
    have source := isOk_checkExpr kind s
    cases isAsync with
    | false =>
      have rest := isOk_checkClauses kind height r r' false cs
      cases first <;> simp [unplacedClauses, checkClauses, source, isOk_checkTarget kind t,
        isOk_checkAll kind is, rest]
    | true =>
      let deeper (p : Placement) : Placement := { p with enclosing := .other :: p.enclosing }
      have inner : (deeper p).kind = (deeper q).kind := kind
      have target := isOk_checkTarget inner t
      have conditions := isOk_checkAll inner is
      have rest := isOk_checkClauses inner (by simp [deeper, height]) r r' false cs
      cases first <;> simp [unplacedClauses, checkClauses, source, height, deeper,
        target, conditions, rest]

theorem isOk_checkDefault {p q : Placement} (kind : p.kind = q.kind) : ∀ ps : List (Param Expr),
    (checkDefault p (unplacedParamList ps)).isOk = (checkDefault q ps).isOk
  | [] => rfl
  | ⟨_, _, _, d⟩ :: ps => by
    simp [unplacedParamList, checkDefault, isOk_checkOption kind d, isOk_checkDefault kind ps]

theorem isOk_checkDefaults {p q : Placement} (kind : p.kind = q.kind) : ∀ ps : Params Expr,
    (checkDefaults p (unplacedParams ps)).isOk = (checkDefaults q ps).isOk
  | ⟨po, pl, _, ko, _⟩ => by
    simp [unplacedParams, checkDefaults, isOk_checkDefault kind po, isOk_checkDefault kind pl,
      isOk_checkDefault kind ko]

end

mutual

theorem isOk_checkDeleted {p q : Placement} (kind : p.kind = q.kind) : ∀ e : Expr,
    (checkDeleted p e.unplaced).isOk = (checkDeleted q e).isOk
  | .name .. => by simp [Expr.unplaced, checkDeleted]
  | .member _ v _ => isOk_checkExpr kind v
  | .subscript _ v i => by
    simp [Expr.unplaced, checkDeleted, isOk_checkExpr kind v, isOk_checkExpr kind i]
  | .list _ es | .tuple _ es => isOk_checkDeletions kind es
  | .starred .. | .boolOp .. | .named .. | .binOp .. | .unaryOp .. | .lambda .. | .ifElse ..
  | .dict .. | .set .. | .comprehension .. | .dictComprehension .. | .await .. | .yield ..
  | .yieldFrom .. | .compare .. | .call .. | .formatted .. | .joined .. | .literal ..
  | .slice .. => rfl

theorem isOk_checkDeletions {p q : Placement} (kind : p.kind = q.kind) : ∀ es : List Expr,
    (checkDeletions p (unplacedAll es)).isOk = (checkDeletions q es).isOk
  | [] => rfl
  | e :: es => by
    simp [unplacedAll, checkDeletions, isOk_checkDeleted kind e, isOk_checkDeletions kind es]

end

/-! ### Patterns -/

theorem ofExpr?_unplaced (e : Expr) : Constant.ofExpr? e.unplaced = Constant.ofExpr? e := by
  cases e with
  | unaryOp _ o a => cases o <;> cases a <;> rfl
  | binOp _ a o b =>
    cases b with
    | literal _ v =>
      cases v <;> try rfl
      cases a with
      | unaryOp _ o' b => cases o' <;> cases b <;> rfl
      | _ => rfl
    | _ => rfl
  | _ => rfl

theorem isComparable_unplaced (e : Expr) : isComparable e.unplaced = isComparable e := by
  have same := ofExpr?_unplaced e
  cases e <;> simp_all [isComparable, Expr.unplaced]

theorem isOk_checkPatternKeys {p q : Placement} (kind : p.kind = q.kind) (r r' : Region)
    (seen : List Constant) (ks : List Expr) :
    (checkPatternKeys p r seen (unplacedAll ks)).isOk = (checkPatternKeys q r' seen ks).isOk := by
  induction ks generalizing seen with
  | nil => rfl
  | cons k ks ih =>
    simp only [unplacedAll, checkPatternKeys, ofExpr?_unplaced, isComparable_unplaced]
    cases Constant.ofExpr? k with
    | some v => simp [ih]
    | none => simp [isOk_checkExpr kind k, ih]

section

variable {ε α β γ δ : Type}

/-- Two computations end alike: both fail, or both give results that are related. -/
inductive Ends (R : α → β → Prop) : Except ε α → Except ε β → Prop where
  | ok {a : α} {b : β} (related : R a b) : Ends R (.ok a) (.ok b)
  | error (e e' : ε) : Ends R (.error e) (.error e')

namespace Ends

variable {R : α → β → Prop} {S : γ → δ → Prop} {x : Except ε α} {y : Except ε β}

theorem bind {f : α → Except ε γ} {g : β → Except ε δ} (h : Ends R x y)
    (next : ∀ a b, R a b → Ends S (f a) (g b)) : Ends S (x >>= f) (y >>= g) := by
  cases h with
  | ok related => exact next _ _ related
  | error e e' => exact .error e e'

/-- Checks that agree on whether to go on. -/
theorem guard {x y : Except ε Unit} (h : x.isOk = y.isOk) {f : Unit → Except ε γ}
    {g : Unit → Except ε δ} (next : Ends S (f ()) (g ())) : Ends S (x >>= f) (y >>= g) := by
  cases x with
  | ok a => cases y with
    | ok b => exact next
    | error e => simp at h
  | error e => cases y with
    | ok b => simp at h
    | error e' => exact .error e e'

theorem ite {c : Prop} [Decidable c] {x' : Except ε α} {y' : Except ε β} (h : Ends R x y)
    (h' : Ends R x' y') : Ends R (if c then x else x') (if c then y else y') := by
  split <;> assumption

theorem isOk (h : Ends R x y) : x.isOk = y.isOk := by
  cases h <;> rfl

end Ends

end

/-- Patterns may have captured the same names when they were looked at in different places. -/
def Captures.Alike (c d : Captures) : Prop := c.names = d.names

theorem ends_store {c d : Captures} (h : c.Alike d) (n : Option String) :
    Ends Captures.Alike (c.store n) (d.store n) := by
  cases n with
  | none => exact .ok h
  | some n =>
    refine .guard (by simp) ?_
    rw [show d.names = c.names from h.symm]
    by_cases twice : c.names.contains n <;> simp only [twice]
    · exact .error _ _
    · exact .ok rfl

/-- The names that alternatives capture are new. -/
theorem ends_storeAll {c d : Captures} (h : c.Alike d) {here here' r r' : Region}
    (names : List String) :
    Ends Captures.Alike
      (names.foldlM (fun c n => do
        if c.names.contains n then fail here (.patternNameTwice n)
        return { c with names := c.names ++ [n] }) ({ c with here := r } : Captures))
      (names.foldlM (fun c n => do
        if c.names.contains n then fail here' (.patternNameTwice n)
        return { c with names := c.names ++ [n] }) ({ d with here := r' } : Captures)) := by
  induction names generalizing c d r r' with
  | nil => exact .ok h
  | cons n names ih =>
    simp only [List.foldlM_cons]
    refine .bind (R := Captures.Alike) ?_ fun _ _ h => ih h
    simp only [show d.names = c.names from h.symm]
    exact .ite (.error _ _) (.ok rfl)

theorem lookup_isSome {α : Type} (n : String) (ns : List (String × α)) :
    (ns.lookup n).isSome = (ns.map Prod.fst).contains n := by
  induction ns with
  | nil => rfl
  | cons x ns ih =>
    obtain ⟨m, a⟩ := x
    by_cases same : n = m
    · simp [same]
    · simp [List.lookup_cons, same, beq_eq_false_iff_ne.mpr same, ih]

theorem ends_checkAttributes (r r' : Region) : ∀ ns ms : List (String × Region),
    ns.map Prod.fst = ms.map Prod.fst →
      Ends (fun _ _ => True) (checkAttributes r ns) (checkAttributes r' ms)
  | [], [], _ => .ok trivial
  | (n, loc) :: ns, (m, loc') :: ms, same => by
    obtain ⟨rfl, rest⟩ : n = m ∧ ns.map Prod.fst = ms.map Prod.fst := by simpa using same
    refine .guard (by simp) ?_
    have again : (ns.lookup n).isSome = (ms.lookup n).isSome := by
      rw [lookup_isSome, lookup_isSome, rest]
    cases found : ns.lookup n <;> cases found' : ms.lookup n
    · exact ends_checkAttributes loc loc' ns ms rest
    · simp [found, found'] at again
    · simp [found, found'] at again
    · exact .error _ _

theorem unplacedPatterns_eq (xs : List Pattern) :
    unplacedPatterns xs = xs.map Pattern.unplaced := by
  induction xs with
  | nil => rfl
  | cons x xs ih => simp [unplacedPatterns, ih]

theorem isStar_unplaced (x : Pattern) : x.unplaced.isStar = x.isStar := by
  cases x <;> rfl

theorem isWildcard_unplaced (x : Pattern) : x.unplaced.isWildcard = x.isWildcard := by
  cases x with
  | capture _ p n => cases p <;> cases n <;> rfl
  | _ => rfl

theorem isStarWildcard_unplaced (x : Pattern) : x.unplaced.isStarWildcard = x.isStarWildcard := by
  cases x with
  | star _ n => cases n <;> rfl
  | _ => rfl

theorem covers_unplaced (skip : Skipped) (q : Pattern) : skip.covers q.unplaced = skip.covers q := by
  cases skip <;> simp [Skipped.covers, isWildcard_unplaced, isStarWildcard_unplaced]

mutual

theorem ends_checkPattern {p q : Placement} (kind : p.kind = q.kind) (last : Bool)
    {c d : Captures} (h : c.Alike d) : ∀ x : Pattern,
      Ends Captures.Alike (checkPattern p last c x.unplaced) (checkPattern q last d x)
  | .value r v => by
    simp only [Pattern.unplaced, checkPattern, isComparable_unplaced]
    cases isComparable v
    · exact .error _ _
    · exact .guard (isOk_checkExpr kind v) (.ok h)
  | .singleton .. => .ok h
  | .star r n => ends_store (c := { c with here := default }) (d := { d with here := r }) h n
  | .capture r none n => by
    simp only [Pattern.unplaced, unplacedPattern, checkPattern]
    cases last
    · exact .error _ _
    · exact ends_store (c := { c with here := default }) (d := { d with here := r }) h n
  | .capture r (some x) n =>
    .bind (ends_checkPattern kind last (c := { c with here := default })
      (d := { d with here := r }) h x) fun _ _ h => ends_store h n
  | .sequence r xs => by
    have parts : ∀ skip, Ends Captures.Alike
        (checkPatterns p skip { c with here := default } (unplacedPatterns xs))
        (checkPatterns q skip { d with here := r } xs) :=
      fun skip => ends_checkPatterns kind skip (c := ⟨c.names, default⟩) (d := ⟨d.names, r⟩) h xs
    have stars : ((unplacedPatterns xs).filter Pattern.isStar).length =
        (xs.filter Pattern.isStar).length := by
      simp [unplacedPatterns_eq, List.filter_map, Function.comp_def, isStar_unplaced]
    have bare : (unplacedPatterns xs).all (fun x => x.isWildcard || x.isStarWildcard) =
        xs.all (fun x => x.isWildcard || x.isStarWildcard) := by
      simp [unplacedPatterns_eq, Function.comp_def, isWildcard_unplaced, isStarWildcard_unplaced]
    have open' : (unplacedPatterns xs).any Pattern.isStarWildcard =
        xs.any Pattern.isStarWildcard := by
      simp [unplacedPatterns_eq, Function.comp_def, isStarWildcard_unplaced]
    have place : (unplacedPatterns xs).findIdx? Pattern.isStar = xs.findIdx? Pattern.isStar := by
      simp [unplacedPatterns_eq, List.findIdx?_map, Function.comp_def, isStar_unplaced]
    simp only [Pattern.unplaced, checkPattern, stars, bare, open', place]
    exact .ite (.error _ _) (.ite (.ok h) (.ite (parts _) (.ite (.error _ _) (parts _))))
  | .mapping r ks xs rest =>
    .guard (isOk_checkPatternKeys kind default r [] ks)
      (.bind (ends_checkPatterns kind .none (c := { c with here := default })
        (d := { d with here := r }) h xs) fun _ _ h => ends_store h rest)
  | .classPattern r cls xs names ys => by
    have places : (names.zip ((unplacedPatterns ys).map Pattern.loc)).map Prod.fst =
        (names.zip (ys.map Pattern.loc)).map Prod.fst := by
      simp [unplacedPatterns_eq, List.zip_map_right]
    refine .bind (ends_checkAttributes default r _ _ places) fun here here' _ => ?_
    refine .guard (isOk_checkExpr kind cls) ?_
    exact .bind (ends_checkPatterns kind .wildcards (c := ⟨c.names, here⟩)
      (d := ⟨d.names, here'⟩) h xs) fun _ _ h => ends_checkPatterns kind .wildcards h ys
  | .alternatives r xs => by
    refine .bind (ends_checkAlternatives kind last default r none xs) fun a b same => ?_
    simp only [same]
    exact ends_storeAll h b.1

theorem ends_checkPatterns {p q : Placement} (kind : p.kind = q.kind) (skip : Skipped)
    {c d : Captures} (h : c.Alike d) : ∀ xs : List Pattern,
      Ends Captures.Alike (checkPatterns p skip c (unplacedPatterns xs))
        (checkPatterns q skip d xs)
  | [] => .ok h
  | x :: xs => by
    simp only [unplacedPatterns, checkPatterns, covers_unplaced]
    cases skip.covers x
    · exact .bind (ends_checkPattern kind true h x) fun _ _ h => ends_checkPatterns kind skip h xs
    · exact ends_checkPatterns kind skip h xs

theorem ends_checkAlternatives {p q : Placement} (kind : p.kind = q.kind) (last : Bool)
    (here here' : Region) (names : Option (List String)) : ∀ xs : List Pattern,
      Ends (fun a b => a.1 = b.1) (checkAlternatives p last here names (unplacedPatterns xs))
        (checkAlternatives q last here' names xs)
  | [] => .ok rfl
  | x :: xs => by
    have bare : (unplacedPatterns xs).isEmpty = xs.isEmpty := by cases xs <;> rfl
    simp only [unplacedPatterns, checkAlternatives, bare]
    refine .bind (ends_checkPattern kind (last && xs.isEmpty) (c := ⟨[], x.unplaced.loc⟩)
      (d := ⟨[], x.loc⟩) rfl x) fun c d same => ?_
    cases names with
    | none =>
      rw [show d.names = c.names from same.symm]
      exact ends_checkAlternatives kind last _ _ _ xs
    | some first =>
      simp only [show d.names = c.names from same.symm]
      exact .ite (.error _ _) (ends_checkAlternatives kind last _ _ _ xs)

end

/-! ### Statements -/

theorem isOk_checkCasePattern {p q : Placement} (kind : p.kind = q.kind) (last : Bool)
    (x : Pattern) : (checkCasePattern p last x.unplaced).isOk = (checkCasePattern q last x).isOk :=
  Ends.isOk (.bind (R := Captures.Alike)
    (ends_checkPattern kind last (c := ⟨[], x.unplaced.loc⟩) (d := ⟨[], x.loc⟩) rfl x)
    fun _ _ _ => .ok (R := fun _ _ => True) trivial)

theorem ends_leave (toLoop : Bool) (r r' : Region) (es : List Enclosing) :
    Ends (· = ·) (leave toLoop r es) (leave toLoop r' es) := by
  induction es with
  | nil => exact .ok rfl
  | cons e es ih =>
    cases e with
    | loop => cases toLoop <;> first | exact ih | exact .ok rfl
    | groupHandler => exact .error _ _
    | final f => cases f <;> first | exact ih | exact .error _ _
    | other => exact ih

theorem annotations_unplacedParamList (ps : List (Param Expr)) :
    (unplacedParamList ps).filterMap (Param.annotation ·) =
      (ps.filterMap (Param.annotation ·)).map Expr.unplaced := by
  induction ps with
  | nil => rfl
  | cons p ps ih =>
    obtain ⟨_, _, a, _⟩ := p
    cases a <;> simp [unplacedParamList, unplacedOption, ih]

theorem isOk_checkAnnotations (p : Placement) (ps : Params Expr) (r : Option Expr) :
    (checkAnnotations p (unplacedParams ps) (unplacedOption r)).isOk =
      (checkAnnotations p ps r).isOk := by
  have rest : ∀ x : Option (Param Expr), (unplacedRest x).toList.filterMap (Param.annotation ·) =
      (x.toList.filterMap (Param.annotation ·)).map Expr.unplaced := by
    intro x
    obtain _ | ⟨_, _, a, _⟩ := x
    · rfl
    · cases a <;> rfl
  have result : (unplacedOption r).toList = r.toList.map Expr.unplaced := by cases r <;> rfl
  obtain ⟨po, pl, x, ko, kx⟩ := ps
  simp only [checkAnnotations, unplacedParams, List.filterMap_append,
    annotations_unplacedParamList, rest, result, ← List.map_append, isOk_ite, List.forM_eq_forM,
    isOk_forM, List.all_map, Function.comp_def]
  split
  · rfl
  · refine congrArg (List.all _) (funext fun e => ?_)
    have whole := isOk_checkExpr (p := p) (q := p) rfl e
    cases e with
    | starred _ e => exact isOk_checkExpr rfl e
    | _ => exact whole

theorem isOk_checkAnnotated (p : Placement) (r r' : Region) (t a : Expr) (hasValue simple : Bool) :
    (checkAnnotated p r t.unplaced a.unplaced hasValue simple).isOk =
      (checkAnnotated p r' t a hasValue simple).isOk := by
  have hint := isOk_checkExpr (p := p) rfl a
  cases t <;> simp [checkAnnotated, Expr.unplaced, hint, isOk_checkExpr (p := p) rfl]

theorem isOk_checkAliases (r r' : Region) (ns : List Alias) :
    (checkAliases r (ns.map Alias.unplaced)).isOk = (checkAliases r' ns).isOk := by
  simp [checkAliases, Alias.unplaced]

theorem ends_checkWithItems (isAsync : Bool) (r r' : Region) (is : List WithItem) :
    ∀ p : Placement, Ends (· = ·) (checkWithItems p isAsync r (is.map WithItem.unplaced))
      (checkWithItems p isAsync r' is) := by
  induction is with
  | nil => exact fun p => .ok rfl
  | cons i is ih =>
    intro p
    obtain ⟨context, target⟩ := i
    simp only [List.map_cons, WithItem.unplaced, checkWithItems]
    refine .ite (.error _ _) ?_
    refine .guard (isOk_checkExpr rfl context) ?_
    by_cases full : p.enclosing.length ≥ maxEnclosing
    · simp only [enter, full, if_true]
      exact .error _ _
    · simp only [enter, full, if_false]
      cases target with
      | none => exact ih _
      | some t => exact .guard (isOk_checkTarget rfl t) (ih _)

mutual

theorem isOk_checkStmt (p : Placement) : ∀ s : Stmt,
    (checkStmt p s.unplaced).isOk = (checkStmt p s).isOk
  | .functionDef r isAsync n ps b ds ret => by
    simp [Stmt.unplaced, checkStmt, isOk_checkParams default r ps, isOk_checkAll (p := p) rfl ds,
      isOk_checkDefaults (p := p) rfl ps, isOk_checkAnnotations p ps ret, mentionsOfBlock_unplaced,
      insideFunction, yields_unplaced, suspends_unplaced, isOk_checkBlock _ b]
  | .classDef r n bs ks b ds => by
    simp [Stmt.unplaced, checkStmt, isOk_checkAll (p := p) rfl ds, isOk_checkBlock _ b,
      isOk_checkKeywords default r ks, isOk_checkElements (p := p) rfl bs,
      isOk_checkValues (p := p) rfl ks]
  | .returnStmt r v => by
    have value : (unplacedOption v).isSome = v.isSome := by cases v <;> rfl
    have left := (Ends.bind (S := fun _ _ => True) (ends_leave false default r p.enclosing)
      (f := fun _ => pure ()) (g := fun _ => pure ()) fun _ _ _ => .ok trivial).isOk
    simp only [Stmt.unplaced, checkStmt, value, isOk_bind_unit, isOk_ite, isOk_fail,
      isOk_checkOption (p := p) rfl v, left]
  | .delete _ ts => isOk_checkDeletions rfl ts
  | .assign _ ts v => by
    simp [Stmt.unplaced, checkStmt, isOk_checkExpr (p := p) rfl v, unplacedAll_eq,
      isOk_checkTarget (p := p) rfl]
  | .augAssign _ t _ v => by
    have target := isOk_checkTarget (p := p) rfl t
    have value := isOk_checkExpr (p := p) rfl v
    cases t <;> simp_all [Stmt.unplaced, Expr.unplaced, checkStmt]
  | .annAssign r t a v simple => by
    have annotated := isOk_checkAnnotated p default r t a
    cases v <;> simp [Stmt.unplaced, unplacedOption, checkStmt, annotated,
      isOk_checkExpr (p := p) rfl, isOk_checkTarget (p := p) rfl]
  | .forLoop r isAsync t s b e => by
    have target (q : Placement) := isOk_checkTarget (p := q) rfl t
    have source (q : Placement) := isOk_checkExpr (p := q) rfl s
    cases isAsync <;> simp [Stmt.unplaced, checkStmt, source, target, isOk_checkBlock _ b,
      isOk_checkBlock p e]
  | .whileLoop r t b e => by
    have test (q : Placement) := isOk_checkExpr (p := q) rfl t
    simp [Stmt.unplaced, checkStmt, test, isOk_checkBlock _ b, isOk_checkBlock p e]
  | .ifElse _ t b e => by
    simp [Stmt.unplaced, checkStmt, isOk_checkExpr (p := p) rfl t, isOk_checkBlock p b,
      isOk_checkBlock p e]
  | .withBlock r isAsync is b => by
    have items := ends_checkWithItems isAsync default r is p
    simp only [Stmt.unplaced, checkStmt]
    generalize checkWithItems p isAsync r is = x at items ⊢
    generalize checkWithItems p isAsync default (is.map WithItem.unplaced) = y at items ⊢
    cases items with
    | ok same => exact same ▸ isOk_checkBlock _ b
    | error => rfl
  | .matchOn _ s cs => by
    simp [Stmt.unplaced, checkStmt, isOk_checkExpr (p := p) rfl s, isOk_checkCases p cs]
  | .raise _ e c => by
    simp [Stmt.unplaced, checkStmt, isOk_checkOption (p := p) rfl e, isOk_checkOption (p := p) rfl c]
  | .tryBlock r isStar b hs e f => by
    have final := isOk_checkBlock p f
    have noHandler : (unplacedHandlers hs).isEmpty = hs.isEmpty := by cases hs <;> rfl
    have noFinal : (unplacedBlock f).isEmpty = f.isEmpty := by cases f <;> rfl
    simp only [Stmt.unplaced, checkStmt, noHandler, noFinal]
    cases settled : checkBlock p f with
    | error fault =>
      cases settled' : checkBlock p (unplacedBlock f) with
      | error fault' => simp [faultOf?]
      | ok => simp [settled, settled'] at final
    | ok =>
      cases settled' : checkBlock p (unplacedBlock f) with
      | error fault' => simp [settled, settled'] at final
      | ok =>
        simp [faultOf?, isOk_checkBlock _ b, isOk_checkBlock _ e, isOk_checkHandlers _ hs,
          isOk_checkBlock _ f]
  | .assert _ t m => by
    simp [Stmt.unplaced, checkStmt, isOk_checkExpr (p := p) rfl t, isOk_checkOption (p := p) rfl m]
  | .importModules _ ns => by
    simp [Stmt.unplaced, checkStmt, Alias.unplaced, Alias.boundName]
  | .importFrom r m ns _ => by
    simp [Stmt.unplaced, checkStmt, isOk_checkAliases default r ns]
  | .expr _ e => isOk_checkExpr rfl e
  | .global .. | .nonlocal .. | .pass _ => rfl
  | .breakLoop r | .continueLoop r => by
    refine Ends.isOk (R := fun _ _ => True) (.bind (ends_leave true default r p.enclosing) ?_)
    rintro found _ rfl
    exact .ite (.error _ _) (.ok trivial)

theorem isOk_checkBlock (p : Placement) : ∀ ss : List Stmt,
    (checkBlock p (unplacedBlock ss)).isOk = (checkBlock p ss).isOk
  | [] => rfl
  | s :: ss => by simp [unplacedBlock, checkBlock, isOk_checkStmt p s, isOk_checkBlock p ss]

theorem isOk_checkHandlers (p : Placement) : ∀ hs : List (Handler Stmt),
    (checkHandlers p (unplacedHandlers hs)).isOk = (checkHandlers p hs).isOk
  | [] => rfl
  | ⟨r, t, n, b⟩ :: hs => by
    have last : (unplacedHandlers hs).isEmpty = hs.isEmpty := by cases hs <;> rfl
    have typed : (unplacedOption t).isNone = t.isNone := by cases t <;> rfl
    simp [unplacedHandlers, checkHandlers, last, typed, isOk_checkOption (p := p) rfl t,
      isOk_checkBlock _ b, isOk_checkHandlers p hs]

theorem isOk_checkCases (p : Placement) : ∀ cs : List (MatchCase Stmt),
    (checkCases p (unplacedCases cs)).isOk = (checkCases p cs).isOk
  | [] => rfl
  | ⟨x, g, b⟩ :: cs => by
    have last : (unplacedCases cs).isEmpty = cs.isEmpty := by cases cs <;> rfl
    have guarded : (unplacedOption g).isSome = g.isSome := by cases g <;> rfl
    simp only [unplacedCases, checkCases, isOk_bind_unit, guarded, last,
      isOk_checkCasePattern (p := p) rfl, isOk_checkOption (p := p) rfl g, isOk_checkBlock p b,
      isOk_checkCases p cs]

end

end RuleBench.Script
