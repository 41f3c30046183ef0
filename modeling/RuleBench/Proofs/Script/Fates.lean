import RuleBench.Proofs.Script.Balanced
import RuleBench.Proofs.Script.Trimmed
import RuleBench.Script.Plain

/-!
# What lowering does to mentions

`fates` lists the mentions of a script together with what becomes of them when the annotations are
taken away: most are kept, those of annotations and of annotated names without a value are left out,
and an annotated name that is given a value becomes an assigned one. Where mentions are left out, no
comprehension is open.
-/

namespace RuleBench.Script

/-- A mention, and what is left of it. -/
abbrev Fate := Mention × Option Mention

/-- Mentions that stay. -/
def kept (ms : List Mention) : List Fate := ms.map fun m => (m, some m)

/-- Mentions that are left out. -/
def dropped (ms : List Mention) : List Fate := ms.map fun m => (m, none)

section

variable (ms ns : List Mention)

@[simp] theorem kept_append : kept (ms ++ ns) = kept ms ++ kept ns := List.map_append

@[simp] theorem fst_kept : (kept ms).map Prod.fst = ms := by
  simp [kept, Function.comp_def]

@[simp] theorem fst_dropped : (dropped ms).map Prod.fst = ms := by
  simp [dropped, Function.comp_def]

@[simp] theorem snd_kept : (kept ms).filterMap Prod.snd = ms := by
  simp [kept, List.filterMap_map]

@[simp] theorem snd_dropped : (dropped ms).filterMap Prod.snd = [] := by
  simp [dropped, List.filterMap_map]

end

mutual

/-- The mentions of a statement with what becomes of them. -/
def Stmt.fates : Stmt → List Fate
  | .functionDef r isAsync n ps b ds ret =>
    kept (.name n .assigned r :: mentionsOfDefaults ps) ++ kept [.enter .hint]
      ++ dropped ps.annotationMentions ++ kept [.leave .hint]
      ++ dropped (match ret with | none => [] | some e => annotationMentions e.mentions)
      ++ kept (mentionsOfAll ds) ++ kept [.enter .function]
      ++ kept ((if isAsync then [.suspends] else []) ++ ps.mentions)
      ++ fatesOfBlock b ++ kept [.leave .function]
  | .classDef r n bs ks b ds =>
    kept (.name n .assigned r :: mentionsOfAll bs ++ mentionsOfKeywords ks ++ mentionsOfAll ds)
      ++ kept [.enter (.classBody n)] ++ fatesOfBlock b ++ kept [.leave (.classBody n)]
  | .annAssign r t a none simple => dropped (Stmt.annAssign r t a none simple).mentions
  | .annAssign r t a (some v) simple =>
    (match t with
      | .name l id => [(.annotate id simple true l r, some (.name id .assigned l))]
      | _ => kept t.bindings)
      ++ dropped (annotationMentions a.mentions) ++ kept v.mentions
  | .forLoop _ _ t s b e =>
    kept (t.bindings ++ s.mentions) ++ fatesOfBlock b ++ fatesOfBlock e
  | .whileLoop _ t b e => kept t.mentions ++ fatesOfBlock b ++ fatesOfBlock e
  | .ifElse _ t b e => kept t.mentions ++ fatesOfBlock b ++ fatesOfBlock e
  | .withBlock _ _ is b => kept (is.flatMap WithItem.mentions) ++ fatesOfBlock b
  | .matchOn _ s cs => kept s.mentions ++ fatesOfCases cs
  | .tryBlock _ _ b hs e f =>
    fatesOfBlock b ++ fatesOfBlock e ++ fatesOfHandlers hs ++ fatesOfBlock f
  | s => kept s.mentions

/-- The mentions of a block with what becomes of them. -/
def fatesOfBlock : List Stmt → List Fate
  | [] => []
  | s :: ss => s.fates ++ fatesOfBlock ss

def fatesOfHandlers : List (Handler Stmt) → List Fate
  | [] => []
  | ⟨r, t, n, b⟩ :: hs =>
    kept (mentionsOfOption t ++ n.toList.map (.name · .assigned r)) ++ fatesOfBlock b
      ++ fatesOfHandlers hs

def fatesOfCases : List (MatchCase Stmt) → List Fate
  | [] => []
  | ⟨p, g, b⟩ :: cs => kept (p.mentions ++ mentionsOfOption g) ++ fatesOfBlock b ++ fatesOfCases cs

end

/-! ### Before and after -/

mutual

theorem Stmt.fst_fates : ∀ s : Stmt, s.fates.map Prod.fst = s.mentions
  | .functionDef _ isAsync _ ps b ds ret => by
    have body := fst_fatesOfBlock b
    cases isAsync <;> cases ret <;>
      simp [Stmt.fates, Stmt.mentions, annotationMentions, body]
  | .classDef _ _ _ _ b _ => by simp [Stmt.fates, Stmt.mentions, fst_fatesOfBlock b]
  | .annAssign _ _ _ none _ => by simp [Stmt.fates]
  | .annAssign _ t _ (some v) _ => by
    cases t <;> simp [Stmt.fates, Stmt.mentions, mentionsOfOption]
  | .forLoop _ _ _ _ b e | .whileLoop _ _ b e | .ifElse _ _ b e => by
    simp [Stmt.fates, Stmt.mentions, fst_fatesOfBlock b, fst_fatesOfBlock e]
  | .withBlock _ _ _ b => by simp [Stmt.fates, Stmt.mentions, fst_fatesOfBlock b]
  | .matchOn _ _ cs => by simp [Stmt.fates, Stmt.mentions, fst_fatesOfCases cs]
  | .tryBlock _ _ b hs e f => by
    simp [Stmt.fates, Stmt.mentions, fst_fatesOfBlock b, fst_fatesOfBlock e, fst_fatesOfBlock f,
      fst_fatesOfHandlers hs]
  | .returnStmt .. | .delete .. | .assign .. | .augAssign .. | .raise .. | .assert ..
  | .importModules .. | .importFrom .. | .global .. | .nonlocal .. | .expr .. | .pass ..
  | .breakLoop .. | .continueLoop .. => by simp [Stmt.fates]

theorem fst_fatesOfBlock : ∀ ss : List Stmt, (fatesOfBlock ss).map Prod.fst = mentionsOfBlock ss
  | [] => rfl
  | s :: ss => by simp [fatesOfBlock, mentionsOfBlock, s.fst_fates, fst_fatesOfBlock ss]

theorem fst_fatesOfHandlers : ∀ hs : List (Handler Stmt),
    (fatesOfHandlers hs).map Prod.fst = mentionsOfHandlers hs
  | [] => rfl
  | ⟨_, _, _, b⟩ :: hs => by
    simp [fatesOfHandlers, mentionsOfHandlers, fst_fatesOfBlock b, fst_fatesOfHandlers hs]

theorem fst_fatesOfCases : ∀ cs : List (MatchCase Stmt),
    (fatesOfCases cs).map Prod.fst = mentionsOfCases cs
  | [] => rfl
  | ⟨_, _, b⟩ :: cs => by
    simp [fatesOfCases, mentionsOfCases, fst_fatesOfBlock b, fst_fatesOfCases cs]

end

theorem mentionsOfBlock_append (ss ts : List Stmt) :
    mentionsOfBlock (ss ++ ts) = mentionsOfBlock ss ++ mentionsOfBlock ts := by
  induction ss with
  | nil => rfl
  | cons s ss ih => simp [mentionsOfBlock, ih]

/-- A `pass` mentions nothing. -/
@[simp] theorem mentionsOfBlock_filled (r : Region) (ss : List Stmt) :
    mentionsOfBlock (filled r ss) = mentionsOfBlock ss := by
  cases ss <;> rfl

theorem Params.mentions_bare (ps : Params Expr) : ps.bare.mentions = ps.mentions := by
  have same : Param.mention ∘ Param.plain = Param.mention := rfl
  have option : ∀ p : Option (Param Expr),
      (p.map Param.plain).toList.map Param.mention = p.toList.map Param.mention := by
    intro p
    cases p <;> rfl
  simp only [Params.mentions, Params.bare, List.map_append, List.map_map, same, option]

theorem mentionsOfDefault_plain (ps : List (Param Expr)) :
    mentionsOfDefault (ps.map Param.plain) = mentionsOfDefault ps := by
  induction ps with
  | nil => rfl
  | cons p ps ih => simp [mentionsOfDefault, Param.plain, ih]

theorem mentionsOfDefaults_bare (ps : Params Expr) :
    mentionsOfDefaults ps.bare = mentionsOfDefaults ps := by
  obtain ⟨po, pl, r, ko, kr⟩ := ps
  simp [Params.bare, mentionsOfDefaults, mentionsOfDefault_plain]

theorem Params.annotationMentions_bare (ps : Params Expr) : ps.bare.annotationMentions = [] := by
  have option : ∀ p : Option (Param Expr), ∀ q ∈ (p.map Param.plain).toList,
      mentionsOfOption q.annotation = [] := by
    intro p
    cases p <;> simp [Param.plain, mentionsOfOption]
  simp only [Params.annotationMentions, Params.bare, List.flatMap_eq_nil_iff, List.mem_append]
  rintro p ((((mem | mem) | mem) | mem) | mem)
  all_goals first
    | exact option _ p mem
    | (obtain ⟨q, -, rfl⟩ := List.mem_map.mp mem; rfl)

mutual

theorem Stmt.snd_fates : ∀ s : Stmt, s.fates.filterMap Prod.snd = mentionsOfBlock s.plain.toList
  | .functionDef _ isAsync _ ps b ds ret => by
    have body := snd_fatesOfBlock b
    cases isAsync <;>
      simp [Stmt.fates, Stmt.plain, mentionsOfBlock, Stmt.mentions, annotationMentions, body,
        ps.mentions_bare, mentionsOfDefaults_bare, ps.annotationMentions_bare]
  | .classDef _ _ _ _ b _ => by
    simp [Stmt.fates, Stmt.plain, mentionsOfBlock, Stmt.mentions, snd_fatesOfBlock b]
  | .annAssign _ _ _ none _ => by simp [Stmt.fates, Stmt.plain, mentionsOfBlock]
  | .annAssign _ t _ (some v) _ => by
    cases t <;>
      simp [Stmt.fates, Stmt.plain, mentionsOfBlock, Stmt.mentions, bindingsOfAll, Expr.bindings]
  | .forLoop _ _ _ _ b e | .whileLoop _ _ b e | .ifElse _ _ b e => by
    simp [Stmt.fates, Stmt.plain, mentionsOfBlock, Stmt.mentions, snd_fatesOfBlock b,
      snd_fatesOfBlock e]
  | .withBlock _ _ _ b => by
    simp [Stmt.fates, Stmt.plain, mentionsOfBlock, Stmt.mentions, snd_fatesOfBlock b]
  | .matchOn r _ cs => by
    simp [Stmt.fates, Stmt.plain, mentionsOfBlock, Stmt.mentions, snd_fatesOfCases r cs]
  | .tryBlock _ _ b hs e f => by
    cases final : hs.isEmpty <;>
      simp [Stmt.fates, Stmt.plain, mentionsOfBlock, Stmt.mentions, final, snd_fatesOfBlock b,
        snd_fatesOfBlock e, snd_fatesOfBlock f, snd_fatesOfHandlers hs]
  | .returnStmt .. | .delete .. | .assign .. | .augAssign .. | .raise .. | .assert ..
  | .importModules .. | .importFrom .. | .global .. | .nonlocal .. | .expr .. | .pass ..
  | .breakLoop .. | .continueLoop .. => by simp [Stmt.fates, Stmt.plain, mentionsOfBlock]

/-- What is left of the mentions of a block are the mentions of the block without annotations. -/
theorem snd_fatesOfBlock : ∀ ss : List Stmt,
    (fatesOfBlock ss).filterMap Prod.snd = mentionsOfBlock (plainBlock ss)
  | [] => rfl
  | s :: ss => by
    simp [fatesOfBlock, plainBlock, mentionsOfBlock_append, s.snd_fates, snd_fatesOfBlock ss]

theorem snd_fatesOfHandlers : ∀ hs : List (Handler Stmt),
    (fatesOfHandlers hs).filterMap Prod.snd = mentionsOfHandlers (plainHandlers hs)
  | [] => rfl
  | ⟨_, _, _, b⟩ :: hs => by
    simp [fatesOfHandlers, plainHandlers, mentionsOfHandlers, snd_fatesOfBlock b,
      snd_fatesOfHandlers hs]

theorem snd_fatesOfCases (r : Region) : ∀ cs : List (MatchCase Stmt),
    (fatesOfCases cs).filterMap Prod.snd = mentionsOfCases (plainCases r cs)
  | [] => rfl
  | ⟨_, _, b⟩ :: cs => by
    simp [fatesOfCases, plainCases, mentionsOfCases, snd_fatesOfBlock b, snd_fatesOfCases r cs]

end

/-! ### Where mentions may be left out -/

/-- Mentions that neither enter nor leave a block. -/
def Mention.IsFlat : Mention → Prop
  | .enter _ | .leave _ => False
  | _ => True

/-- Mentions with what becomes of them, read with the given blocks open: what is left out leaves
every block that it enters, and no comprehension is open there. -/
inductive Thinned : List BlockKind → List Fate → Prop where
  | done {ks : List BlockKind} : Thinned ks []
  | keep {ks : List BlockKind} {m m' : Mention} {fs : List Fate} (flat : m.IsFlat)
      (like : m.Like m') (rest : Thinned ks fs) : Thinned ks ((m, some m') :: fs)
  | enter {ks : List BlockKind} {kind : BlockKind} {fs : List Fate}
      (rest : Thinned (kind :: ks) fs) : Thinned ks ((.enter kind, some (.enter kind)) :: fs)
  | leave {ks : List BlockKind} {kind : BlockKind} {fs : List Fate} (rest : Thinned ks fs) :
      Thinned (kind :: ks) ((.leave kind, some (.leave kind)) :: fs)
  | drop {ks : List BlockKind} {ms : List Mention} {fs : List Fate}
      (settled : ∀ k ∈ ks, k.isComprehension = false) (balanced : Balanced false ms)
      (rest : Thinned ks fs) : Thinned ks (dropped ms ++ fs)

/-- Mentions after which the same blocks are open as before. -/
def Rounded (ks : List BlockKind) (fs : List Fate) : Prop :=
  ∀ ⦃rest : List Fate⦄, Thinned ks rest → Thinned ks (fs ++ rest)

namespace Rounded

variable {ks : List BlockKind} {fs gs : List Fate} {ms : List Mention}

theorem nil : Rounded ks [] := fun _ h => h

theorem append (h : Rounded ks fs) (h' : Rounded ks gs) : Rounded ks (fs ++ gs) := by
  intro rest thinned
  rw [List.append_assoc]
  exact h (h' thinned)

theorem one {m : Mention} (flat : m.IsFlat) : Rounded ks (kept [m]) :=
  fun _ h => .keep flat (.refl m) h

theorem flat (all : ∀ m ∈ ms, m.IsFlat) : Rounded ks (kept ms) := by
  induction ms with
  | nil => exact .nil
  | cons m ms ih =>
    exact append (.one (all m List.mem_cons_self)) (ih fun m mem => all m (List.mem_cons_of_mem _ mem))

theorem block {kind : BlockKind} (inner : Rounded (kind :: ks) fs) :
    Rounded ks (kept [.enter kind] ++ fs ++ kept [.leave kind]) := by
  intro rest h
  rw [List.append_assoc, List.append_assoc]
  exact .enter (inner (.leave h))

theorem balanced {c : Bool} (h : Balanced c ms) : Rounded ks (kept ms) := by
  induction h generalizing ks with
  | nil => exact .nil
  | name | annotate | rebind | bareOnly | yields | suspends => exact .one trivial
  | append _ _ ih ih' =>
    rw [kept_append]
    exact ih.append ih'
  | @block _ kind ms _ _ ih =>
    have inner : Rounded (kind :: ks) (kept ms) := ih
    simpa [kept] using block inner
  | @hint _ ms _ ih =>
    have inner : Rounded (.hint :: ks) (kept ms) := ih
    simpa [annotationMentions, kept] using block inner
  | @source _ ms _ ih =>
    have first : Rounded ks (kept [.enterSource]) := .one trivial
    have last : Rounded ks (kept [.leaveSource]) := .one trivial
    simpa [kept] using (first.append ih).append last
  | @target ms _ ih =>
    have first : Rounded ks (kept [.enterTarget]) := .one trivial
    have last : Rounded ks (kept [.leaveTarget]) := .one trivial
    simpa [kept] using (first.append ih).append last

theorem drop (settled : ∀ k ∈ ks, k.isComprehension = false) (h : Balanced false ms) :
    Rounded ks (dropped ms) := fun _ rest => .drop settled h rest

end Rounded

mutual

theorem Pattern.balanced (c : Bool) : ∀ p : Pattern, Balanced c p.mentions
  | .value _ v => v.balanced c
  | .singleton .. => .nil
  | .sequence _ ps | .alternatives _ ps => balanced_patterns c ps
  | .mapping r ks ps _ =>
    .append (.append (balanced_all c ks) (balanced_patterns c ps)) (.names id .assigned (fun _ => r) _)
  | .classPattern _ cls ps _ qs =>
    .append (.append (cls.balanced c) (balanced_patterns c ps)) (balanced_patterns c qs)
  | .star r _ => .names id .assigned (fun _ => r) _
  | .capture r p _ => .append (balanced_pattern c p) (.names id .assigned (fun _ => r) _)

theorem balanced_patterns (c : Bool) : ∀ ps : List Pattern, Balanced c (mentionsOfPatterns ps)
  | [] => .nil
  | p :: ps => .append (p.balanced c) (balanced_patterns c ps)

theorem balanced_pattern (c : Bool) : ∀ p : Option Pattern, Balanced c (mentionsOfPattern p)
  | none => .nil
  | some p => p.balanced c

end

namespace Balanced

theorem flatMap {α : Type} {c : Bool} {f : α → List Mention} (as : List α)
    (each : ∀ a, Balanced c (f a)) : Balanced c (as.flatMap f) := by
  induction as with
  | nil => exact .nil
  | cons a as ih =>
    rw [List.flatMap_cons]
    exact .append (each a) ih

theorem item (c : Bool) (i : WithItem) : Balanced c i.mentions := by
  refine .append (i.context.balanced c) ?_
  cases i.target with
  | none => exact .nil
  | some t => exact t.balanced_bindings c

theorem annotations (c : Bool) (ps : Params Expr) : Balanced c ps.annotationMentions :=
  .flatMap _ fun _ => balanced_option c _

end Balanced

theorem Alias.isFlat_mention (a : Alias) : a.mention.IsFlat := by
  simp only [Alias.mention]
  split <;> trivial

mutual

/-- A statement leaves the blocks that it enters, and has annotations only where no comprehension is
open. -/
theorem Stmt.rounded {ks : List BlockKind} (settled : ∀ k ∈ ks, k.isComprehension = false) :
    ∀ s : Stmt, Rounded ks s.fates
  | .functionDef r isAsync n ps b ds ret => by
    have hinted : ∀ k ∈ BlockKind.hint :: ks, k.isComprehension = false := by
      simpa using ⟨rfl, settled⟩
    have inside : ∀ k ∈ BlockKind.function :: ks, k.isComprehension = false := by
      simpa using ⟨rfl, settled⟩
    have head : Rounded ks (kept (.name n .assigned r :: mentionsOfDefaults ps)) :=
      .balanced (.cons (.name _ _ _) (balanced_defaults false ps))
    have hints : Rounded ks (kept [.enter .hint] ++ dropped ps.annotationMentions
        ++ kept [.leave .hint]) := .block (.drop hinted (.annotations false ps))
    have result : Rounded ks
        (dropped (match ret with | none => [] | some e => annotationMentions e.mentions)) := by
      cases ret with
      | none => exact .nil
      | some e => exact .drop settled (.hint (e.balanced false))
    have decorators : Rounded ks (kept (mentionsOfAll ds)) := .balanced (balanced_all false ds)
    have waits : Balanced false (if isAsync then [.suspends] else []) := by
      cases isAsync
      · exact .nil
      · exact .suspends
    have entry : Rounded (.function :: ks)
        (kept ((if isAsync then [.suspends] else []) ++ ps.mentions)) :=
      .balanced (.append waits (.names Param.name .parameter Param.loc _))
    have body := Rounded.block (entry.append (rounded_block inside b))
    have whole := (((head.append hints).append result).append decorators).append body
    simpa only [Stmt.fates, List.append_assoc] using whole
  | .classDef r n bs ks' b ds => by
    have inside : ∀ k ∈ BlockKind.classBody n :: ks, k.isComprehension = false := by
      simpa using ⟨rfl, settled⟩
    have head : Rounded ks (kept (.name n .assigned r :: mentionsOfAll bs
        ++ mentionsOfKeywords ks' ++ mentionsOfAll ds)) :=
      .balanced (.append (.append (.cons (.name _ _ _) (balanced_all false bs))
        (balanced_keywords false ks')) (balanced_all false ds))
    have whole := head.append (.block (rounded_block inside b))
    simpa only [Stmt.fates, List.append_assoc] using whole
  | .annAssign _ t a none _ => by
    refine .drop settled (.append (.append ?_ (.hint (a.balanced false))) .nil)
    cases t with
    | name l id => exact .annotate _ _ _ _ _
    | _ => exact Expr.balanced_bindings false _
  | .annAssign _ t a (some v) _ => by
    refine .append (.append ?_ (.drop settled (.hint (a.balanced false)))) (.balanced (v.balanced false))
    cases t with
    | name l id => exact fun _ h => .keep trivial (.assigned _ _ _ _ _) h
    | _ => exact .balanced (Expr.balanced_bindings false _)
  | .forLoop _ _ t s b e =>
    .append (.append (.balanced (.append (t.balanced_bindings false) (s.balanced false)))
      (rounded_block settled b)) (rounded_block settled e)
  | .whileLoop _ t b e | .ifElse _ t b e =>
    .append (.append (.balanced (t.balanced false)) (rounded_block settled b))
      (rounded_block settled e)
  | .withBlock _ _ is b =>
    .append (.balanced (.flatMap is (.item false))) (rounded_block settled b)
  | .matchOn _ s cs => .append (.balanced (s.balanced false)) (rounded_cases settled cs)
  | .tryBlock _ _ b hs e f =>
    .append (.append (.append (rounded_block settled b) (rounded_block settled e))
      (rounded_handlers settled hs)) (rounded_block settled f)
  | .returnStmt _ v => .balanced (balanced_option false v)
  | .delete _ ts => .balanced (balanced_bindingsOfAll false ts)
  | .assign _ ts v => .balanced (.append (balanced_bindingsOfAll false ts) (v.balanced false))
  | .augAssign _ t _ v => .balanced (.append (t.balanced_bindings false) (v.balanced false))
  | .raise _ e c => .balanced (.append (balanced_option false e) (balanced_option false c))
  | .assert _ t m => .balanced (.append (t.balanced false) (balanced_option false m))
  | .importModules _ ns | .importFrom _ _ ns _ => .flat fun m mem => by
    obtain ⟨a, -, rfl⟩ := List.mem_map.mp mem
    exact a.isFlat_mention
  | .global _ ns | .nonlocal _ ns => .flat fun m mem => by
    obtain ⟨n, -, rfl⟩ := List.mem_map.mp mem
    trivial
  | .expr _ e => .balanced (e.balanced false)
  | .pass _ | .breakLoop _ | .continueLoop _ => .nil

theorem rounded_block {ks : List BlockKind} (settled : ∀ k ∈ ks, k.isComprehension = false) :
    ∀ ss : List Stmt, Rounded ks (fatesOfBlock ss)
  | [] => .nil
  | s :: ss => (s.rounded settled).append (rounded_block settled ss)

theorem rounded_handlers {ks : List BlockKind} (settled : ∀ k ∈ ks, k.isComprehension = false) :
    ∀ hs : List (Handler Stmt), Rounded ks (fatesOfHandlers hs)
  | [] => .nil
  | ⟨r, t, _, b⟩ :: hs =>
    .append (.append (.balanced (.append (balanced_option false t)
      (.names id .assigned (fun _ => r) _))) (rounded_block settled b)) (rounded_handlers settled hs)

theorem rounded_cases {ks : List BlockKind} (settled : ∀ k ∈ ks, k.isComprehension = false) :
    ∀ cs : List (MatchCase Stmt), Rounded ks (fatesOfCases cs)
  | [] => .nil
  | ⟨p, g, b⟩ :: cs =>
    .append (.append (.balanced (.append (p.balanced false) (balanced_option false g)))
      (rounded_block settled b)) (rounded_cases settled cs)

end

/-- The mentions of a block, with no other block around it. -/
theorem thinned_fatesOfBlock (ss : List Stmt) : Thinned [] (fatesOfBlock ss) := by
  have rounded : Rounded [] (fatesOfBlock ss) := rounded_block (by simp) ss
  simpa using rounded .done

end RuleBench.Script
