import RuleBench.Script.Depth
import RuleBench.Script.Mention
import RuleBench.Script.Unplaced

/-!
# Names and depth of scripts without their places

The names that a tree mentions and the depth of it do not depend on where its nodes were read.
-/

namespace RuleBench.Script

theorem unplacedBlock_append (ss ts : List Stmt) :
    unplacedBlock (ss ++ ts) = unplacedBlock ss ++ unplacedBlock ts := by
  induction ss with
  | nil => rfl
  | cons s ss ih => simp [unplacedBlock, ih]

/-- The same mention, read nowhere. -/
def Mention.unplaced : Mention → Mention
  | .name id t _ => .name id t default
  | .declare d id _ => .declare d id default
  | .annotate id simple hasValue _ _ => .annotate id simple hasValue default default
  | .importAll _ => .importAll default
  | .rebind id _ _ => .rebind id default default
  | .bareOnly what _ => .bareOnly what default
  | .yields _ => .yields default
  | m => m

/-! ### Mentions -/

theorem mentions_unplacedParamList (ps : List (Param Expr)) :
    (unplacedParamList ps).map Param.mention =
      (ps.map Param.mention).map Mention.unplaced := by
  induction ps with
  | nil => rfl
  | cons p ps ih => simp [unplacedParamList, Param.mention, Mention.unplaced, ih]

theorem mentions_unplacedRest (p : Option (Param Expr)) :
    (unplacedRest p).toList.map Param.mention =
      (p.toList.map Param.mention).map Mention.unplaced := by
  cases p <;> rfl

@[simp] theorem mentions_unplacedParams (ps : Params Expr) :
    (unplacedParams ps).mentions = ps.mentions.map Mention.unplaced := by
  obtain ⟨po, pl, r, ko, kr⟩ := ps
  simp only [Params.mentions, unplacedParams, List.map_append, mentions_unplacedParamList,
    mentions_unplacedRest]

mutual

theorem Expr.mentions_unplaced : ∀ e : Expr,
    e.unplaced.mentions = e.mentions.map Mention.unplaced
  | .boolOp _ _ vs => mentionsOfAll_unplaced vs
  | .named _ t v => by
    simp only [Expr.unplaced, Expr.mentions, List.map_append, v.mentions_unplaced,
      t.bindings_unplaced]
    cases t <;> rfl
  | .binOp _ a _ b => by
    simp [Expr.unplaced, Expr.mentions, a.mentions_unplaced, b.mentions_unplaced]
  | .unaryOp _ _ a => a.mentions_unplaced
  | .lambda _ ps b => by
    simp [Expr.unplaced, Expr.mentions, Mention.unplaced, mentionsOfDefaults_unplaced ps,
      b.mentions_unplaced]
  | .ifElse _ t b e => by
    simp [Expr.unplaced, Expr.mentions, t.mentions_unplaced, b.mentions_unplaced,
      e.mentions_unplaced]
  | .dict _ is => by
    simp [Expr.unplaced, Expr.mentions, mentionsOfKeys_unplaced is, mentionsOfEntries_unplaced is]
  | .set _ es => mentionsOfAll_unplaced es
  | .comprehension _ _ e cs => by
    simp [Expr.unplaced, Expr.mentions, Mention.unplaced, mentionsOfFirst_unplaced cs,
      mentionsOfClauses_unplaced true cs, e.mentions_unplaced]
  | .dictComprehension _ k v cs => by
    simp [Expr.unplaced, Expr.mentions, Mention.unplaced, mentionsOfFirst_unplaced cs,
      mentionsOfClauses_unplaced true cs, k.mentions_unplaced, v.mentions_unplaced]
  | .await _ v => by simp [Expr.unplaced, Expr.mentions, Mention.unplaced, v.mentions_unplaced]
  | .yield _ v => by
    simp [Expr.unplaced, Expr.mentions, Mention.unplaced, mentionsOfOption_unplaced v]
  | .yieldFrom _ v => by
    simp [Expr.unplaced, Expr.mentions, Mention.unplaced, v.mentions_unplaced]
  | .compare _ a cs => by
    simp [Expr.unplaced, Expr.mentions, a.mentions_unplaced, mentionsOfChain_unplaced cs]
  | .call _ f as ks => by
    simp [Expr.unplaced, Expr.mentions, f.mentions_unplaced, mentionsOfAll_unplaced as,
      mentionsOfKeywords_unplaced ks]
  | .formatted _ v _ s => by
    simp [Expr.unplaced, Expr.mentions, v.mentions_unplaced, mentionsOfOption_unplaced s]
  | .joined _ ps => mentionsOfAll_unplaced ps
  | .literal .. => rfl
  | .member _ v _ => v.mentions_unplaced
  | .subscript _ v i => by
    simp [Expr.unplaced, Expr.mentions, v.mentions_unplaced, i.mentions_unplaced]
  | .starred _ v => v.mentions_unplaced
  | .name .. => rfl
  | .list _ es => mentionsOfAll_unplaced es
  | .tuple _ es => mentionsOfAll_unplaced es
  | .slice _ l u s => by
    simp [Expr.unplaced, Expr.mentions, mentionsOfOption_unplaced l, mentionsOfOption_unplaced u,
      mentionsOfOption_unplaced s]

theorem Expr.bindings_unplaced : ∀ e : Expr,
    e.unplaced.bindings = e.bindings.map Mention.unplaced
  | .name .. => rfl
  | .starred _ v => v.bindings_unplaced
  | .list _ es => bindingsOfAll_unplaced es
  | .tuple _ es => bindingsOfAll_unplaced es
  | .member _ v _ => v.mentions_unplaced
  | .subscript _ v i => by
    simp [Expr.unplaced, Expr.bindings, v.mentions_unplaced, i.mentions_unplaced]
  | .boolOp .. | .named .. | .binOp .. | .unaryOp .. | .lambda .. | .ifElse .. | .dict ..
  | .set .. | .comprehension .. | .dictComprehension .. | .await .. | .yield .. | .yieldFrom ..
  | .compare .. | .call .. | .formatted .. | .joined .. | .literal .. | .slice .. => rfl

theorem mentionsOfAll_unplaced : ∀ es : List Expr,
    mentionsOfAll (unplacedAll es) = (mentionsOfAll es).map Mention.unplaced
  | [] => rfl
  | e :: es => by
    simp only [unplacedAll, mentionsOfAll, e.mentions_unplaced, mentionsOfAll_unplaced es,
      List.map_append]

theorem bindingsOfAll_unplaced : ∀ es : List Expr,
    bindingsOfAll (unplacedAll es) = (bindingsOfAll es).map Mention.unplaced
  | [] => rfl
  | e :: es => by
    simp only [unplacedAll, bindingsOfAll, e.bindings_unplaced, bindingsOfAll_unplaced es,
      List.map_append]

theorem mentionsOfOption_unplaced : ∀ o : Option Expr,
    mentionsOfOption (unplacedOption o) = (mentionsOfOption o).map Mention.unplaced
  | none => rfl
  | some e => e.mentions_unplaced

theorem mentionsOfKeys_unplaced : ∀ is : List (DictItem Expr),
    mentionsOfKeys (unplacedItems is) = (mentionsOfKeys is).map Mention.unplaced
  | [] => rfl
  | ⟨k, _⟩ :: is => by
    simp [unplacedItems, mentionsOfKeys, mentionsOfOption_unplaced k, mentionsOfKeys_unplaced is]

theorem mentionsOfEntries_unplaced : ∀ is : List (DictItem Expr),
    mentionsOfEntries (unplacedItems is) = (mentionsOfEntries is).map Mention.unplaced
  | [] => rfl
  | ⟨_, v⟩ :: is => by
    simp [unplacedItems, mentionsOfEntries, v.mentions_unplaced, mentionsOfEntries_unplaced is]

theorem mentionsOfChain_unplaced : ∀ cs : List (Comparand Expr),
    mentionsOfChain (unplacedChain cs) = (mentionsOfChain cs).map Mention.unplaced
  | [] => rfl
  | ⟨_, e⟩ :: cs => by
    simp [unplacedChain, mentionsOfChain, e.mentions_unplaced, mentionsOfChain_unplaced cs]

theorem mentionsOfKeywords_unplaced : ∀ ks : List (Keyword Expr),
    mentionsOfKeywords (unplacedKeywords ks) = (mentionsOfKeywords ks).map Mention.unplaced
  | [] => rfl
  | ⟨_, _, v⟩ :: ks => by
    simp [unplacedKeywords, mentionsOfKeywords, v.mentions_unplaced,
      mentionsOfKeywords_unplaced ks]

theorem mentionsOfFirst_unplaced : ∀ cs : List (Clause Expr),
    mentionsOfFirst (unplacedClauses cs) = (mentionsOfFirst cs).map Mention.unplaced
  | [] => rfl
  | ⟨_, _, s, _⟩ :: _ => by
    simp [unplacedClauses, mentionsOfFirst, Mention.unplaced, s.mentions_unplaced]

theorem mentionsOfClauses_unplaced (first : Bool) : ∀ cs : List (Clause Expr),
    mentionsOfClauses first (unplacedClauses cs) =
      (mentionsOfClauses first cs).map Mention.unplaced
  | [] => rfl
  | ⟨isAsync, t, s, is⟩ :: cs => by
    cases first <;> cases isAsync <;>
      simp [unplacedClauses, mentionsOfClauses, Mention.unplaced, t.bindings_unplaced,
        s.mentions_unplaced, mentionsOfAll_unplaced is, mentionsOfClauses_unplaced false cs]

theorem mentionsOfDefault_unplaced : ∀ ps : List (Param Expr),
    mentionsOfDefault (unplacedParamList ps) = (mentionsOfDefault ps).map Mention.unplaced
  | [] => rfl
  | ⟨_, _, _, d⟩ :: ps => by
    simp [unplacedParamList, mentionsOfDefault, mentionsOfOption_unplaced d,
      mentionsOfDefault_unplaced ps]

theorem mentionsOfDefaults_unplaced : ∀ ps : Params Expr,
    mentionsOfDefaults (unplacedParams ps) = (mentionsOfDefaults ps).map Mention.unplaced
  | ⟨po, pl, _, ko, _⟩ => by
    simp [unplacedParams, mentionsOfDefaults, mentionsOfDefault_unplaced po,
      mentionsOfDefault_unplaced pl, mentionsOfDefault_unplaced ko]

end

mutual

theorem Pattern.mentions_unplaced : ∀ p : Pattern,
    p.unplaced.mentions = p.mentions.map Mention.unplaced
  | .value _ v => v.mentions_unplaced
  | .singleton .. => rfl
  | .sequence _ ps => mentionsOfPatterns_unplaced ps
  | .mapping _ ks ps rest => by
    cases rest <;> simp [Pattern.unplaced, Pattern.mentions, Mention.unplaced,
      mentionsOfAll_unplaced ks, mentionsOfPatterns_unplaced ps]
  | .classPattern _ c ps _ qs => by
    simp [Pattern.unplaced, Pattern.mentions, c.mentions_unplaced, mentionsOfPatterns_unplaced ps,
      mentionsOfPatterns_unplaced qs]
  | .star _ n => by cases n <;> rfl
  | .capture _ p n => by
    cases n <;> simp [Pattern.unplaced, Pattern.mentions, Mention.unplaced,
      mentionsOfPattern_unplaced p]
  | .alternatives _ ps => mentionsOfPatterns_unplaced ps

theorem mentionsOfPatterns_unplaced : ∀ ps : List Pattern,
    mentionsOfPatterns (unplacedPatterns ps) = (mentionsOfPatterns ps).map Mention.unplaced
  | [] => rfl
  | p :: ps => by
    simp [unplacedPatterns, mentionsOfPatterns, p.mentions_unplaced, mentionsOfPatterns_unplaced ps]

theorem mentionsOfPattern_unplaced : ∀ p : Option Pattern,
    mentionsOfPattern (unplacedPattern p) = (mentionsOfPattern p).map Mention.unplaced
  | none => rfl
  | some p => p.mentions_unplaced

end

theorem Alias.mention_unplaced (a : Alias) : a.unplaced.mention = a.mention.unplaced := by
  by_cases all : a.name = "*" <;> simp [Alias.mention, Alias.unplaced, all, Mention.unplaced,
    Alias.boundName]

theorem WithItem.mentions_unplaced (i : WithItem) :
    i.unplaced.mentions = i.mentions.map Mention.unplaced := by
  obtain ⟨context, target⟩ := i
  cases target <;> simp [WithItem.unplaced, WithItem.mentions, unplacedOption,
    context.mentions_unplaced, Expr.bindings_unplaced]

theorem annotationMentions_unplaced (ms : List Mention) :
    annotationMentions (ms.map Mention.unplaced) =
      (annotationMentions ms).map Mention.unplaced := by
  simp [annotationMentions, Mention.unplaced]

theorem Params.annotationMentions_unplaced (ps : Params Expr) :
    (unplacedParams ps).annotationMentions = ps.annotationMentions.map Mention.unplaced := by
  have list : ∀ ps : List (Param Expr),
      (unplacedParamList ps).flatMap (fun p => mentionsOfOption p.annotation) =
        (ps.flatMap fun p => mentionsOfOption p.annotation).map Mention.unplaced := by
    intro ps
    induction ps with
    | nil => rfl
    | cons p ps ih => simp [unplacedParamList, mentionsOfOption_unplaced, ih]
  have rest : ∀ p : Option (Param Expr),
      (unplacedRest p).toList.flatMap (fun p => mentionsOfOption p.annotation) =
        (p.toList.flatMap fun p => mentionsOfOption p.annotation).map Mention.unplaced := by
    intro p
    cases p <;> simp [unplacedRest, mentionsOfOption_unplaced]
  obtain ⟨po, pl, r, ko, kr⟩ := ps
  simp only [Params.annotationMentions, unplacedParams, List.flatMap_append, list, rest,
    List.map_append]

mutual

theorem Stmt.mentions_unplaced : ∀ s : Stmt,
    s.unplaced.mentions = s.mentions.map Mention.unplaced
  | .functionDef _ isAsync _ ps b ds ret => by
    cases isAsync <;> cases ret <;>
      simp [Stmt.unplaced, Stmt.mentions, Mention.unplaced, unplacedOption,
        mentionsOfDefaults_unplaced ps, ps.annotationMentions_unplaced,
        annotationMentions_unplaced, Expr.mentions_unplaced, mentionsOfAll_unplaced ds,
        mentionsOfBlock_unplaced b]
  | .classDef _ _ bs ks b ds => by
    simp [Stmt.unplaced, Stmt.mentions, Mention.unplaced, mentionsOfAll_unplaced bs,
      mentionsOfKeywords_unplaced ks, mentionsOfAll_unplaced ds, mentionsOfBlock_unplaced b]
  | .returnStmt _ v => mentionsOfOption_unplaced v
  | .delete _ ts => bindingsOfAll_unplaced ts
  | .assign _ ts v => by
    simp [Stmt.unplaced, Stmt.mentions, bindingsOfAll_unplaced ts, v.mentions_unplaced]
  | .augAssign _ t _ v => by
    simp [Stmt.unplaced, Stmt.mentions, t.bindings_unplaced, v.mentions_unplaced]
  | .annAssign _ t a v simple => by
    simp only [Stmt.unplaced, Stmt.mentions, a.mentions_unplaced, annotationMentions_unplaced,
      mentionsOfOption_unplaced v, List.map_append, t.bindings_unplaced]
    cases t <;> cases v <;> rfl
  | .forLoop _ _ t s b e => by
    simp [Stmt.unplaced, Stmt.mentions, t.bindings_unplaced, s.mentions_unplaced,
      mentionsOfBlock_unplaced b, mentionsOfBlock_unplaced e]
  | .whileLoop _ t b e => by
    simp [Stmt.unplaced, Stmt.mentions, t.mentions_unplaced, mentionsOfBlock_unplaced b,
      mentionsOfBlock_unplaced e]
  | .ifElse _ t b e => by
    simp [Stmt.unplaced, Stmt.mentions, t.mentions_unplaced, mentionsOfBlock_unplaced b,
      mentionsOfBlock_unplaced e]
  | .withBlock _ _ is b => by
    simp [Stmt.unplaced, Stmt.mentions, List.flatMap_map, List.map_flatMap,
      WithItem.mentions_unplaced, mentionsOfBlock_unplaced b]
  | .matchOn _ s cs => by
    simp [Stmt.unplaced, Stmt.mentions, s.mentions_unplaced, mentionsOfCases_unplaced cs]
  | .raise _ e c => by
    simp [Stmt.unplaced, Stmt.mentions, mentionsOfOption_unplaced e, mentionsOfOption_unplaced c]
  | .tryBlock _ _ b hs e f => by
    simp [Stmt.unplaced, Stmt.mentions, mentionsOfBlock_unplaced b, mentionsOfBlock_unplaced e,
      mentionsOfHandlers_unplaced hs, mentionsOfBlock_unplaced f]
  | .assert _ t m => by
    simp [Stmt.unplaced, Stmt.mentions, t.mentions_unplaced, mentionsOfOption_unplaced m]
  | .importModules _ ns => by
    simp [Stmt.unplaced, Stmt.mentions, Alias.mention_unplaced]
  | .importFrom _ _ ns _ => by
    simp [Stmt.unplaced, Stmt.mentions, Alias.mention_unplaced]
  | .global _ ns => by simp [Stmt.unplaced, Stmt.mentions, Mention.unplaced]
  | .nonlocal _ ns => by simp [Stmt.unplaced, Stmt.mentions, Mention.unplaced]
  | .expr _ e => e.mentions_unplaced
  | .pass _ | .breakLoop _ | .continueLoop _ => rfl

theorem mentionsOfBlock_unplaced : ∀ ss : List Stmt,
    mentionsOfBlock (unplacedBlock ss) = (mentionsOfBlock ss).map Mention.unplaced
  | [] => rfl
  | s :: ss => by
    simp [unplacedBlock, mentionsOfBlock, s.mentions_unplaced, mentionsOfBlock_unplaced ss]

theorem mentionsOfHandlers_unplaced : ∀ hs : List (Handler Stmt),
    mentionsOfHandlers (unplacedHandlers hs) = (mentionsOfHandlers hs).map Mention.unplaced
  | [] => rfl
  | ⟨_, t, n, b⟩ :: hs => by
    cases n <;> simp [unplacedHandlers, mentionsOfHandlers, Mention.unplaced,
      mentionsOfOption_unplaced t, mentionsOfBlock_unplaced b, mentionsOfHandlers_unplaced hs]

theorem mentionsOfCases_unplaced : ∀ cs : List (MatchCase Stmt),
    mentionsOfCases (unplacedCases cs) = (mentionsOfCases cs).map Mention.unplaced
  | [] => rfl
  | ⟨p, g, b⟩ :: cs => by
    simp [unplacedCases, mentionsOfCases, p.mentions_unplaced, mentionsOfOption_unplaced g,
      mentionsOfBlock_unplaced b, mentionsOfCases_unplaced cs]

end

/-! ### What a block does besides naming -/

theorem yieldsAt_unplaced (depth : Nat) (ms : List Mention) :
    yieldsAt depth (ms.map Mention.unplaced) = yieldsAt depth ms := by
  fun_induction yieldsAt depth ms with
  | case8 depth m ms => cases m <;> simp_all [yieldsAt, Mention.unplaced]
  | _ => simp_all [yieldsAt, Mention.unplaced]

theorem suspendsAt_unplaced (answers : List Bool) (ms : List Mention) :
    suspendsAt answers (ms.map Mention.unplaced) = suspendsAt answers ms := by
  fun_induction suspendsAt answers ms with
  | case8 answers m ms => cases m <;> simp_all [suspendsAt, Mention.unplaced]
  | _ => simp_all [suspendsAt, Mention.unplaced]

/-! ### Depth -/

mutual

theorem Expr.depth_unplaced : ∀ e : Expr, e.unplaced.depth = e.depth
  | .boolOp _ _ vs | .set _ vs | .joined _ vs | .list _ vs | .tuple _ vs => by
    simp [Expr.unplaced, Expr.depth, depthOfAll_unplaced vs]
  | .named _ t v | .subscript _ t v | .binOp _ t _ v => by
    simp [Expr.unplaced, Expr.depth, t.depth_unplaced, v.depth_unplaced]
  | .unaryOp _ _ v | .await _ v | .yieldFrom _ v | .member _ v _ | .starred _ v => by
    simp [Expr.unplaced, Expr.depth, v.depth_unplaced]
  | .lambda _ ps b => by
    simp [Expr.unplaced, Expr.depth, depthOfParams_unplaced ps, b.depth_unplaced]
  | .ifElse _ t b e => by
    simp [Expr.unplaced, Expr.depth, t.depth_unplaced, b.depth_unplaced, e.depth_unplaced]
  | .dict _ is => by simp [Expr.unplaced, Expr.depth, depthOfItems_unplaced is]
  | .comprehension _ _ e cs => by
    simp [Expr.unplaced, Expr.depth, e.depth_unplaced, depthOfClauses_unplaced cs]
  | .dictComprehension _ k v cs => by
    simp [Expr.unplaced, Expr.depth, k.depth_unplaced, v.depth_unplaced,
      depthOfClauses_unplaced cs]
  | .yield _ v => by simp [Expr.unplaced, Expr.depth, depthOfOption_unplaced v]
  | .compare _ a cs => by
    simp [Expr.unplaced, Expr.depth, a.depth_unplaced, depthOfChain_unplaced cs]
  | .call _ f as ks => by
    simp [Expr.unplaced, Expr.depth, f.depth_unplaced, depthOfAll_unplaced as,
      depthOfKeywords_unplaced ks]
  | .formatted _ v _ s => by
    simp [Expr.unplaced, Expr.depth, v.depth_unplaced, depthOfOption_unplaced s]
  | .literal .. | .name .. => rfl
  | .slice _ l u s => by
    simp [Expr.unplaced, Expr.depth, depthOfOption_unplaced l, depthOfOption_unplaced u,
      depthOfOption_unplaced s]

theorem depthOfAll_unplaced : ∀ es : List Expr, depthOfAll (unplacedAll es) = depthOfAll es
  | [] => rfl
  | e :: es => by simp [unplacedAll, depthOfAll, e.depth_unplaced, depthOfAll_unplaced es]

theorem depthOfOption_unplaced : ∀ o : Option Expr,
    depthOfOption (unplacedOption o) = depthOfOption o
  | none => rfl
  | some e => e.depth_unplaced

theorem depthOfItems_unplaced : ∀ is : List (DictItem Expr),
    depthOfItems (unplacedItems is) = depthOfItems is
  | [] => rfl
  | ⟨k, v⟩ :: is => by
    simp [unplacedItems, depthOfItems, depthOfOption_unplaced k, v.depth_unplaced,
      depthOfItems_unplaced is]

theorem depthOfChain_unplaced : ∀ cs : List (Comparand Expr),
    depthOfChain (unplacedChain cs) = depthOfChain cs
  | [] => rfl
  | ⟨_, e⟩ :: cs => by
    simp [unplacedChain, depthOfChain, e.depth_unplaced, depthOfChain_unplaced cs]

theorem depthOfKeywords_unplaced : ∀ ks : List (Keyword Expr),
    depthOfKeywords (unplacedKeywords ks) = depthOfKeywords ks
  | [] => rfl
  | ⟨_, _, v⟩ :: ks => by
    simp [unplacedKeywords, depthOfKeywords, v.depth_unplaced, depthOfKeywords_unplaced ks]

theorem depthOfClauses_unplaced : ∀ cs : List (Clause Expr),
    depthOfClauses (unplacedClauses cs) = depthOfClauses cs
  | [] => rfl
  | ⟨_, t, s, is⟩ :: cs => by
    simp [unplacedClauses, depthOfClauses, t.depth_unplaced, s.depth_unplaced,
      depthOfAll_unplaced is, depthOfClauses_unplaced cs]

theorem depthOfParam_unplaced : ∀ ps : List (Param Expr),
    depthOfParam (unplacedParamList ps) = depthOfParam ps
  | [] => rfl
  | ⟨_, _, a, d⟩ :: ps => by
    simp [unplacedParamList, depthOfParam, depthOfOption_unplaced a, depthOfOption_unplaced d,
      depthOfParam_unplaced ps]

theorem depthOfRest_unplaced : ∀ p : Option (Param Expr),
    depthOfRest (unplacedRest p) = depthOfRest p
  | none => rfl
  | some ⟨_, _, a, d⟩ => by
    simp [unplacedRest, depthOfRest, depthOfOption_unplaced a, depthOfOption_unplaced d]

theorem depthOfParams_unplaced : ∀ ps : Params Expr,
    depthOfParams (unplacedParams ps) = depthOfParams ps
  | ⟨po, pl, r, ko, kr⟩ => by
    simp [unplacedParams, depthOfParams, depthOfParam_unplaced po, depthOfParam_unplaced pl,
      depthOfRest_unplaced r, depthOfParam_unplaced ko, depthOfRest_unplaced kr]

end

mutual

theorem Pattern.depth_unplaced : ∀ p : Pattern, p.unplaced.depth = p.depth
  | .value _ v => by simp [Pattern.unplaced, Pattern.depth, v.depth_unplaced]
  | .singleton .. | .star .. => rfl
  | .sequence _ ps | .alternatives _ ps => by
    simp [Pattern.unplaced, Pattern.depth, depthOfPatterns_unplaced ps]
  | .mapping _ ks ps _ => by
    simp [Pattern.unplaced, Pattern.depth, depthOfAll_unplaced ks, depthOfPatterns_unplaced ps]
  | .classPattern _ c ps _ qs => by
    simp [Pattern.unplaced, Pattern.depth, c.depth_unplaced, depthOfPatterns_unplaced ps,
      depthOfPatterns_unplaced qs]
  | .capture _ p _ => by simp [Pattern.unplaced, Pattern.depth, depthOfPattern_unplaced p]

theorem depthOfPatterns_unplaced : ∀ ps : List Pattern,
    depthOfPatterns (unplacedPatterns ps) = depthOfPatterns ps
  | [] => rfl
  | p :: ps => by
    simp [unplacedPatterns, depthOfPatterns, p.depth_unplaced, depthOfPatterns_unplaced ps]

theorem depthOfPattern_unplaced : ∀ p : Option Pattern,
    depthOfPattern (unplacedPattern p) = depthOfPattern p
  | none => rfl
  | some p => p.depth_unplaced

end

mutual

theorem Stmt.depth_unplaced : ∀ s : Stmt, s.unplaced.depth = s.depth
  | .functionDef _ _ _ ps b ds r => by
    simp [Stmt.unplaced, Stmt.depth, depthOfParams_unplaced ps, depthOfBody_unplaced b,
      depthOfAll_unplaced ds, depthOfOption_unplaced r]
  | .classDef _ _ bs ks b ds => by
    simp [Stmt.unplaced, Stmt.depth, depthOfAll_unplaced bs, depthOfKeywords_unplaced ks,
      depthOfBody_unplaced b, depthOfAll_unplaced ds]
  | .returnStmt _ v => by simp [Stmt.unplaced, Stmt.depth, depthOfOption_unplaced v]
  | .delete _ ts => by simp [Stmt.unplaced, Stmt.depth, depthOfAll_unplaced ts]
  | .assign _ ts v => by
    simp [Stmt.unplaced, Stmt.depth, depthOfAll_unplaced ts, v.depth_unplaced]
  | .augAssign _ t _ v => by simp [Stmt.unplaced, Stmt.depth, t.depth_unplaced, v.depth_unplaced]
  | .annAssign _ t a v _ => by
    simp [Stmt.unplaced, Stmt.depth, t.depth_unplaced, a.depth_unplaced, depthOfOption_unplaced v]
  | .forLoop _ _ t s b e => by
    simp [Stmt.unplaced, Stmt.depth, t.depth_unplaced, s.depth_unplaced, depthOfBody_unplaced b,
      depthOfBlock_unplaced e]
  | .whileLoop _ t b e | .ifElse _ t b e => by
    simp [Stmt.unplaced, Stmt.depth, t.depth_unplaced, depthOfBody_unplaced b,
      depthOfBlock_unplaced e]
  | .withBlock _ _ is b => by
    have items : ∀ i : WithItem,
        max i.unplaced.context.depth (depthOfOption i.unplaced.target) =
          max i.context.depth (depthOfOption i.target) := by
      intro i
      simp [WithItem.unplaced, Expr.depth_unplaced, depthOfOption_unplaced]
    simp [Stmt.unplaced, Stmt.depth, Function.comp_def, items, depthOfBody_unplaced b]
  | .matchOn _ s cs => by
    simp [Stmt.unplaced, Stmt.depth, s.depth_unplaced, depthOfCases_unplaced cs]
  | .raise _ e c => by
    simp [Stmt.unplaced, Stmt.depth, depthOfOption_unplaced e, depthOfOption_unplaced c]
  | .tryBlock _ _ b hs e f => by
    simp [Stmt.unplaced, Stmt.depth, depthOfBody_unplaced b, depthOfHandlers_unplaced hs,
      depthOfBlock_unplaced e, depthOfBlock_unplaced f]
  | .assert _ t m => by simp [Stmt.unplaced, Stmt.depth, t.depth_unplaced, depthOfOption_unplaced m]
  | .expr _ e => by simp [Stmt.unplaced, Stmt.depth, e.depth_unplaced]
  | .importModules .. | .importFrom .. | .global .. | .nonlocal .. | .pass _ | .breakLoop _
  | .continueLoop _ => rfl

theorem depthOfBlock_unplaced : ∀ ss : List Stmt,
    depthOfBlock (unplacedBlock ss) = depthOfBlock ss
  | [] => rfl
  | s :: ss => by simp [unplacedBlock, depthOfBlock, s.depth_unplaced, depthOfBlock_unplaced ss]

theorem depthOfBody_unplaced : ∀ ss : List Stmt,
    depthOfBody (unplacedBlock ss) = depthOfBody ss
  | [] => rfl
  | s :: ss => by simp [unplacedBlock, depthOfBody, s.depth_unplaced, depthOfBlock_unplaced ss]

theorem depthOfHandlers_unplaced : ∀ hs : List (Handler Stmt),
    depthOfHandlers (unplacedHandlers hs) = depthOfHandlers hs
  | [] => rfl
  | ⟨_, t, _, b⟩ :: hs => by
    simp [unplacedHandlers, depthOfHandlers, depthOfOption_unplaced t, depthOfBody_unplaced b,
      depthOfHandlers_unplaced hs]

theorem depthOfCases_unplaced : ∀ cs : List (MatchCase Stmt),
    depthOfCases (unplacedCases cs) = depthOfCases cs
  | [] => rfl
  | ⟨p, g, b⟩ :: cs => by
    simp [unplacedCases, depthOfCases, p.depth_unplaced, depthOfOption_unplaced g,
      depthOfBody_unplaced b, depthOfCases_unplaced cs]

end

end RuleBench.Script
