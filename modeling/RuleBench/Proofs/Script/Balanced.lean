import RuleBench.Script.Mention

/-!
# Mentions of an expression

What an expression mentions leaves every block that it enters, and sends no name elsewhere. So do
annotated names. `Balanced` are the lists of mentions of this form; whatever can be said of them by
their form holds of the mentions of all expressions.
-/

namespace RuleBench.Script

def BlockKind.isComprehension : BlockKind → Bool
  | comprehension _ => true
  | _ => false

/-- Mentions that leave all blocks that they enter. The flag tells that iteration variables may
stand among them, as they do directly in a comprehension. -/
inductive Balanced : Bool → List Mention → Prop where
  | nil {c : Bool} : Balanced c []
  | name {c : Bool} (id : String) (t : Touch) (loc : Region) : Balanced c [.name id t loc]
  | annotate {c : Bool} (id : String) (simple hasValue : Bool) (loc statement : Region) :
      Balanced c [.annotate id simple hasValue loc statement]
  | rebind {c : Bool} (id : String) (loc whole : Region) : Balanced c [.rebind id loc whole]
  | bareOnly {c : Bool} (what : String) (loc : Region) : Balanced c [.bareOnly what loc]
  | yields {c : Bool} (loc : Region) : Balanced c [.yields loc]
  | suspends {c : Bool} : Balanced c [.suspends]
  | append {c : Bool} {ms ns : List Mention} (first : Balanced c ms) (second : Balanced c ns) :
      Balanced c (ms ++ ns)
  | block {c : Bool} {kind : BlockKind} {ms : List Mention} (named : kind ≠ .hint)
      (inner : Balanced kind.isComprehension ms) :
      Balanced c (.enter kind :: ms ++ [.leave kind])
  | hint {c : Bool} {ms : List Mention} (inner : Balanced c ms) :
      Balanced c (annotationMentions ms)
  | source {c : Bool} {ms : List Mention} (inner : Balanced c ms) :
      Balanced c (.enterSource :: ms ++ [.leaveSource])
  | target {ms : List Mention} (inner : Balanced false ms) :
      Balanced true (.enterTarget :: ms ++ [.leaveTarget])

namespace Balanced

variable {c : Bool} {ms ns : List Mention}

theorem of_eq (h : Balanced c ms) (same : ms = ns) : Balanced c ns := same ▸ h

theorem cons {m : Mention} (head : Balanced c [m]) (rest : Balanced c ms) :
    Balanced c (m :: ms) := .append head rest

theorem names {α : Type} (id : α → String) (t : Touch) (loc : α → Region) (as : List α) :
    Balanced c (as.map fun a => .name (id a) t (loc a)) := by
  induction as with
  | nil => exact .nil
  | cons a as ih => exact .cons (.name _ _ _) ih

/-- The parameters of a function, and what else is mentioned in it. -/
theorem function (ps : Params Expr) (inner : Balanced false ms) :
    Balanced c (.enter .function :: ps.mentions ++ ms ++ [.leave .function]) := by
  have parameters : Balanced BlockKind.function.isComprehension (ps.mentions ++ ms) :=
    .append (.names Param.name .parameter Param.loc _) inner
  exact (Balanced.block (by decide) parameters).of_eq (by simp)

theorem comprehension (form : ComprehensionForm) (inner : Balanced true ms) :
    Balanced c (.enter (.comprehension form) :: ms ++ [.leave (.comprehension form)]) :=
  .block nofun inner

end Balanced

mutual

theorem Expr.balanced (c : Bool) : ∀ e : Expr, Balanced c e.mentions
  | .boolOp _ _ vs | .set _ vs | .joined _ vs | .list _ vs | .tuple _ vs => balanced_all c vs
  | .named r t v => by
    refine .append (.append (.append (.bareOnly _ r) ?_) (v.balanced c)) (t.balanced_bindings c)
    cases t <;> first | exact .rebind _ _ _ | exact .nil
  | .binOp _ a _ b | .subscript _ a b => .append (a.balanced c) (b.balanced c)
  | .unaryOp _ _ v | .member _ v _ | .starred _ v => v.balanced c
  | .lambda _ ps b =>
    (Balanced.append (balanced_defaults c ps) (.function ps (b.balanced false))).of_eq
      (by simp [Expr.mentions])
  | .ifElse _ t b e => .append (.append (t.balanced c) (b.balanced c)) (e.balanced c)
  | .dict _ is => .append (balanced_keys c is) (balanced_entries c is)
  | .comprehension _ k e cs =>
    (Balanced.append (balanced_first c cs)
      (.comprehension k.form (.append (balanced_clauses true cs) (e.balanced true)))).of_eq
      (by simp [Expr.mentions])
  | .dictComprehension _ k v cs =>
    (Balanced.append (balanced_first c cs)
      (.comprehension .dict
        (.append (.append (balanced_clauses true cs) (v.balanced true)) (k.balanced true)))).of_eq
      (by simp [Expr.mentions])
  | .await r v => .append (.cons (.bareOnly _ r) (v.balanced c)) .suspends
  | .yield r v => .append (.cons (.bareOnly _ r) (balanced_option c v)) (.yields r)
  | .yieldFrom r v => .append (.cons (.bareOnly _ r) (v.balanced c)) (.yields r)
  | .compare _ a cs => .append (a.balanced c) (balanced_chain c cs)
  | .call _ f as ks =>
    .append (.append (f.balanced c) (balanced_all c as)) (balanced_keywords c ks)
  | .formatted _ v _ s => .append (v.balanced c) (balanced_option c s)
  | .literal .. => .nil
  | .name r id => .name id .used r
  | .slice _ l u s =>
    .append (.append (balanced_option c l) (balanced_option c u)) (balanced_option c s)

theorem Expr.balanced_bindings (c : Bool) : ∀ e : Expr, Balanced c e.bindings
  | .name r id => .name id .assigned r
  | .starred _ v => v.balanced_bindings c
  | .list _ es | .tuple _ es => balanced_bindingsOfAll c es
  | .member _ v _ => v.balanced c
  | .subscript _ v i => .append (v.balanced c) (i.balanced c)
  | .boolOp .. | .named .. | .binOp .. | .unaryOp .. | .lambda .. | .ifElse .. | .dict ..
  | .set .. | .comprehension .. | .dictComprehension .. | .await .. | .yield .. | .yieldFrom ..
  | .compare .. | .call .. | .formatted .. | .joined .. | .literal .. | .slice .. => .nil

theorem balanced_all (c : Bool) : ∀ es : List Expr, Balanced c (mentionsOfAll es)
  | [] => .nil
  | e :: es => .append (e.balanced c) (balanced_all c es)

theorem balanced_bindingsOfAll (c : Bool) : ∀ es : List Expr, Balanced c (bindingsOfAll es)
  | [] => .nil
  | e :: es => .append (e.balanced_bindings c) (balanced_bindingsOfAll c es)

theorem balanced_option (c : Bool) : ∀ o : Option Expr, Balanced c (mentionsOfOption o)
  | none => .nil
  | some e => e.balanced c

theorem balanced_keys (c : Bool) : ∀ is : List (DictItem Expr), Balanced c (mentionsOfKeys is)
  | [] => .nil
  | ⟨k, _⟩ :: is => .append (balanced_option c k) (balanced_keys c is)

theorem balanced_entries (c : Bool) : ∀ is : List (DictItem Expr),
    Balanced c (mentionsOfEntries is)
  | [] => .nil
  | ⟨_, v⟩ :: is => .append (v.balanced c) (balanced_entries c is)

theorem balanced_chain (c : Bool) : ∀ cs : List (Comparand Expr), Balanced c (mentionsOfChain cs)
  | [] => .nil
  | ⟨_, e⟩ :: cs => .append (e.balanced c) (balanced_chain c cs)

theorem balanced_keywords (c : Bool) : ∀ ks : List (Keyword Expr),
    Balanced c (mentionsOfKeywords ks)
  | [] => .nil
  | ⟨_, _, v⟩ :: ks => .append (v.balanced c) (balanced_keywords c ks)

theorem balanced_first (c : Bool) : ∀ cs : List (Clause Expr), Balanced c (mentionsOfFirst cs)
  | [] => .nil
  | ⟨_, _, s, _⟩ :: _ => .source (s.balanced c)

theorem balanced_clauses (first : Bool) : ∀ cs : List (Clause Expr),
    Balanced true (mentionsOfClauses first cs)
  | [] => .nil
  | ⟨isAsync, t, s, is⟩ :: cs => by
    have source : Balanced true
        (if first then [] else .enterSource :: s.mentions ++ [.leaveSource]) := by
      cases first
      · exact .source (s.balanced true)
      · exact .nil
    have waits : Balanced true (if isAsync then [.suspends] else []) := by
      cases isAsync
      · exact .nil
      · exact .suspends
    have parts := Balanced.append (.target (t.balanced_bindings false)) (.append source
      (.append (balanced_all true is) (.append waits (balanced_clauses false cs))))
    exact parts.of_eq (by simp [mentionsOfClauses])

theorem balanced_default (c : Bool) : ∀ ps : List (Param Expr),
    Balanced c (mentionsOfDefault ps)
  | [] => .nil
  | ⟨_, _, _, d⟩ :: ps => .append (balanced_option c d) (balanced_default c ps)

theorem balanced_defaults (c : Bool) : ∀ ps : Params Expr, Balanced c (mentionsOfDefaults ps)
  | ⟨po, pl, _, ko, _⟩ =>
    .append (.append (balanced_default c po) (balanced_default c pl)) (balanced_default c ko)

end

end RuleBench.Script
