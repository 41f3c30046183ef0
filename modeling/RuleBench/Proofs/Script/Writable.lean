import RuleBench.Proofs.Script.Reread

/-!
# Which scripts can be written

Not all that can be read can be written again: an integer may have too many decimal digits, and a
backslash may be needed inside the braces of a format string. `Hurdle` names the places where this
may happen, and every part of a script lists its own in the order of writing. Writing fails at the
first hurdle that is not taken, and nowhere else; so lowering refuses exactly the texts that are
rejected when they are read and checked, and those with such a hurdle.
-/

namespace RuleBench.Script

open RuleBench.Number

/-- A place where writing may fail: an integer, or the expression of a replacement field. -/
inductive Hurdle where
  | number (value : Nat)
  | field (value : Expr)

namespace Hurdle

/-- What goes wrong at a hurdle. A field must do without backslashes if its expression can be written
at all. -/
def trouble? : Hurdle → Option Unprintable
  | number n => if (toString n).length > maxWrittenDigits then some .tooManyDigits else none
  | field v =>
    match v.print true .or with
    | .ok text => if text.toList.contains '\\' then some .formatBackslash else none
    | .error _ => none

end Hurdle

def Literal.hurdles : Literal → List Hurdle
  | .int n => [.number n]
  | _ => []

mutual

/-- The hurdles in an expression, in the order of writing. -/
def Expr.hurdles : Expr → List Hurdle
  | .boolOp _ _ vs => hurdlesOfAll vs
  | .named _ t v => t.hurdles ++ v.hurdles
  | .binOp _ a _ b => a.hurdles ++ b.hurdles
  | .unaryOp _ _ a => a.hurdles
  | .lambda _ ps b => hurdlesOfParams ps ++ b.hurdles
  | .ifElse _ t b e => b.hurdles ++ (t.hurdles ++ e.hurdles)
  | .dict _ is => hurdlesOfItems is
  | .set _ es => hurdlesOfAll es
  | .comprehension _ _ e cs => e.hurdles ++ hurdlesOfClauses cs
  | .dictComprehension _ k v cs => k.hurdles ++ (v.hurdles ++ hurdlesOfClauses cs)
  | .await _ v => v.hurdles
  | .yield _ v => hurdlesOfOption v
  | .yieldFrom _ v => v.hurdles
  | .compare _ a cs => a.hurdles ++ hurdlesOfChain cs
  | .call _ f as ks => f.hurdles ++ (hurdlesOfAll as ++ hurdlesOfKeywords ks)
  | .formatted _ v _ s => v.hurdles ++ (.field v :: hurdlesOfSpec s)
  | .joined _ ps => hurdlesOfParts ps
  | .literal _ v => v.hurdles
  | .member _ v _ => v.hurdles
  | .subscript _ v i => v.hurdles ++ i.hurdles
  | .starred _ v => v.hurdles
  | .name .. => []
  | .list _ es => hurdlesOfAll es
  | .tuple _ es => hurdlesOfAll es
  | .slice _ l u s => hurdlesOfOption s ++ (hurdlesOfOption l ++ hurdlesOfOption u)

def hurdlesOfAll : List Expr → List Hurdle
  | [] => []
  | e :: es => e.hurdles ++ hurdlesOfAll es

def hurdlesOfOption : Option Expr → List Hurdle
  | none => []
  | some e => e.hurdles

def hurdlesOfItems : List (DictItem Expr) → List Hurdle
  | [] => []
  | ⟨k, v⟩ :: is => hurdlesOfOption k ++ (v.hurdles ++ hurdlesOfItems is)

def hurdlesOfChain : List (Comparand Expr) → List Hurdle
  | [] => []
  | ⟨_, e⟩ :: cs => e.hurdles ++ hurdlesOfChain cs

def hurdlesOfKeywords : List (Keyword Expr) → List Hurdle
  | [] => []
  | ⟨_, _, v⟩ :: ks => v.hurdles ++ hurdlesOfKeywords ks

def hurdlesOfClauses : List (Clause Expr) → List Hurdle
  | [] => []
  | ⟨_, t, s, is⟩ :: cs => t.hurdles ++ (s.hurdles ++ (hurdlesOfAll is ++ hurdlesOfClauses cs))

def hurdlesOfParam : List (Param Expr) → List Hurdle
  | [] => []
  | ⟨_, _, a, d⟩ :: ps => hurdlesOfOption a ++ (hurdlesOfOption d ++ hurdlesOfParam ps)

def hurdlesOfRest : Option (Param Expr) → List Hurdle
  | none => []
  | some ⟨_, _, a, _⟩ => hurdlesOfOption a

def hurdlesOfParams : Params Expr → List Hurdle
  | ⟨po, pl, r, ko, kr⟩ =>
    hurdlesOfParam po ++ (hurdlesOfParam pl ++ (hurdlesOfRest r ++
      (hurdlesOfParam ko ++ hurdlesOfRest kr)))

/-- The parts of a format string: constant text and replacement fields. -/
def hurdlesOfParts : List Expr → List Hurdle
  | [] => []
  | .formatted _ v _ s :: es => v.hurdles ++ (.field v :: (hurdlesOfSpec s ++ hurdlesOfParts es))
  | _ :: es => hurdlesOfParts es

def hurdlesOfSpec : Option Expr → List Hurdle
  | some (.joined _ ps) => hurdlesOfParts ps
  | _ => []

end

mutual

def Pattern.hurdles : Pattern → List Hurdle
  | .value _ v => v.hurdles
  | .singleton _ v => v.hurdles
  | .sequence _ ps => hurdlesOfPatterns ps
  | .mapping _ ks ps _ => hurdlesOfAll ks ++ hurdlesOfPatterns ps
  | .classPattern _ c ps _ qs => hurdlesOfPatterns qs ++ (c.hurdles ++ hurdlesOfPatterns ps)
  | .star .. => []
  | .capture _ none _ => []
  | .capture _ (some p) _ => p.hurdles
  | .alternatives _ ps => hurdlesOfPatterns ps

def hurdlesOfPatterns : List Pattern → List Hurdle
  | [] => []
  | p :: ps => p.hurdles ++ hurdlesOfPatterns ps

end

def WithItem.hurdles (i : WithItem) : List Hurdle := i.context.hurdles ++ hurdlesOfOption i.target

mutual

def Stmt.hurdles : Stmt → List Hurdle
  | .functionDef _ _ _ ps b ds ret =>
    hurdlesOfAll ds ++ (hurdlesOfParams ps ++ (hurdlesOfOption ret ++ hurdlesOfBlock b))
  | .classDef _ _ bs ks b ds =>
    hurdlesOfAll ds ++ (hurdlesOfAll bs ++ (hurdlesOfKeywords ks ++ hurdlesOfBlock b))
  | .returnStmt _ v => hurdlesOfOption v
  | .delete _ ts => hurdlesOfAll ts
  | .assign _ ts v => hurdlesOfAll ts ++ v.hurdles
  | .augAssign _ t _ v => t.hurdles ++ v.hurdles
  | .annAssign _ t a v _ => t.hurdles ++ (a.hurdles ++ hurdlesOfOption v)
  | .forLoop _ _ t s b e => t.hurdles ++ (s.hurdles ++ (hurdlesOfBlock b ++ hurdlesOfBlock e))
  | .whileLoop _ t b e | .ifElse _ t b e => t.hurdles ++ (hurdlesOfBlock b ++ hurdlesOfBlock e)
  | .withBlock _ _ is b => is.flatMap WithItem.hurdles ++ hurdlesOfBlock b
  | .matchOn _ s cs => s.hurdles ++ hurdlesOfCases cs
  | .raise _ e c => hurdlesOfOption e ++ hurdlesOfOption c
  | .tryBlock _ _ b hs e f =>
    hurdlesOfBlock b ++ (hurdlesOfHandlers hs ++ (hurdlesOfBlock e ++ hurdlesOfBlock f))
  | .assert _ t m => t.hurdles ++ hurdlesOfOption m
  | .expr _ e => e.hurdles
  | _ => []

def hurdlesOfBlock : List Stmt → List Hurdle
  | [] => []
  | s :: ss => s.hurdles ++ hurdlesOfBlock ss

def hurdlesOfHandlers : List (Handler Stmt) → List Hurdle
  | [] => []
  | ⟨_, t, _, b⟩ :: hs => hurdlesOfOption t ++ (hurdlesOfBlock b ++ hurdlesOfHandlers hs)

def hurdlesOfCases : List (MatchCase Stmt) → List Hurdle
  | [] => []
  | ⟨p, g, b⟩ :: cs => p.hurdles ++ (hurdlesOfOption g ++ (hurdlesOfBlock b ++ hurdlesOfCases cs))

end

/-! ### Writing past hurdles -/

/-- Writing ends at the first hurdle that is not taken; without one it succeeds. -/
def Writes {α : Type} (x : Except Unprintable α) (hs : List Hurdle) : Prop :=
  match hs.findSome? Hurdle.trouble? with
  | some u => x = .error u
  | none => ∃ a, x = .ok a

namespace Writes

variable {α β : Type} {x : Except Unprintable α} {f : α → Except Unprintable β}
  {hs gs : List Hurdle}

theorem ok (a : α) : Writes (.ok a) [] := ⟨a, rfl⟩

theorem bind (first : Writes x hs) (rest : ∀ a, Writes (f a) gs) : Writes (x >>= f) (hs ++ gs) := by
  unfold Writes at *
  rw [List.findSome?_append]
  cases found : hs.findSome? Hurdle.trouble? with
  | some u =>
    rw [found] at first
    simp only at first
    subst first
    rfl
  | none =>
    rw [found] at first
    obtain ⟨a, rfl⟩ := first
    exact rest a

/-- A last step that cannot fail. -/
theorem last (first : Writes x hs) (rest : ∀ a, Writes (f a) []) : Writes (x >>= f) hs := by
  have := first.bind rest
  rwa [List.append_nil] at this

theorem map (first : Writes x hs) (f : α → β) : Writes (x >>= fun a => pure (f a)) hs :=
  first.last fun a => ok (f a)

/-- The expression of a replacement field is looked through for backslashes once it is written. -/
theorem fieldExpr {v : Expr} {text : String} (printed : v.print true .or = .ok text) :
    Writes (Script.fieldExpr text) [.field v] := by
  unfold Writes Script.fieldExpr
  by_cases escaped : text.toList.contains '\\' = true
  · simp only [List.findSome?_cons, Hurdle.trouble?, printed, escaped, if_true]
  · simp only [List.findSome?_cons, List.findSome?_nil, Hurdle.trouble?, printed, escaped]
    exact ⟨text, rfl⟩

theorem field {v : Expr} {f : String → Except Unprintable β}
    (value : Writes (v.print true .or) hs) (rest : ∀ a, Writes (f a) gs) :
    Writes (v.print true .or >>= fun text => Script.fieldExpr text >>= f)
      (hs ++ (.field v :: gs)) := by
  cases printed : v.print true .or with
  | error u =>
    rw [printed] at value
    unfold Writes at *
    rw [List.findSome?_append]
    cases found : hs.findSome? Hurdle.trouble? with
    | some u' =>
      rw [found] at value
      exact congrArg _ (Except.error.inj value)
    | none =>
      rw [found] at value
      obtain ⟨_, impossible⟩ := value
      cases impossible
  | ok text =>
    have checked : Writes (Script.fieldExpr text >>= f) ([.field v] ++ gs) :=
      (fieldExpr printed).bind rest
    rw [printed] at value
    exact value.bind (f := fun _ => Script.fieldExpr text >>= f) fun _ => checked

end Writes

theorem Literal.writes (sparing : Bool) (v : Literal) : Writes (v.print sparing) v.hurdles := by
  cases v with
  | int n =>
    unfold Writes
    by_cases long : (toString n).length > maxWrittenDigits
    · simp only [hurdles, List.findSome?_cons, Hurdle.trouble?, Literal.print, long, if_true]
    · simp only [hurdles, List.findSome?_cons, List.findSome?_nil, Hurdle.trouble?, Literal.print,
        long, if_false]
      exact ⟨_, rfl⟩
  | _ => exact ⟨_, rfl⟩

mutual

theorem Expr.writes (sparing : Bool) : ∀ (level : Level) (e : Expr),
    Writes (e.print sparing level) e.hurdles
  | _, .boolOp _ op vs => (writes_steps sparing op.level.next vs).map _
  | _, .named _ t v => (t.writes sparing .atom).bind fun _ => (v.writes sparing .atom).map _
  | _, .binOp _ a op b => by
    rw [Expr.print]
    split
    exact (a.writes sparing _).bind fun _ => (b.writes sparing _).map _
  | _, .unaryOp _ op a => (a.writes sparing op.level).map _
  | _, .lambda _ ps b => (writes_params sparing ps).bind fun _ => (b.writes sparing .test).map _
  | _, .ifElse _ t b e => (b.writes sparing .or).bind fun _ =>
    (t.writes sparing .or).bind fun _ => (e.writes sparing .test).map _
  | _, .dict _ is => (writes_items sparing is).map _
  | _, .set _ es => (writes_all sparing es).map _
  | _, .comprehension _ k e cs => by
    cases k <;> exact (e.writes sparing .test).bind fun _ => (writes_clauses sparing cs).map _
  | _, .dictComprehension _ k v cs => (k.writes sparing .test).bind fun _ =>
    (v.writes sparing .test).bind fun _ => (writes_clauses sparing cs).map _
  | _, .await _ v => (v.writes sparing .atom).map _
  | _, .yield _ none => .ok _
  | _, .yield _ (some v) => (v.writes sparing .atom).map _
  | _, .yieldFrom _ v => (v.writes sparing .atom).map _
  | _, .compare _ a cs => (a.writes sparing .bitOr).bind fun _ => (writes_chain sparing cs).map _
  | _, .call _ f as ks => (f.writes sparing .atom).bind fun _ =>
    (writes_all sparing as).bind fun _ => (writes_keywords sparing ks).map _
  | _, .formatted _ v _ s => (v.writes true .or).field fun _ => (writes_spec s).map _
  | _, .joined _ ps => by
    cases sparing <;> exact (writes_parts ps).last fun _ => .ok _
  | _, .literal _ v => v.writes sparing
  | _, .member _ v _ => (v.writes sparing .atom).map _
  | _, .subscript _ v i => by
    cases i with
    | tuple r es =>
      cases es with
      | nil => exact (v.writes sparing .atom).bind fun _ => .ok _
      | cons e es =>
        exact (v.writes sparing .atom).bind fun _ =>
          (e.writes sparing .test).bind fun _ => (writes_all sparing es).map _
    | _ => exact (v.writes sparing .atom).bind fun _ => (Expr.writes sparing .test _).map _
  | _, .starred _ v => (v.writes sparing .bitOr).map _
  | _, .name .. => .ok _
  | _, .list _ es => (writes_all sparing es).map _
  | _, .tuple _ es => (writes_all sparing es).map _
  | _, .slice _ l u none => (Writes.ok "").bind fun _ =>
    (writes_option sparing l).bind fun _ => (writes_option sparing u).map _
  | _, .slice _ l u (some e) => (e.writes sparing .test).bind fun _ => (Writes.ok _).bind fun _ =>
    (writes_option sparing l).bind fun _ => (writes_option sparing u).map _

theorem writes_all (sparing : Bool) : ∀ es : List Expr, Writes (printAll sparing es) (hurdlesOfAll es)
  | [] => .ok _
  | e :: es => (e.writes sparing .test).bind fun _ => (writes_all sparing es).map _

theorem writes_steps (sparing : Bool) (level : Level) : ∀ es : List Expr,
    Writes (printSteps sparing level es) (hurdlesOfAll es)
  | [] => .ok _
  | e :: es => (e.writes sparing level).bind fun _ => (writes_steps sparing level.next es).map _

theorem writes_option (sparing : Bool) : ∀ o : Option Expr,
    Writes (printOption sparing o) (hurdlesOfOption o)
  | none => .ok _
  | some e => e.writes sparing .test

theorem writes_items (sparing : Bool) : ∀ is : List (DictItem Expr),
    Writes (printItems sparing is) (hurdlesOfItems is)
  | [] => .ok _
  | ⟨none, v⟩ :: is => (v.writes sparing .bitOr).bind fun _ => (writes_items sparing is).map _
  | ⟨some k, v⟩ :: is => (k.writes sparing .test).bind fun _ =>
    (v.writes sparing .test).bind fun _ => (writes_items sparing is).map _

theorem writes_chain (sparing : Bool) : ∀ cs : List (Comparand Expr),
    Writes (printChain sparing cs) (hurdlesOfChain cs)
  | [] => .ok _
  | ⟨_, e⟩ :: cs => (e.writes sparing .bitOr).bind fun _ => (writes_chain sparing cs).map _

theorem writes_keywords (sparing : Bool) : ∀ ks : List (Keyword Expr),
    Writes (printKeywords sparing ks) (hurdlesOfKeywords ks)
  | [] => .ok _
  | ⟨_, _, v⟩ :: ks => (v.writes sparing .test).bind fun _ => (writes_keywords sparing ks).map _

theorem writes_clauses (sparing : Bool) : ∀ cs : List (Clause Expr),
    Writes (printClauses sparing cs) (hurdlesOfClauses cs)
  | [] => .ok _
  | ⟨_, t, s, is⟩ :: cs => (t.writes sparing .tuple).bind fun _ =>
    (s.writes sparing .or).bind fun _ => (writes_conditions sparing is).bind fun _ =>
      (writes_clauses sparing cs).map _

theorem writes_conditions (sparing : Bool) : ∀ es : List Expr,
    Writes (printConditions sparing es) (hurdlesOfAll es)
  | [] => .ok _
  | e :: es => (e.writes sparing .or).bind fun _ => (writes_conditions sparing es).map _

theorem writes_param (sparing : Bool) : ∀ ps : List (Param Expr),
    Writes (printParam sparing ps) (hurdlesOfParam ps)
  | [] => .ok _
  | ⟨_, _, none, none⟩ :: ps => (writes_param sparing ps).map _
  | ⟨_, _, none, some e⟩ :: ps => (e.writes sparing .test).bind fun _ => (Writes.ok _).bind fun _ =>
    (writes_param sparing ps).map _
  | ⟨_, _, some a, none⟩ :: ps => (a.writes sparing .test).bind fun _ => (Writes.ok _).bind fun _ =>
    (writes_param sparing ps).map _
  | ⟨_, _, some a, some e⟩ :: ps => (a.writes sparing .test).bind fun _ =>
    (Writes.ok _).bind fun _ => (e.writes sparing .test).bind fun _ => (Writes.ok _).bind fun _ =>
      (writes_param sparing ps).map _

theorem writes_rest (sparing : Bool) : ∀ p : Option (Param Expr),
    Writes (printRest sparing p) (hurdlesOfRest p)
  | none => .ok _
  | some ⟨_, _, none, _⟩ => .ok _
  | some ⟨_, _, some e, _⟩ => (e.writes sparing .test).map _

theorem writes_params (sparing : Bool) : ∀ ps : Params Expr,
    Writes (printParams sparing ps) (hurdlesOfParams ps)
  | ⟨po, pl, r, ko, kr⟩ => (writes_param sparing po).bind fun _ =>
    (writes_param sparing pl).bind fun _ => (writes_rest sparing r).bind fun _ =>
      (writes_param sparing ko).bind fun _ => (writes_rest sparing kr).map _

theorem writes_parts : ∀ es : List Expr, Writes (printParts es) (hurdlesOfParts es)
  | [] => .ok _
  | e :: es => by
    cases e with
    | literal => exact (writes_parts es).map _
    | formatted _ v _ s =>
      exact (v.writes true .or).field fun _ => (writes_spec s).bind fun _ => (writes_parts es).map _
    | _ => exact writes_parts es

theorem writes_spec : ∀ o : Option Expr, Writes (printSpec o) (hurdlesOfSpec o)
  | none => .ok _
  | some e => by
    cases e with
    | joined _ ps => exact (writes_parts ps).map _
    | _ => exact .ok _

end

mutual

theorem Pattern.writes : ∀ (level : Level) (p : Pattern), Writes (p.print level) p.hurdles
  | _, .value _ v => v.writes false .test
  | _, .singleton _ v => v.writes false
  | _, .sequence _ ps => (writes_patterns .test ps).map _
  | _, .mapping _ ks ps _ => (writes_all false ks).bind fun _ => (writes_patterns .test ps).map _
  | _, .classPattern _ c ps _ qs => (writes_patterns .test qs).bind fun _ =>
    (c.writes false .atom).bind fun _ => (writes_patterns .test ps).map _
  | _, .star .. => .ok _
  | _, .capture _ none _ => .ok _
  | _, .capture _ (some p) _ => (p.writes .bitOr).map _
  | _, .alternatives _ ps => (writes_patterns .bitXor ps).map _

theorem writes_patterns (level : Level) : ∀ ps : List Pattern,
    Writes (printPatterns level ps) (hurdlesOfPatterns ps)
  | [] => .ok _
  | p :: ps => (p.writes level).bind fun _ => (writes_patterns level ps).map _

end

/-! ### Statements -/

theorem writes_optional (head : String) (o : Option Expr) :
    Writes (printOptional head o) (hurdlesOfOption o) := by
  cases o with
  | none => exact .ok _
  | some e => exact (e.writes false .test).map _

theorem Writes.mapM {α β : Type} {f : α → Except Unprintable β} {g : α → List Hurdle}
    (each : ∀ a, Writes (f a) (g a)) (as : List α) : Writes (as.mapM f) (as.flatMap g) := by
  induction as with
  | nil => exact .ok _
  | cons a as ih =>
    rw [List.mapM_cons]
    exact (each a).bind fun _ => ih.map _

theorem hurdlesOfAll_eq (es : List Expr) : hurdlesOfAll es = es.flatMap Expr.hurdles := by
  induction es with
  | nil => rfl
  | cons e es ih => rw [hurdlesOfAll, ih, List.flatMap_cons]

theorem WithItem.writes (i : WithItem) : Writes (printWithItem i) i.hurdles :=
  (i.context.writes false .test).bind fun _ => (writes_optional _ i.target).map _

/-- Expressions that are written one by one with something around them. -/
theorem writes_each (level : Level) (f : String → String) (es : List Expr) :
    Writes (es.mapM fun e => do return f (← e.print false level)) (hurdlesOfAll es) := by
  rw [hurdlesOfAll_eq]
  exact Writes.mapM (fun e => (e.writes false level).map f) es

/-- A docstring is text, which can always be written. -/
theorem hurdles_of_docstring {s : Stmt} {d : String × List Nat}
    (documented : (splitDocstring [s]).1 = some d) : s.hurdles = [] := by
  cases s with
  | expr r e =>
    cases e with
    | literal l v => cases v <;> first | rfl | cases documented
    | _ => cases documented
  | _ => cases documented

mutual

theorem Stmt.writes : ∀ (indent : Nat) (s : Stmt), Writes (s.print indent) s.hurdles
  | _, .functionDef _ _ _ ps b ds ret => (writes_each .test _ ds).bind fun _ =>
    (writes_params false ps).bind fun _ => (writes_optional _ ret).bind fun _ =>
      (writes_body _ b).map _
  | _, .classDef _ _ bs ks b ds => (writes_each .test _ ds).bind fun _ =>
    (writes_all false bs).bind fun _ => (writes_keywords false ks).bind fun _ =>
      (writes_body _ b).map _
  | _, .forLoop _ _ t s b e => (t.writes false .tuple).bind fun _ =>
    (s.writes false .test).bind fun _ => (writes_block _ b).bind fun _ => (writes_final _ _ e).map _
  | _, .whileLoop _ t b e => (t.writes false .test).bind fun _ =>
    (writes_block _ b).bind fun _ => (writes_final _ _ e).map _
  | _, .ifElse _ t b e => (t.writes false .test).bind fun _ =>
    (writes_block _ b).bind fun _ => (writes_else _ e).map _
  | _, .withBlock _ _ is b => (Writes.mapM WithItem.writes is).bind fun _ => (writes_block _ b).map _
  | _, .matchOn _ s cs => (s.writes false .test).bind fun _ => (writes_cases _ cs).map _
  | _, .tryBlock _ _ b hs e f => (writes_block _ b).bind fun _ =>
    (writes_handlers _ _ hs).bind fun _ => (writes_final _ _ e).bind fun _ =>
      (writes_final _ _ f).map _
  | _, .returnStmt _ v => ((writes_optional _ v).map _).map _
  | _, .delete _ ts => ((writes_all false ts).map _).map _
  | _, .assign _ ts v => ((writes_each .tuple _ ts).bind fun _ => (v.writes false .test).map _).map _
  | _, .augAssign _ t _ v =>
    ((t.writes false .test).bind fun _ => (v.writes false .test).map _).map _
  | _, .annAssign _ t a v _ => ((t.writes false .test).bind fun _ =>
    (a.writes false .test).bind fun _ => (writes_optional _ v).map _).map _
  | _, .raise _ e c => ((writes_optional _ e).bind fun _ => (writes_optional _ c).map _).map _
  | _, .assert _ t m => ((t.writes false .test).bind fun _ => (writes_optional _ m).map _).map _
  | _, .expr _ e => ((e.writes false .yield).map _).map _
  | _, .importModules .. | _, .importFrom .. | _, .global .. | _, .nonlocal .. | _, .pass ..
  | _, .breakLoop .. | _, .continueLoop .. => .ok _

theorem writes_block (indent : Nat) : ∀ ss : List Stmt,
    Writes (printBlock indent ss) (hurdlesOfBlock ss)
  | [] => .ok _
  | s :: ss => (s.writes indent).bind fun _ => (writes_block indent ss).map _

theorem writes_body (indent : Nat) : ∀ ss : List Stmt,
    Writes (printBody indent ss) (hurdlesOfBlock ss)
  | [] => .ok _
  | s :: ss => by
    have head := s.writes indent
    have rest := writes_block indent ss
    rw [printBody, hurdlesOfBlock]
    cases documented : (splitDocstring [s]).1 with
    | none => exact head.bind fun _ => rest.map _
    | some d =>
      rw [hurdles_of_docstring documented]
      exact (Writes.ok _).bind fun _ => rest.map _

theorem writes_final (indent : Nat) (word : String) : ∀ ss : List Stmt,
    Writes (printFinal indent word ss) (hurdlesOfBlock ss)
  | [] => .ok _
  | s :: ss => (s.writes _).bind fun _ => (writes_block _ ss).map _

theorem writes_else (indent : Nat) : ∀ ss : List Stmt,
    Writes (printElse indent ss) (hurdlesOfBlock ss)
  | [] => .ok _
  | s :: ss => by
    cases s with
    | ifElse r t b e =>
      cases ss with
      | nil =>
        rw [hurdlesOfBlock, hurdlesOfBlock, List.append_nil]
        exact (t.writes false .test).bind fun _ => (writes_block _ b).bind fun _ =>
          (writes_else _ e).map _
      | cons => exact (Stmt.writes _ _).bind fun _ => (writes_block _ _).map _
    | _ => exact (Stmt.writes _ _).bind fun _ => (writes_block _ ss).map _

theorem writes_handlers (indent : Nat) (word : String) : ∀ hs : List (Handler Stmt),
    Writes (printHandlers indent word hs) (hurdlesOfHandlers hs)
  | [] => .ok _
  | ⟨_, t, _, b⟩ :: hs => (writes_optional _ t).bind fun _ => (writes_block _ b).bind fun _ =>
    (writes_handlers indent word hs).map _

theorem writes_cases (indent : Nat) : ∀ cs : List (MatchCase Stmt),
    Writes (printCases indent cs) (hurdlesOfCases cs)
  | [] => .ok _
  | ⟨p, g, b⟩ :: cs => (p.writes .test).bind fun _ => (writes_optional _ g).bind fun _ =>
    (writes_block _ b).bind fun _ => (writes_cases indent cs).map _

end

theorem writes_script (script : List Stmt) : Writes (printScript script) (hurdlesOfBlock script) :=
  (writes_body 0 script).map _

/-! ### Lowering -/

theorem Writes.eq_error_iff {α : Type} {x : Except Unprintable α} {hs : List Hurdle}
    (h : Writes x hs) (u : Unprintable) :
    x = .error u ↔ hs.findSome? Hurdle.trouble? = some u := by
  unfold Writes at h
  cases found : hs.findSome? Hurdle.trouble? with
  | some u' =>
    rw [found] at h
    simp [h]
  | none =>
    rw [found] at h
    obtain ⟨a, rfl⟩ := h
    simp

theorem Writes.exists_ok_iff {α : Type} {x : Except Unprintable α} {hs : List Hurdle}
    (h : Writes x hs) : (∃ a, x = .ok a) ↔ ∀ hurdle ∈ hs, hurdle.trouble? = none := by
  rw [← List.findSome?_eq_none_iff]
  cases x with
  | ok a =>
    refine iff_of_true ⟨a, rfl⟩ (Option.eq_none_iff_forall_ne_some.mpr fun u found => ?_)
    cases (h.eq_error_iff u).mpr found
  | error u => exact iff_of_false (by simp) (by simp [(h.eq_error_iff u).mp rfl])

/-- Lowering reports what reading and checking reject, as they report it. A text that they accept is
lowered exactly if its script without annotations holds no integer with too many digits and no
replacement field whose expression needs a backslash; else the first of them is reported, although
there is no fault in the text. -/
theorem lower_refuses (text : String) :
    (∀ r, parseChecked text = .error r → lower text = .error (.ofRejection r)) ∧
    ∀ script, parseChecked text = .ok script →
      ((∃ code, lower text = .ok code) ↔
        ∀ hurdle ∈ hurdlesOfBlock (plainScript script), hurdle.trouble? = none) ∧
      ∀ u, lower text = .error (.unprintable u) ↔
        (hurdlesOfBlock (plainScript script)).findSome? Hurdle.trouble? = some u := by
  refine ⟨fun r rejected => by simp [lower, rejected], fun script accepted => ?_⟩
  have writes := writes_script (plainScript script)
  rw [← writes.exists_ok_iff]
  simp only [← writes.eq_error_iff]
  cases written : printScript (plainScript script) with
  | ok code => simp [lower, accepted, written]
  | error u => simp [lower, accepted, written]

/-- A format string with a character that is never shown as it is. -/
def escaping : String := "x = f'\x7b\"\u200b\"\x7d'\n"

/-- Not all texts that pass the checks are lowered. -/
theorem escaping_refused : ¬ ∀ text script, parseChecked text = .ok script →
    ∃ code, lower text = .ok code := by
  intro all
  obtain ⟨script, accepted, _⟩ := exists_of_any_toOption
    (by decide +kernel : (parseChecked escaping).toOption.any (fun _ => true) = true)
  obtain ⟨code, lowered⟩ := all _ _ accepted
  have refused : (lower escaping).isOk = false := by decide +kernel
  rw [lowered] at refused
  cases refused

end RuleBench.Script
