import RuleBench.Proofs.Script.Reread
import RuleBench.Proofs.Script.Surroundings

/-!
# Lowering and names

In what is left of a script a name belongs where it belonged, unless what was left out had given the
name to the block that it belonged to. A body keeps its docstring, unless it starts with an annotated
name that has no value.
-/

namespace RuleBench.Script

/-! ### Docstrings -/

mutual

/-- The bodies of the functions and classes of a statement, in reading order. -/
def Stmt.bodies : Stmt → List (List Stmt)
  | .functionDef _ _ _ _ b _ _ => b :: bodiesOfBlock b
  | .classDef _ _ _ _ b _ => b :: bodiesOfBlock b
  | .forLoop _ _ _ _ b e => bodiesOfBlock b ++ bodiesOfBlock e
  | .whileLoop _ _ b e => bodiesOfBlock b ++ bodiesOfBlock e
  | .ifElse _ _ b e => bodiesOfBlock b ++ bodiesOfBlock e
  | .withBlock _ _ _ b => bodiesOfBlock b
  | .matchOn _ _ cs => bodiesOfCases cs
  | .tryBlock _ _ b hs e f =>
    bodiesOfBlock b ++ bodiesOfHandlers hs ++ bodiesOfBlock e ++ bodiesOfBlock f
  | _ => []

def bodiesOfBlock : List Stmt → List (List Stmt)
  | [] => []
  | s :: ss => s.bodies ++ bodiesOfBlock ss

def bodiesOfHandlers : List (Handler Stmt) → List (List Stmt)
  | [] => []
  | ⟨_, _, _, b⟩ :: hs => bodiesOfBlock b ++ bodiesOfHandlers hs

def bodiesOfCases : List (MatchCase Stmt) → List (List Stmt)
  | [] => []
  | ⟨_, _, b⟩ :: cs => bodiesOfBlock b ++ bodiesOfCases cs

end

/-- A body starts with an annotated name, or with another annotated target, that has no value. -/
def startsBare : List Stmt → Bool
  | .annAssign _ _ _ none _ :: _ => true
  | _ => false

/-- A body and what is left of it. -/
def Left (b b' : List Stmt) : Prop := ∃ r, b' = filled r (plainBlock b)

/-- A docstring is told from the first statement alone. -/
theorem splitDocstring_cons (s : Stmt) (ss ts : List Stmt) :
    (splitDocstring (s :: ss)).1 = (splitDocstring (s :: ts)).1 := by
  cases s with
  | expr r e =>
    cases e with
    | literal l v =>
      simp only [splitDocstring]
      cases v.textCodes? <;> rfl
    | _ => rfl
  | _ => rfl

/-- A body keeps its docstring, and gets none, if it starts with something that stays. -/
theorem Left.docstring {b b' : List Stmt} (h : Left b b') (full : startsBare b = false) :
    (splitDocstring b').1 = (splitDocstring b).1 := by
  obtain ⟨r, rfl⟩ := h
  cases b with
  | nil => rfl
  | cons s ss =>
    cases s with
    | annAssign r t a v simple =>
      cases v with
      | none => cases full
      | some v => rfl
    | expr r e => exact splitDocstring_cons _ _ _
    | _ => rfl

theorem bodiesOfBlock_append (ss ts : List Stmt) :
    bodiesOfBlock (ss ++ ts) = bodiesOfBlock ss ++ bodiesOfBlock ts := by
  induction ss with
  | nil => rfl
  | cons s ss ih => simp [bodiesOfBlock, ih]

@[simp] theorem bodiesOfBlock_filled (r : Region) (ss : List Stmt) :
    bodiesOfBlock (filled r ss) = bodiesOfBlock ss := by
  cases ss <;> rfl

mutual

theorem Stmt.left_bodies : ∀ s : Stmt, List.Forall₂ Left s.bodies (bodiesOfBlock s.plain.toList)
  | .functionDef r _ _ _ b _ _ | .classDef r _ _ _ b _ => by
    simp only [Stmt.plain, Option.toList_some, bodiesOfBlock, Stmt.bodies, bodiesOfBlock_filled,
      List.append_nil]
    exact .cons ⟨r, rfl⟩ (left_bodiesOfBlock b)
  | .forLoop _ _ _ _ b e | .whileLoop _ _ b e | .ifElse _ _ b e => by
    simp only [Stmt.plain, Option.toList_some, bodiesOfBlock, Stmt.bodies, bodiesOfBlock_filled,
      List.append_nil]
    exact List.rel_append (left_bodiesOfBlock b) (left_bodiesOfBlock e)
  | .withBlock _ _ _ b => by
    simp only [Stmt.plain, Option.toList_some, bodiesOfBlock, Stmt.bodies, bodiesOfBlock_filled,
      List.append_nil]
    exact left_bodiesOfBlock b
  | .matchOn r _ cs => by
    simp only [Stmt.plain, Option.toList_some, bodiesOfBlock, Stmt.bodies, List.append_nil]
    exact left_bodiesOfCases r cs
  | .tryBlock r _ b hs e f => by
    have final : bodiesOfBlock (if hs.isEmpty then filled r (plainBlock f) else plainBlock f) =
        bodiesOfBlock (plainBlock f) := by
      split
      · exact bodiesOfBlock_filled r _
      · rfl
    simp only [Stmt.plain, Option.toList_some, bodiesOfBlock, Stmt.bodies, bodiesOfBlock_filled,
      List.append_nil, final]
    exact List.rel_append (List.rel_append (List.rel_append (left_bodiesOfBlock b)
      (left_bodiesOfHandlers hs)) (left_bodiesOfBlock e)) (left_bodiesOfBlock f)
  | .annAssign _ _ _ v _ => by cases v <;> exact .nil
  | .returnStmt .. | .delete .. | .assign .. | .augAssign .. | .raise .. | .assert ..
  | .importModules .. | .importFrom .. | .global .. | .nonlocal .. | .expr .. | .pass ..
  | .breakLoop .. | .continueLoop .. => .nil

/-- Lowering keeps all functions and classes, in their order. -/
theorem left_bodiesOfBlock : ∀ ss : List Stmt,
    List.Forall₂ Left (bodiesOfBlock ss) (bodiesOfBlock (plainBlock ss))
  | [] => .nil
  | s :: ss => by
    rw [plainBlock, bodiesOfBlock_append]
    exact List.rel_append s.left_bodies (left_bodiesOfBlock ss)

theorem left_bodiesOfHandlers : ∀ hs : List (Handler Stmt),
    List.Forall₂ Left (bodiesOfHandlers hs) (bodiesOfHandlers (plainHandlers hs))
  | [] => .nil
  | ⟨_, _, _, b⟩ :: hs => by
    simp only [plainHandlers, bodiesOfHandlers, bodiesOfBlock_filled]
    exact List.rel_append (left_bodiesOfBlock b) (left_bodiesOfHandlers hs)

theorem left_bodiesOfCases (r : Region) : ∀ cs : List (MatchCase Stmt),
    List.Forall₂ Left (bodiesOfCases cs) (bodiesOfCases (plainCases r cs))
  | [] => .nil
  | ⟨_, _, b⟩ :: cs => by
    simp only [plainCases, bodiesOfCases, bodiesOfBlock_filled]
    exact List.rel_append (left_bodiesOfBlock b) (left_bodiesOfCases r cs)

end

/-- Every body of a script keeps its docstring, unless it starts with an annotated name that has no
value. -/
theorem docstrings_kept (script : List Stmt) : List.Forall₂
    (fun b b' => Left b b' ∧
      (startsBare b = false → (splitDocstring b').1 = (splitDocstring b).1))
    (script :: bodiesOfBlock script) (plainScript script :: bodiesOfBlock (plainScript script)) := by
  have left : List.Forall₂ Left (script :: bodiesOfBlock script)
      (plainScript script :: bodiesOfBlock (plainScript script)) := by
    rw [plainScript, bodiesOfBlock_filled]
    exact .cons ⟨default, rfl⟩ (left_bodiesOfBlock script)
  exact left.imp fun b b' h => ⟨h, h.docstring⟩

/-! ### Names -/

/-- Every mention that is left was a mention of the script. -/
theorem exists_fate {fs : List Fate} {before after : List Mention} {m' : Mention}
    (left : fs.filterMap Prod.snd = before ++ m' :: after) : ∃ pre m post,
      fs = pre ++ (m, some m') :: post ∧ pre.filterMap Prod.snd = before ∧
        post.filterMap Prod.snd = after := by
  obtain ⟨first, second, rfl, rfl, rest⟩ := List.filterMap_eq_append_iff.mp left
  obtain ⟨passed, ⟨m, r⟩, post, rfl, none, rfl, rfl⟩ := List.filterMap_eq_cons_iff.mp rest
  refine ⟨first ++ passed, m, post, by simp, ?_, rfl⟩
  rw [List.filterMap_append, List.filterMap_eq_nil_iff.mpr none, List.append_nil]

/-- Around a mention that stays, there are the same blocks in what is left of a script, and each of
them may only have lost names. -/
theorem Thinned.surroundings {fs : List Fate} (h : Thinned [] fs) {lost : String → Prop}
    {later : Bool} (bound : ∀ m, (m, none) ∈ fs → ∀ n, m.Binds n → lost n) {root : Block}
    (ok : Block.ofMentions later (fs.map Prod.fst) = .ok root) {pre post : List Fate}
    {m m' : Mention} (parts : fs = pre ++ (m, some m') :: post) :
    ∃ bs bs', blocksAround later (pre.map Prod.fst) (m :: post.map Prod.fst) = .ok bs ∧
      blocksAround later (pre.filterMap Prod.snd) (m' :: post.filterMap Prod.snd) = .ok bs' ∧
      List.Forall₂ (Block.Trimmed lost) bs bs' := by
  have related : OpenBlocks.start.Trimmed lost OpenBlocks.start := ⟨.start .module none 0, .nil⟩
  simp only [Block.ofMentions, bind, Except.bind] at ok
  cases read : OpenBlocks.start.read later (fs.map Prod.fst) with
  | error e =>
    have failed : (fs.map Prod.fst).foldlM (OpenBlocks.step later) ⟨.start .module none 0, []⟩ =
      .error e := read
    simp [failed] at ok
  | ok t =>
    obtain ⟨ks, u, u', apace, inside, rest⟩ := h.reaches related rfl bound read parts (by simp)
    have behind : u.read later (((m, some m') :: post).map Prod.fst) = .ok t := by
      rw [parts, List.map_append] at read
      obtain ⟨v, first, second⟩ := OpenBlocks.read_append_eq_ok.mp read
      obtain rfl : v = u := Except.ok.inj (first.symm.trans apace.whole)
      exact second
    have bound' : ∀ x, (x, none) ∈ (m, some m') :: post → ∀ n, x.Binds n → lost n := by
      intro x mem
      exact bound x (parts ▸ List.mem_append_right _ mem)
    obtain ⟨bs, bs', finish, finish', comparable⟩ :=
      rest.finishes apace.trimmed inside bound' behind (Nat.le_refl u.height)
    refine ⟨bs, bs', ?_, ?_, comparable⟩
    · simp only [blocksAround, apace.whole, bind, Except.bind]
      exact finish
    · simp only [blocksAround, apace.left, bind, Except.bind, apace.trimmed.height]
      exact finish'

/-- Lowering a script that passes the checks keeps its docstrings and leaves every name where it
belongs, but for bodies that start with an annotated name without a value, and for names whose home
has lost them to what was left out. -/
theorem lowering_keeps_homes {script : List Stmt} (ok : check script = .ok ()) {future : Future}
    (switches : Future.ofScript script = .ok future) :
    (∀ before m' after, mentionsOfBlock (plainScript script) = before ++ m' :: after →
      ∃ pre m post bs bs', fatesOfBlock script = pre ++ (m, some m') :: post ∧
        pre.filterMap Prod.snd = before ∧ post.filterMap Prod.snd = after ∧
        blocksAround future.annotations (pre.map Prod.fst) (m :: post.map Prod.fst) = .ok bs ∧
        blocksAround future.annotations before (m' :: after) = .ok bs' ∧
        bs'.map Block.kind = bs.map Block.kind ∧
        ∀ n, Block.home n bs' = Block.home n bs ∨ ∃ out, Block.home n bs = .block out ∧
          Block.Loses n bs bs' out ∧ BoundByDropped script n) ∧
    List.Forall₂
      (fun b b' => startsBare b = false → (splitDocstring b').1 = (splitDocstring b).1)
      (script :: bodiesOfBlock script)
      (plainScript script :: bodiesOfBlock (plainScript script)) := by
  refine ⟨?_, (docstrings_kept script).imp fun _ _ h => h.2⟩
  intro before m' after here
  obtain ⟨future', scope, switches', resolves, -⟩ := check_eq_ok.mp ok
  obtain rfl : future' = future := Except.ok.inj (switches'.symm.trans switches)
  rw [plainScript, mentionsOfBlock_filled, ← snd_fatesOfBlock] at here
  obtain ⟨pre, m, post, parts, rfl, rfl⟩ := exists_fate here
  cases blocks : Block.ofMentions future'.annotations (mentionsOfBlock script) with
  | error e => simp [Scope.ofScript, blocks, bind, Except.bind] at resolves
  | ok root =>
    rw [← fst_fatesOfBlock] at blocks
    obtain ⟨bs, bs', around, around', comparable⟩ :=
      (thinned_fatesOfBlock script).surroundings
        (fun m mem n binds => (⟨m, mem, binds⟩ : BoundByDropped script n)) blocks parts
    have kinds : bs'.map Block.kind = bs.map Block.kind :=
      (map_eq_of_forall₂ comparable fun _ _ h => h.kind.symm).symm
    exact ⟨pre, m, post, bs, bs', parts, rfl, rfl, around, around', kinds,
      fun n => Block.home_trimmed comparable n⟩

/-! ### A declaration that matters -/

/-- A function with a name that is its own for a declaration only. -/
def returning : String := "def f():\n    x: int\n    return x\n"

/-- What `returning` is read as, with the places left open. -/
def returningTree (r₁ r₂ r₃ r₄ r₅ r₆ : Region) : List Stmt :=
  [.functionDef r₁ false "f" ⟨[], [], none, [], none⟩
    [.annAssign r₂ (.name r₃ "x") (.name r₄ "int") none true,
      .returnStmt r₅ (some (.name r₆ "x"))] [] none]

/-- Whether a body declares and returns `x`. -/
def declaresAndReturns : List Stmt → Bool
  | [.annAssign _ (.name _ x) (.name _ t) none true, .returnStmt _ (some (.name _ y))] =>
    x == "x" && t == "int" && y == "x"
  | _ => false

theorem parse_returning : ∃ r₁ r₂ r₃ r₄ r₅ r₆,
    parse returning = .ok (returningTree r₁ r₂ r₃ r₄ r₅ r₆) := by
  obtain ⟨_, read, shape⟩ := exists_of_any_toOption
    (by decide +kernel : (parse returning).toOption.any (isFunctionOf declaresAndReturns) = true)
  obtain ⟨r, body, declares, rfl⟩ := eq_of_isFunctionOf shape
  unfold declaresAndReturns at declares
  split at declares
  · simp only [Bool.and_eq_true, beq_iff_eq] at declares
    obtain ⟨⟨rfl, rfl⟩, rfl⟩ := declares
    exact ⟨_, _, _, _, _, _, read⟩
  · cases declares

/-- A script that starts with a declaration and a text. -/
def captioned : String := "x: int\n'text'\n"

/-- Whether a script declares `x` and then has a text. -/
def declaresThenTells : List Stmt → Bool
  | [.annAssign _ (.name _ x) (.name _ t) none true, .expr _ (.literal _ (.str s _))] =>
    x == "x" && t == "int" && s == "text"
  | _ => false

theorem parse_captioned : ∃ r₁ r₂ r₃ r₄ r₅ unicode, parse captioned =
    .ok [.annAssign r₁ (.name r₂ "x") (.name r₃ "int") none true,
      .expr r₄ (.literal r₅ (.str "text" unicode))] := by
  obtain ⟨_, read, shape⟩ := exists_of_any_toOption
    (by decide +kernel : (parse captioned).toOption.any declaresThenTells = true)
  unfold declaresThenTells at shape
  split at shape
  · simp only [Bool.and_eq_true, beq_iff_eq] at shape
    obtain ⟨⟨rfl, rfl⟩, rfl⟩ := shape
    exact ⟨_, _, _, _, _, _, read⟩
  · cases shape

theorem returning_homes : ∃ script, parse returning = .ok script ∧ check script = .ok () ∧
    Future.ofScript script = .ok .none ∧
    (∀ before m' after, mentionsOfBlock (plainScript script) = before ++ m' :: after →
      ∃ pre m post bs bs', fatesOfBlock script = pre ++ (m, some m') :: post ∧
        pre.filterMap Prod.snd = before ∧ post.filterMap Prod.snd = after ∧
        blocksAround false (pre.map Prod.fst) (m :: post.map Prod.fst) = .ok bs ∧
        blocksAround false before (m' :: after) = .ok bs' ∧
        bs'.map Block.kind = bs.map Block.kind ∧
        ∀ n, Block.home n bs' = Block.home n bs ∨ ∃ out, Block.home n bs = .block out ∧
          Block.Loses n bs bs' out ∧ BoundByDropped script n) ∧
    List.Forall₂
      (fun b b' => startsBare b = false → (splitDocstring b').1 = (splitDocstring b).1)
      (script :: bodiesOfBlock script)
      (plainScript script :: bodiesOfBlock (plainScript script)) := by
  obtain ⟨r₁, r₂, r₃, r₄, r₅, r₆, read⟩ := parse_returning
  have ok : check (returningTree r₁ r₂ r₃ r₄ r₅ r₆) = .ok () := rfl
  have switches : Future.ofScript (returningTree r₁ r₂ r₃ r₄ r₅ r₆) = .ok .none := rfl
  exact ⟨_, read, ok, switches, lowering_keeps_homes ok switches⟩

/-- Lowering may change where a name belongs, and may give a script a docstring. -/
theorem declarations_matter :
    (¬ ∀ text script future, parse text = .ok script → check script = .ok () →
      Future.ofScript script = .ok future → ∀ pre m m' post bs bs' n,
        fatesOfBlock script = pre ++ (m, some m') :: post →
        blocksAround future.annotations (pre.map Prod.fst) (m :: post.map Prod.fst) = .ok bs →
        blocksAround future.annotations (pre.filterMap Prod.snd) (m' :: post.filterMap Prod.snd) =
          .ok bs' →
        Block.home n bs' = Block.home n bs) ∧
    ¬ ∀ text script, parse text = .ok script → check script = .ok () →
      (splitDocstring (plainScript script)).1 = (splitDocstring script).1 := by
  constructor
  · intro all
    obtain ⟨r₁, r₂, r₃, r₄, r₅, r₆, read⟩ := parse_returning
    -- The place where the name is returned.
    have parts : fatesOfBlock (returningTree r₁ r₂ r₃ r₄ r₅ r₆) =
        (fatesOfBlock (returningTree r₁ r₂ r₃ r₄ r₅ r₆)).take 8 ++
          (.name "x" .used r₆, some (.name "x" .used r₆)) :: [(.leave .function,
            some (.leave .function))] := rfl
    have before : (blocksAround false
        (((fatesOfBlock (returningTree r₁ r₂ r₃ r₄ r₅ r₆)).take 8).map Prod.fst)
        [.name "x" .used r₆, .leave .function]).toOption.map (Block.home "x") =
        some (.block 0) := rfl
    have after : (blocksAround false
        (((fatesOfBlock (returningTree r₁ r₂ r₃ r₄ r₅ r₆)).take 8).filterMap Prod.snd)
        [.name "x" .used r₆, .leave .function]).toOption.map (Block.home "x") =
        some .global := rfl
    obtain ⟨bs, around, home⟩ := Option.map_eq_some_iff.mp before
    obtain ⟨bs', around', home'⟩ := Option.map_eq_some_iff.mp after
    have same := all returning _ .none read rfl rfl _ _ _ _ bs bs' "x" parts
      (toOption_eq_some.mp around) (toOption_eq_some.mp around')
    rw [home, home'] at same
    cases same
  · intro all
    obtain ⟨r₁, r₂, r₃, r₄, r₅, unicode, read⟩ := parse_captioned
    have accepted : (parseChecked captioned).isOk = true := by decide +kernel
    cases checked : parseChecked captioned with
    | error e => simp [checked] at accepted
    | ok script =>
      obtain ⟨read', -, ok⟩ := parseChecked_eq_ok.mp checked
      obtain rfl := Except.ok.inj (read'.symm.trans read)
      cases all captioned _ read ok

end RuleBench.Script
