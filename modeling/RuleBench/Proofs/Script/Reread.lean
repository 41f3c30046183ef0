import RuleBench.Proofs.Validation
import RuleBench.Proofs.Script.Resolution
import RuleBench.Proofs.Script.Shallow
import RuleBench.Proofs.Script.Standing
import RuleBench.Script.Lowering

/-!
# Lowered code can be read again

Code that a script is lowered to passes the checks that the script has passed, with one exception:
they are made before the annotations are taken away, and a `nonlocal` declaration may be left without
the binding that it needs. No other check can fail.
-/

namespace RuleBench.Script

open Placement

/-! ### Imports from the future -/

namespace Future

theorem leads_unplaced (s : Stmt) : leads s.unplaced = leads s := by
  cases s with
  | expr _ e => cases e <;> rfl
  | importFrom _ m _ _ => cases m <;> rfl
  | _ => rfl

theorem ends_ofNames (f : Future) (r r' : Region) (ns : List Alias) :
    Ends (· = ·) (ofNames f r (ns.map Alias.unplaced)) (ofNames f r' ns) := by
  induction ns generalizing f with
  | nil => exact .ok rfl
  | cons a ns ih =>
    exact .ite (ih _) (.ite (.error _ _) (.ite (ih _) (.error _ _)))

/-- What the imports from the future among some statements switch on, wherever they stand. -/
def switched (f : Future) : List Stmt → Except Fault Future
  | [] => .ok f
  | .importFrom loc (some m) ns _ :: rest =>
    if m == futureModule then ofNames f loc ns >>= (switched · rest) else switched f rest
  | _ :: rest => switched f rest

theorem ends_switched (f : Future) (ss : List Stmt) :
    Ends (· = ·) (switched f (unplacedBlock ss)) (switched f ss) := by
  induction ss generalizing f with
  | nil => exact .ok rfl
  | cons s ss ih =>
    cases s with
    | importFrom r m ns l =>
      cases m with
      | none => exact ih f
      | some m =>
        refine .ite (.bind (ends_ofNames f default r ns) ?_) (ih f)
        rintro g _ rfl
        exact ih g
    | _ => exact ih f

theorem switched_filled (f : Future) (r : Region) (ss : List Stmt) :
    switched f (filled r ss) = switched f ss := by
  cases ss <;> rfl

/-- Lowering leaves all imports from the future where they are. -/
theorem switched_plainBlock (f : Future) (ss : List Stmt) :
    switched f (plainBlock ss) = switched f ss := by
  induction ss generalizing f with
  | nil => rfl
  | cons s ss ih =>
    cases s with
    | importFrom r m ns l =>
      cases m with
      | none => exact ih f
      | some m =>
        simp only [plainBlock, Stmt.plain, Option.toList_some, List.cons_append, List.nil_append,
          switched, ih]
    | annAssign r t a v simple => cases v <;> exact ih f
    | _ => exact ih f

theorem scan_closed (f : Future) (closed : Bool) (last : Nat) {ss : List Stmt}
    (none : ∀ s ∈ ss, isImport s = false) : scan f closed last ss = .ok f := by
  induction ss generalizing closed last with
  | nil => rfl
  | cons s ss ih =>
    have rest : ∀ closed last, scan f closed last ss = .ok f := fun closed last =>
      ih closed last fun s mem => none s (List.mem_cons_of_mem _ mem)
    have here := none s List.mem_cons_self
    simp only [scan]
    split
    · rfl
    · cases s with
      | importFrom r m ns l =>
        cases m with
        | none => exact rest _ _
        | some m =>
          have other : (m == futureModule) = false := here
          simp only [other]
          exact rest _ _
      | expr r e => cases e <;> exact rest _ _
      | _ => exact rest _ _

theorem switched_none (f : Future) {ss : List Stmt} (none : ∀ s ∈ ss, isImport s = false) :
    switched f ss = .ok f := by
  induction ss with
  | nil => rfl
  | cons s ss ih =>
    have rest := ih fun s mem => none s (List.mem_cons_of_mem _ mem)
    have here := none s List.mem_cons_self
    cases s with
    | importFrom r m ns l =>
      cases m with
      | none => exact rest
      | some m =>
        have other : (m == futureModule) = false := here
        simpa only [switched, other, Bool.false_eq_true, if_false] using rest
    | _ => exact rest

/-- If all imports from the future lead a script, they are what it switches on. -/
theorem scan_eq_switched (f : Future) (last : Nat) {ss : List Stmt}
    (leading : ∀ s ∈ ss.dropWhile leads, isImport s = false) :
    scan f false last ss = switched f ss := by
  induction ss generalizing f last with
  | nil => rfl
  | cons s ss ih =>
    by_cases leader : leads s = true
    · rw [List.dropWhile_cons_of_pos leader] at leading
      cases s with
      | importFrom r m ns l =>
        cases m with
        | none => cases leader
        | some m =>
          have future : (m == futureModule) = true := leader
          have rest : (fun f => scan f false r.line ss) = (switched · ss) :=
            funext fun f => ih f _ leading
          simp only [scan, switched, future, Bool.false_and, Bool.false_eq_true, if_false, if_true,
            rest]
      | expr r e =>
        cases e with
        | literal => exact ih f _ leading
        | _ => cases leader
      | _ => cases leader
    · rw [List.dropWhile_cons_of_neg leader] at leading
      rw [scan_closed f false last leading, switched_none f leading]

end Future

/-! ### The start of a script -/

/-- The code of a whole script. -/
def topLevel (future : Future) : Placement := ⟨.module, false, [], future⟩

theorem isOk_checkPlacement (future : Future) (ss : List Stmt) :
    (checkPlacement future ss).isOk =
      ((ss.takeWhile Future.leads).all (fun s => (checkLeading s).isOk) &&
        (checkBlock (topLevel future) (ss.dropWhile Future.leads)).isOk) := by
  simp only [checkPlacement, List.forM_eq_forM, isOk_bind_unit, isOk_forM, topLevel]

/-- An import from the future is at fault unless it leads the script. -/
theorem isImport_of_checkStmt {p : Placement} {s : Stmt} (ok : (checkStmt p s).isOk = true) :
    Future.isImport s = false := by
  cases s with
  | importFrom r m ns l =>
    cases m with
    | none => rfl
    | some m =>
      by_contra future
      have here : m = futureModule := by simpa [Future.isImport] using future
      simp [checkStmt, here] at ok
  | _ => rfl

theorem isImport_of_checkBlock {p : Placement} {ss : List Stmt}
    (ok : (checkBlock p ss).isOk = true) : ∀ s ∈ ss, Future.isImport s = false := by
  induction ss with
  | nil => simp
  | cons s ss ih =>
    simp only [checkBlock, isOk_bind_unit, Bool.and_eq_true] at ok
    simpa using ⟨isImport_of_checkStmt ok.1, ih ok.2⟩

/-- Statements that stand where they may in a script may also start it. -/
theorem checkPlacement_of_checkBlock {future : Future} {ss : List Stmt}
    (ok : (checkBlock (topLevel future) ss).isOk = true) :
    (checkPlacement future ss).isOk = true := by
  induction ss with
  | nil => rfl
  | cons s ss ih =>
    by_cases leader : Future.leads s = true
    · simp only [checkBlock, isOk_bind_unit, Bool.and_eq_true] at ok
      have rest := ih ok.2
      have bare : (checkLeading s).isOk = true := by
        have other := isImport_of_checkStmt ok.1
        cases s <;> first | rfl | simp [Future.leads, other] at leader
      rw [isOk_checkPlacement] at rest ⊢
      rw [List.takeWhile_cons_of_pos leader, List.dropWhile_cons_of_pos leader, List.all_cons, bare]
      exact rest
    · rw [isOk_checkPlacement, List.takeWhile_cons_of_neg leader, List.dropWhile_cons_of_neg leader]
      exact ok

theorem isOk_checkLeading (s : Stmt) : (checkLeading s.unplaced).isOk = (checkLeading s).isOk := by
  cases s with
  | importFrom r m ns l => exact isOk_checkAliases default r ns
  | _ => rfl

theorem isOk_checkPlacement_unplaced (future : Future) (ss : List Stmt) :
    (checkPlacement future (unplacedBlock ss)).isOk = (checkPlacement future ss).isOk := by
  induction ss with
  | nil => rfl
  | cons s ss ih =>
    by_cases leader : Future.leads s = true
    · have leader' := (Future.leads_unplaced s).trans leader
      rw [isOk_checkPlacement] at ih ⊢
      rw [isOk_checkPlacement] at ih ⊢
      rw [unplacedBlock, List.takeWhile_cons_of_pos leader, List.dropWhile_cons_of_pos leader,
        List.takeWhile_cons_of_pos leader', List.dropWhile_cons_of_pos leader', List.all_cons,
        List.all_cons, isOk_checkLeading, Bool.and_assoc, Bool.and_assoc, ih]
    · have leader' : ¬ Future.leads s.unplaced = true := by rwa [Future.leads_unplaced]
      rw [isOk_checkPlacement, isOk_checkPlacement, unplacedBlock,
        List.takeWhile_cons_of_neg leader, List.dropWhile_cons_of_neg leader,
        List.takeWhile_cons_of_neg leader', List.dropWhile_cons_of_neg leader']
      exact congrArg (true && ·) (isOk_checkBlock (topLevel future) (s :: ss))

/-- What is left of a script stands where it may if the script does. -/
theorem checkPlacement_plainBlock {future : Future} {ss : List Stmt}
    (ok : (checkPlacement future ss).isOk = true) :
    (checkPlacement future (unplacedBlock (plainBlock ss))).isOk = true := by
  induction ss with
  | nil => rfl
  | cons s ss ih =>
    by_cases leader : Future.leads s = true
    · have stays : s.plain = some s := by
        cases s <;> first | rfl | cases leader
      have leader' := (Future.leads_unplaced s).trans leader
      rw [isOk_checkPlacement, List.takeWhile_cons_of_pos leader,
        List.dropWhile_cons_of_pos leader, List.all_cons, Bool.and_assoc, Bool.and_eq_true] at ok
      obtain ⟨okHead, okRest⟩ := ok
      have rest := ih ((isOk_checkPlacement future ss).trans okRest)
      rw [isOk_checkPlacement] at rest ⊢
      rw [plainBlock, stays, Option.toList_some, List.cons_append, List.nil_append, unplacedBlock,
        List.takeWhile_cons_of_pos leader', List.dropWhile_cons_of_pos leader', List.all_cons,
        isOk_checkLeading, okHead]
      exact rest
    · rw [isOk_checkPlacement, List.takeWhile_cons_of_neg leader,
        List.dropWhile_cons_of_neg leader] at ok
      have same : (topLevel future).Relaxed (topLevel future) := ⟨rfl, rfl, id, .nil⟩
      exact checkPlacement_of_checkBlock (same.block (s :: ss) ok)

/-! ### All checks -/

theorem check_eq_ok {script : List Stmt} : check script = .ok () ↔
    ∃ future scope, Future.ofScript script = .ok future ∧
      Scope.ofScript future.annotations script = .ok scope ∧
      checkPlacement future script = .ok () := by
  simp only [check, bind, Except.bind]
  cases Future.ofScript script with
  | error e => simp
  | ok future =>
    cases resolved : Scope.ofScript future.annotations script <;> simp [resolved]

theorem ofScript_eq_switched {future : Future} {ss : List Stmt}
    (ok : (checkPlacement future ss).isOk = true) :
    Future.ofScript ss = Future.switched .none ss := by
  rw [isOk_checkPlacement, Bool.and_eq_true] at ok
  exact Future.scan_eq_switched _ _ (isImport_of_checkBlock ok.2)

/-- Scripts that stand where they may switch on the same, if the same imports are there. -/
theorem ofScript_of_switched {future future' : Future} {ss ss' ts : List Stmt}
    (placed : (checkPlacement future ss).isOk = true) (switches : Future.ofScript ss = .ok future)
    (placed' : (checkPlacement future' ss').isOk = true)
    (same : unplacedBlock ss' = unplacedBlock ts)
    (imports : Future.switched .none ts = Future.switched .none ss) :
    Future.ofScript ss' = .ok future := by
  rw [ofScript_eq_switched placed] at switches
  rw [ofScript_eq_switched placed']
  have ends := Future.ends_switched .none ss'
  have ends' := Future.ends_switched .none ts
  rw [← same, imports, switches] at ends'
  generalize Future.switched .none (unplacedBlock ss') = x at ends ends'
  cases ends' with
  | ok equal =>
    subst equal
    generalize Future.switched .none ss' = y at ends ⊢
    cases ends with
    | ok equal => exact congrArg _ equal.symm

theorem switched_plainScript (f : Future) (script : List Stmt) :
    Future.switched f (plainScript script) = Future.switched f script := by
  rw [plainScript, Future.switched_filled, Future.switched_plainBlock]

/-- What is left of a script that passes the checks passes them, unless a declaration has lost the
binding of its name. -/
theorem check_relaid {script script' : List Stmt} (ok : check script = .ok ())
    (same : unplacedBlock script' = unplacedBlock (plainScript script)) :
    check script' = .ok () ∨ ∃ n place, BoundByDropped script n ∧
      check script' = .error (faultAt place (.noBinding n)) := by
  obtain ⟨future, scope, switches, resolves, placed⟩ := check_eq_ok.mp ok
  have left : (checkPlacement future script').isOk = true := by
    rw [← isOk_checkPlacement_unplaced, same, plainScript]
    have plain := checkPlacement_plainBlock (isOk_iff.mpr placed)
    cases h : plainBlock script with
    | nil => rfl
    | cons s ss => rwa [h] at plain
  have switches' : Future.ofScript script' = .ok future :=
    ofScript_of_switched (isOk_iff.mpr placed) switches left same (switched_plainScript _ script)
  rcases Scope.ofScript_relaid same resolves with ⟨scope', resolves'⟩ | ⟨n, place, gone, failed⟩
  · exact .inl (check_eq_ok.mpr ⟨future, scope', switches', resolves', isOk_iff.mp left⟩)
  · refine .inr ⟨n, place, gone, ?_⟩
    simp only [check, switches', failed, bind, Except.bind]

theorem parseChecked_eq_ok {text : String} {script : List Stmt} :
    parseChecked text = .ok script ↔ parse text = .ok script ∧
      depthOfBlock script ≤ greatestDepth ∧ check script = .ok () := by
  simp only [parseChecked, bind, Except.bind]
  cases parse text with
  | error e => simp
  | ok ss =>
    by_cases deep : depthOfBlock ss > greatestDepth
    · simp only [deep, if_true, reduceCtorEq, Except.ok.injEq, false_iff, not_and]
      rintro rfl shallow
      omega
    · simp only [deep, if_false, Except.ok.injEq]
      cases checked : check ss with
      | error f =>
        simp only [reduceCtorEq, false_iff, not_and]
        rintro rfl -
        simp [checked]
      | ok =>
        constructor
        · rintro ⟨⟩
          exact ⟨rfl, Nat.le_of_not_gt deep, checked⟩
        · rintro ⟨rfl, -, -⟩
          rfl

theorem depth_relaid {script script' : List Stmt}
    (shallow : depthOfBlock script ≤ greatestDepth)
    (same : unplacedBlock script' = unplacedBlock (plainScript script)) :
    depthOfBlock script' ≤ greatestDepth := by
  rw [← depthOfBlock_unplaced, same, depthOfBlock_unplaced]
  refine Nat.le_trans (depthOfBlock_plainScript script) (Nat.max_le.mpr ⟨?_, shallow⟩)
  decide

/-- Code that a text was lowered to and that is read as the script it was written from passes all
checks, unless it declares a name `nonlocal` that only something left out had bound. -/
theorem lowered_accepted {text code : String} {script script' : List Stmt}
    (lowered : lower text = .ok code) (read : parse text = .ok script)
    (reread : parse code = .ok script')
    (same : unplacedBlock script' = unplacedBlock (plainScript script)) :
    parseChecked code = .ok script' ∨ ∃ n place, BoundByDropped script n ∧
      parseChecked code = .error (.fault (faultAt place (.noBinding n))) := by
  cases accepted : parseChecked text with
  | error r => simp [lower, accepted] at lowered
  | ok ss =>
    obtain ⟨read', shallow, ok⟩ := parseChecked_eq_ok.mp accepted
    obtain rfl : ss = script := Except.ok.inj (read'.symm.trans read)
    have shallow' := depth_relaid shallow same
    rcases check_relaid ok same with ok' | ⟨n, place, gone, failed⟩
    · exact .inl (parseChecked_eq_ok.mpr ⟨reread, shallow', ok'⟩)
    · refine .inr ⟨n, place, gone, ?_⟩
      have fits : ¬ depthOfBlock script' > greatestDepth := Nat.not_lt.mpr shallow'
      simp only [parseChecked, reread, bind, Except.bind, fits, if_false, failed]

/-- A function whose only statement disappears. -/
def declaring : String := "def f():\n    x: int\n"

theorem exists_of_any_toOption {ε α : Type} {x : Except ε α} {p : α → Bool}
    (h : x.toOption.any p = true) : ∃ a, x = .ok a ∧ p a = true := by
  obtain ⟨a, found, holds⟩ := Option.any_eq_true _ _ |>.mp h
  exact ⟨a, toOption_eq_some.mp found, holds⟩

/-- Whether a script is one function `f` without parameters whose body is as asked. -/
def isFunctionOf (p : List Stmt → Bool) : List Stmt → Bool
  | [.functionDef _ false f ⟨[], [], none, [], none⟩ body [] none] => f == "f" && p body
  | _ => false

theorem eq_of_isFunctionOf {p : List Stmt → Bool} {script : List Stmt}
    (shape : isFunctionOf p script = true) : ∃ r body, p body = true ∧
      script = [.functionDef r false "f" ⟨[], [], none, [], none⟩ body [] none] := by
  unfold isFunctionOf at shape
  split at shape
  · simp only [Bool.and_eq_true, beq_iff_eq] at shape
    obtain ⟨rfl, holds⟩ := shape
    exact ⟨_, _, holds, rfl⟩
  · cases shape

def isBareDeclaration : List Stmt → Bool
  | [.annAssign _ _ _ none _] => true
  | _ => false

def isPass : List Stmt → Bool
  | [.pass _] => true
  | _ => false

theorem parse_declaring : ∃ r r' t a simple, parse declaring =
    .ok [.functionDef r false "f" ⟨[], [], none, [], none⟩ [.annAssign r' t a none simple] [] none] := by
  obtain ⟨_, read, shape⟩ := exists_of_any_toOption
    (by decide +kernel : (parse declaring).toOption.any (isFunctionOf isBareDeclaration) = true)
  obtain ⟨r, body, declares, rfl⟩ := eq_of_isFunctionOf shape
  unfold isBareDeclaration at declares
  split at declares
  · exact ⟨_, _, _, _, _, read⟩
  · cases declares

theorem parse_declaring_lowered : ∃ r r', parse "def f():\n    pass\n" =
    .ok [.functionDef r false "f" ⟨[], [], none, [], none⟩ [.pass r'] [] none] := by
  obtain ⟨_, read, shape⟩ := exists_of_any_toOption (by decide +kernel :
    (parse "def f():\n    pass\n").toOption.any (isFunctionOf isPass) = true)
  obtain ⟨r, body, passes, rfl⟩ := eq_of_isFunctionOf shape
  unfold isPass at passes
  split at passes
  · exact ⟨_, _, read⟩
  · cases passes

theorem lower_declaring : lower declaring = .ok "def f():\n    pass\n" :=
  toOption_eq_some.mp (by decide +kernel)

theorem declaring_accepted : ∃ script script', lower declaring = .ok "def f():\n    pass\n" ∧
    parse declaring = .ok script ∧ parse "def f():\n    pass\n" = .ok script' ∧
    unplacedBlock script' = unplacedBlock (plainScript script) ∧
    (parseChecked "def f():\n    pass\n" = .ok script' ∨ ∃ n place, BoundByDropped script n ∧
      parseChecked "def f():\n    pass\n" = .error (.fault (faultAt place (.noBinding n)))) := by
  obtain ⟨r, r', t, a, simple, read⟩ := parse_declaring
  obtain ⟨q, q', reread⟩ := parse_declaring_lowered
  exact ⟨_, _, lower_declaring, read, reread, rfl,
    lowered_accepted lower_declaring read reread rfl⟩

/-- A declaration gives the inner function its name, and is taken away. -/
def orphaning : String :=
  "def f():\n    x: int\n    def g():\n        nonlocal x\n        x = 1\n"

/-- Not all lowered code is accepted: the checks come before the annotations are taken away. -/
theorem orphaning_rejected : ¬ ∀ text code, lower text = .ok code →
    ∃ script, parseChecked code = .ok script := by
  intro all
  have lowered : lower orphaning =
      .ok "def f():\n\n    def g():\n        nonlocal x\n        x = 1\n" :=
    toOption_eq_some.mp (by decide +kernel)
  obtain ⟨script, accepted⟩ := all _ _ lowered
  have rejected : (parseChecked
      "def f():\n\n    def g():\n        nonlocal x\n        x = 1\n").isOk = false := by
    decide +kernel
  rw [accepted] at rejected
  cases rejected

end RuleBench.Script
