import RuleBench.Proofs.Execution.Scenes
import RuleBench.Proofs.Script.Quiet

/-!
# Lowering keeps the meaning of a script

A script whose annotations say nothing and the code that it is lowered to can be told apart only by
looking at annotations. Unless that is done, both raise the same errors when they are loaded, both
bind the same names to the same values, and the functions they export do the same on every stage.
-/

namespace RuleBench.Execution

open RuleBench.Script

/-! ### Loading -/

/-- Lowered code that is accepted is loaded as the silenced script is. -/
theorem loadModule_keeps (file : String) {quiet code : String} {script quieted lowered : List Stmt}
    (valued : valuedBlock script = true) (acceptedQuiet : parseChecked quiet = .ok quieted)
    (accepted : parseChecked code = .ok lowered)
    (features : Future.ofScript quieted = Future.ofScript lowered)
    (sameQuiet : unplacedBlock quieted = unplacedBlock (silencedBlock script))
    (same : unplacedBlock lowered = unplacedBlock (plainScript script)) :
    Keeps (loadModule file quiet) (loadModule file code) := by
  have later : keepsTexts quieted = keepsTexts lowered := by simp only [keepsTexts, features]
  simp only [loadModule, acceptedQuiet, accepted]
  refine Keeps.after _ fun table => Keeps.after _ fun frame => ?_
  rw [later, sameQuiet, same, unplacedBlock_silenced, unplacedBlock_plainScript]
  exact Keeps.before (runModule_lowered ((valuedBlock_unplaced script).trans valued) frame _) _

theorem steady_host (file : String) : Steady (host file) where
  lookup? names name s s' alike := by simp only [host, alike.memory.world]
  isCallable v s s' alike := by simp only [host, alike.memory.world]
  records s s' alike := by simp only [host, Scene.records, alike.memory.world, alike.store]
  recordId r := .look fun s s' alike => by simp only [alike.memory.world]
  call f r := Scene.perform_inStep (Keeps.refl _)
  accepts shape v := Scene.performTest_inStep _
  typeOf v := Scene.performText_inStep _
  passage? e s s' alike := by simp only [host, alike.memory.world]
  errorClass e s s' alike := by simp only [host, alike.memory.world]
  errorText e := Scene.performText_inStep _

/-! ### Stages -/

/-- A trace comes on the stage or leaves it. -/
inductive StageChange where
  | comes (t : Trace)
  | goes (id : String)

namespace Scene

def change (s : Scene) : StageChange → Scene
  | .comes t => s.withTrace t
  | .goes id => s.withoutTrace id

/-- The scene after changes of the stage. -/
def staged (s : Scene) (changes : List StageChange) : Scene := changes.foldl change s

variable {s s' : Scene}

theorem Looked.change (h : s.Looked) (c : StageChange) : (s.change c).Looked := by
  cases c with
  | goes id => exact h
  | comes t =>
    have seen := (perform_inStep (Keeps.refl (ofTrace t))).looked h
    simp only [Scene.change, withTrace]
    split
    · exact h
    · generalize perform (ofTrace t) s = x at seen
      cases x <;> exact seen

theorem Alike.change (h : s.Alike s') (c : StageChange) :
    (s.change c).Looked ∨ (s.change c).Alike (s'.change c) := by
  cases c with
  | goes id => exact .inr ⟨h.memory, by simp only [Scene.change, withoutTrace, h.store]⟩
  | comes t =>
    have ends := (perform_inStep (Keeps.refl (ofTrace t))).ends h
    simp only [Scene.change, withTrace, ← h.store]
    split
    · exact .inr h
    · generalize perform (ofTrace t) s = x, perform (ofTrace t) s' = x' at ends
      rcases ends with seen | same
      · exact .inl (by cases x <;> exact seen)
      · cases same with
        | ok v alike => exact .inr ⟨alike.memory, by simp only [alike.store]⟩
        | error e alike => exact .inr alike

theorem Looked.staged (h : s.Looked) (changes : List StageChange) : (s.staged changes).Looked := by
  induction changes generalizing s with
  | nil => exact h
  | cons c changes ih => exact ih (h.change c)

/-- Scenes that are alike stay alike when their stages change. -/
theorem Alike.staged (h : s.Alike s') (changes : List StageChange) :
    (s.staged changes).Looked ∨ (s.staged changes).Alike (s'.staged changes) := by
  induction changes generalizing s s' with
  | nil => exact .inr h
  | cons c changes ih =>
    rcases h.change c with seen | alike
    · exact .inl (seen.staged changes)
    · exact ih alike

end Scene

/-! ### Names -/

/-- The names of a module with their values, but for its annotations. -/
def unannotatedNames (w : World) (module : Value) : List (String × Value) :=
  (moduleNames w module).filter fun x => x.1 != annotationsName

theorem placeAmong_eq {α : Type} (before : List String) (nameOf : α → Option String) (x : α)
    (xs : List α) : ∃ ys zs, xs = ys ++ zs ∧
      NoteTable.placeAmong before nameOf x xs = ys ++ x :: zs :=
  ⟨_, _, (List.takeWhile_append_dropWhile ..).symm, rfl⟩

/-- A table that is laid open gives a module no name but that of the annotations. -/
theorem unannotatedNames_table {w : World} {module : Value} {es : Array (Value × Value)}
    (there : w.obj? module = some (.dict es)) (t : NoteTable) :
    (∃ es, (t.layOpen w).obj? module = some (.dict es)) ∧
      unannotatedNames (t.layOpen w) module = unannotatedNames w module := by
  cases module with
  | ref a =>
    have found : w.heap[a]? = some (.dict es) := there
    obtain ⟨inside, -⟩ := Array.getElem?_eq_some_iff.mp found
    by_cases owner : t.owner = a
    · obtain ⟨ys, zs, parts, placed⟩ := placeAmong_eq t.before NoteTable.keyOf?
        (.str annotationsName, .ref w.heap.size) es.toList
      have opened : (t.layOpen w).obj? (.ref a) = some (.dict
          (ys ++ (Value.str annotationsName, Value.ref w.heap.size) :: zs).toArray) := by
        simp [World.obj?, World.get?, NoteTable.layOpen, Array.getElem?_modify, owner,
          Array.getElem?_push, Nat.ne_of_lt inside, found, NoteTable.addTo, placed]
      refine ⟨⟨_, opened⟩, ?_⟩
      have other : annotationsName ≠ tableName := by decide
      simp [unannotatedNames, moduleNames, opened, there, parts, other]
    · have opened : (t.layOpen w).obj? (.ref a) = some (.dict es) := by
        simp [World.obj?, World.get?, NoteTable.layOpen, Array.getElem?_modify, owner,
          Array.getElem?_push, Nat.ne_of_lt inside, found]
      exact ⟨⟨_, opened⟩, by simp only [unannotatedNames, moduleNames, opened, there]⟩
  | _ => cases there

/-- Tables that are laid open give a module no name but that of the annotations. -/
theorem unannotatedNames_layOpen {w : World} {module : Value} {es : Array (Value × Value)}
    (there : w.obj? module = some (.dict es)) (n : Notes) :
    unannotatedNames (n.layOpen w) module = unannotatedNames w module := by
  have all (ts : List NoteTable) : (∃ es, (ts.foldr NoteTable.layOpen w).obj? module =
      some (.dict es)) ∧ unannotatedNames (ts.foldr NoteTable.layOpen w) module =
        unannotatedNames w module := by
    induction ts with
    | nil => exact ⟨⟨es, there⟩, rfl⟩
    | cons t ts ih =>
      obtain ⟨⟨_, opened⟩, same⟩ := ih
      obtain ⟨opened', same'⟩ := unannotatedNames_table opened t
      exact ⟨opened', same'.trans same⟩
  exact (all n.tables).2

/-! ### Meaning -/

/-- The same error in the same world; its text is the same, unless it looks at annotations. -/
structure SameError (file : String) (t t' : Scene) : Prop where
  world : t.memory.world = t'.memory.world
  text (e : Value) : (sceneOf ((host file).errorText e t)).Looked ∨
    SameEnd ((host file).errorText e t) ((host file).errorText e t')

/-- The same module: its names stand for the same values in the same world, and with all tables laid
open they only differ in that of the annotations. What it exports is the same, and a function gives
the same outcomes on every stage or stops for the same reason, unless it looks at annotations. -/
structure SameModule (file : String) (module : Value) (t t' : Scene) : Prop where
  world : t.memory.world = t'.memory.world
  names (es : Array (Value × Value)) (there : t.memory.world.obj? module = some (.dict es)) :
    unannotatedNames t.world module = unannotatedNames t'.world module
  exports (kind : RuleKind) : (host file).lookup? module kind.exportName t =
    (host file).lookup? module kind.exportName t'
  callable (f : Value) : (host file).isCallable f t = (host file).isCallable f t'
  trials (changes : List StageChange) (kind : RuleKind) (f : Value) :
    (sceneOf (Trial.run (host file) kind f (t.staged changes))).Looked ∨
      SameEnd (Trial.run (host file) kind f (t.staged changes))
        (Trial.run (host file) kind f (t'.staged changes))

/-- Loading either text ends with the same error or gives the same module, unless the first one looks
at annotations. -/
def SameMeaning (file text text' : String) (s : Scene) : Prop :=
  (sceneOf (loadCode (host file) text s)).Looked ∨
  (∃ stop t t', loadCode (host file) text s = .error stop t ∧
    loadCode (host file) text' s = .error stop t' ∧ SameError file t t') ∨
  ∃ module t t', loadCode (host file) text s = .ok module t ∧
    loadCode (host file) text' s = .ok module t' ∧ SameModule file module t t'

/-- Texts that are loaded in step have the same meaning. -/
theorem sameMeaning_of_inStep {file text text' : String}
    (load : InStep ((host file).load text) ((host file).load text')) (s : Scene) :
    SameMeaning file text text' s := by
  have steady := steady_host file
  have inStep := steady.loadCode load
  by_cases before : s.Looked
  · exact .inl (inStep.looked before)
  rcases inStep.ends (.refl before) with seen | ended
  · exact .inl seen
  · right
    generalize loadCode (host file) text s = x, loadCode (host file) text' s = x' at ended
    cases ended with
    | @error stop t t' alike =>
      refine .inl ⟨stop, t, t', rfl, rfl, ?_⟩
      exact ⟨alike.memory.world, fun e => (steady.errorText e).ends alike⟩
    | @ok module t t' alike =>
      refine .inr ⟨module, t, t', rfl, rfl, alike.memory.world, ?_, ?_, ?_, ?_⟩
      · intro es there
        have there' : t'.memory.world.obj? module = some (.dict es) := alike.memory.world ▸ there
        rw [Scene.world, Scene.world, unannotatedNames_layOpen there,
          unannotatedNames_layOpen there', alike.memory.world]
      · intro kind
        exact steady.lookup? module kind.exportName alike
      · intro f
        exact steady.isCallable f alike
      · intro changes kind f
        have ran := steady.run kind f
        rcases alike.staged changes with seen | alike
        · exact .inl (ran.looked seen)
        · exact ran.ends alike

/-! ### A name and its annotation -/

/-- Whether a script is the name `x` with a value, both annotation and value as asked. -/
def isDeclared (note value : Expr → Bool) : List Stmt → Bool
  | [.annAssign _ (.name _ n) a (some v) true] => n == "x" && note a && value v
  | _ => false

def isAssigned (value : Expr → Bool) : List Stmt → Bool
  | [.assign _ [.name _ n] v] => n == "x" && value v
  | _ => false

/-- The annotation `None`. -/
def saysNothing : Expr → Bool
  | .literal _ .none => true
  | _ => false

theorem unplaced_of_isDeclared {note value : Expr → Bool} {script : List Stmt}
    (shape : isDeclared note value script = true) : ∃ a v, note a = true ∧ value v = true ∧
      unplacedBlock script =
        [.annAssign default (.name default "x") a.unplaced (some v.unplaced) true] := by
  unfold isDeclared at shape
  split at shape
  · simp only [Bool.and_eq_true, beq_iff_eq] at shape
    obtain ⟨⟨rfl, noted⟩, valued⟩ := shape
    exact ⟨_, _, noted, valued, rfl⟩
  · cases shape

theorem unplaced_of_isAssigned {value : Expr → Bool} {script : List Stmt}
    (shape : isAssigned value script = true) : ∃ v, value v = true ∧
      unplacedBlock script = [.assign default [.name default "x"] v.unplaced] := by
  unfold isAssigned at shape
  split at shape
  · simp only [Bool.and_eq_true, beq_iff_eq] at shape
    obtain ⟨rfl, valued⟩ := shape
    exact ⟨_, valued, rfl⟩
  · cases shape

theorem unplaced_of_saysNothing {a : Expr} (quiet : saysNothing a = true) :
    a.unplaced = silence a := by
  unfold saysNothing at quiet
  split at quiet
  · rfl
  · cases quiet

/-- Texts for the name with an annotation, with `None` for it and without it are a source, its
silenced form and its lowered form, if the value is the same. -/
theorem forms_of_isDeclared {text quiet code : String} {value : Expr → Bool}
    (only : ∀ v w, value v = true → value w = true → v.unplaced = w.unplaced)
    (source : (parse text).toOption.any (isDeclared (fun _ => true) value) = true)
    (silenced : (parse quiet).toOption.any (isDeclared saysNothing value) = true)
    (plain : (parseChecked code).toOption.any (isAssigned value) = true) :
    ∃ script quieted lowered, parse text = .ok script ∧ valuedBlock script = true ∧
      parseChecked code = .ok lowered ∧
      unplacedBlock lowered = unplacedBlock (plainScript script) ∧ parse quiet = .ok quieted ∧
      unplacedBlock quieted = unplacedBlock (silencedBlock script) := by
  obtain ⟨script, read, shape⟩ := exists_of_any_toOption source
  obtain ⟨quieted, readQuiet, shapeQuiet⟩ := exists_of_any_toOption silenced
  obtain ⟨lowered, accepted, shapeLowered⟩ := exists_of_any_toOption plain
  obtain ⟨a, v, -, isValue, same⟩ := unplaced_of_isDeclared shape
  obtain ⟨b, v', nothing, isValue', sameQuiet⟩ := unplaced_of_isDeclared shapeQuiet
  obtain ⟨v'', isValue'', sameLowered⟩ := unplaced_of_isAssigned shapeLowered
  refine ⟨script, quieted, lowered, read, ?_, accepted, ?_, readQuiet, ?_⟩
  · rw [← valuedBlock_unplaced, same]
    rfl
  · rw [unplacedBlock_plainScript, same, sameLowered, only v'' v isValue'' isValue]
    rfl
  · rw [unplacedBlock_silenced, same, sameQuiet, only v' v isValue' isValue,
      unplaced_of_saysNothing nothing]
    rfl

/-- Whether code has been loaded. -/
def hasLoaded {α ε : Type} : EStateM.Result ε Scene α → Bool
  | .ok .. => true
  | .error .. => false

theorem hasLoaded_iff {α ε : Type} {x : EStateM.Result ε Scene α} :
    hasLoaded x = true ↔ ∃ a s, x = .ok a s := by
  cases x <;> simp [hasLoaded]

/-! ### Lowered code -/

theorem parseChecked_of_lower {text code : String} {script : List Stmt}
    (lowered : lower text = .ok code) (read : parse text = .ok script) :
    parseChecked text = .ok script := by
  cases accepted : parseChecked text with
  | error r => simp [lower, accepted] at lowered
  | ok ss =>
    obtain ⟨read', -, -⟩ := parseChecked_eq_ok.mp accepted
    exact congrArg _ (Except.ok.inj (read'.symm.trans read))

/-- Code that a text without bare declarations is lowered to, and that compiles, has the meaning of
the text with `None` for every annotation. -/
theorem lowering_keeps_meaning (file : String) {text quiet code : String}
    {script quieted lowered : List Stmt} (lowers : lower text = .ok code)
    (read : parse text = .ok script) (valued : valuedBlock script = true)
    (compiles : parseChecked code = .ok lowered)
    (same : unplacedBlock lowered = unplacedBlock (plainScript script))
    (readQuiet : parse quiet = .ok quieted)
    (sameQuiet : unplacedBlock quieted = unplacedBlock (silencedBlock script))
    (s : Scene) : SameMeaning file quiet code s := by
  obtain ⟨acceptedQuiet, features⟩ := silenced_accepted (parseChecked_of_lower lowers read) valued
    compiles same readQuiet sameQuiet
  have keeps := loadModule_keeps file valued acceptedQuiet compiles features sameQuiet same
  exact sameMeaning_of_inStep (Scene.perform_inStep keeps) s

/-- The value `1`. -/
def isOne : Expr → Bool
  | .literal _ (.int n) => n == 1
  | _ => false

theorem unplaced_of_isOne {v : Expr} (one : isOne v = true) :
    v.unplaced = .literal default (.int 1) := by
  unfold isOne at one
  split at one
  · rw [beq_iff_eq.mp one]
    rfl
  · cases one

theorem declared_name_keeps_meaning :
    (∃ script quieted lowered, lower "x: int = 1\n" = .ok "x = 1\n" ∧
      parse "x: int = 1\n" = .ok script ∧ valuedBlock script = true ∧
      parseChecked "x = 1\n" = .ok lowered ∧
      unplacedBlock lowered = unplacedBlock (plainScript script) ∧
      parse "x: None = 1\n" = .ok quieted ∧
      unplacedBlock quieted = unplacedBlock (silencedBlock script)) ∧
    SameMeaning "rule" "x: None = 1\n" "x = 1\n" {} ∧
    ¬ (sceneOf (loadCode (host "rule") "x: None = 1\n" {})).Looked := by
  have lowers : lower "x: int = 1\n" = .ok "x = 1\n" := toOption_eq_some.mp (by decide +kernel)
  obtain ⟨script, quieted, lowered, read, valued, compiles, same, readQuiet, sameQuiet⟩ :=
    forms_of_isDeclared
      (fun v w one one' => (unplaced_of_isOne one).trans (unplaced_of_isOne one').symm)
      (by decide +kernel : (parse "x: int = 1\n").toOption.any (isDeclared (fun _ => true) isOne) =
        true)
      (by decide +kernel : (parse "x: None = 1\n").toOption.any (isDeclared saysNothing isOne) =
        true)
      (by decide +kernel : (parseChecked "x = 1\n").toOption.any (isAssigned isOne) = true)
  refine ⟨⟨script, quieted, lowered, lowers, read, valued, compiles, same, readQuiet, sameQuiet⟩,
    ?_, ?_⟩
  · exact lowering_keeps_meaning "rule" lowers read valued compiles same readQuiet sameQuiet {}
  · exact Bool.eq_false_iff.mp (by decide +kernel)

/-- The annotations of the module. -/
def isAnnotations : Expr → Bool
  | .name _ n => n == annotationsName
  | _ => false

theorem unplaced_of_isAnnotations {v : Expr} (all : isAnnotations v = true) :
    v.unplaced = .name default annotationsName := by
  unfold isAnnotations at all
  split at all
  · rw [beq_iff_eq.mp all]
    rfl
  · cases all

/-- A script that asks for its annotations is told apart from its lowered form, which has none. -/
theorem annotations_told_apart : ¬ ∀ (text quiet code : String) (script quieted lowered : List Stmt),
    lower text = .ok code → parse text = .ok script → valuedBlock script = true →
    parseChecked code = .ok lowered → unplacedBlock lowered = unplacedBlock (plainScript script) →
    parse quiet = .ok quieted → unplacedBlock quieted = unplacedBlock (silencedBlock script) →
    ((∃ names t, loadCode host quiet {} = .ok names t) ↔
      ∃ names t, loadCode host code {} = .ok names t) := by
  intro all
  have lowers : lower "x: int = __annotations__\n" = .ok "x = __annotations__\n" :=
    toOption_eq_some.mp (by decide +kernel)
  obtain ⟨script, quieted, lowered, read, valued, compiles, same, readQuiet, sameQuiet⟩ :=
    forms_of_isDeclared (fun v w asks asks' =>
        (unplaced_of_isAnnotations asks).trans (unplaced_of_isAnnotations asks').symm)
      (by decide +kernel : (parse "x: int = __annotations__\n").toOption.any
        (isDeclared (fun _ => true) isAnnotations) = true)
      (by decide +kernel : (parse "x: None = __annotations__\n").toOption.any
        (isDeclared saysNothing isAnnotations) = true)
      (by decide +kernel : (parseChecked "x = __annotations__\n").toOption.any
        (isAssigned isAnnotations) = true)
  have both := all _ _ _ script quieted lowered lowers read valued compiles same readQuiet sameQuiet
  rw [← hasLoaded_iff, ← hasLoaded_iff] at both
  have first : hasLoaded (loadCode host "x: None = __annotations__\n" {}) = true := by
    decide +kernel
  have second : hasLoaded (loadCode host "x = __annotations__\n" {}) = false := by decide +kernel
  rw [both.mp first] at second
  cases second

end RuleBench.Execution
