import RuleBench.Proofs.Desk.Move
import RuleBench.Proofs.Trial.Verdict

/-!
# Shapes of accepted answers

The check of an answer asks the answer itself: for its class, for its length, for its items one by
one, and each of them for its class. Where a declared class answers for the value, the check learns
what that class says. The main statement is that the check is exact otherwise: answers that are
accepted are texts, or tuples or lists that contain two texts and nothing else.
-/

namespace RuleBench.Execution

namespace World

/-- The class of a value, or a declared class that it extends, declares an attribute. -/
def Declares (w : World) (v : Value) (name : String) : Prop :=
  (w.classAttr? (w.typeRef v) name).isSome = true

/-- The items that a value really contains, as a tuple or as a list. -/
def contained? (w : World) (v : Value) : Option (List Value) :=
  match w.content v with
  | .tuple xs => some xs
  | .ref a => match w.get a with
    | .list xs => some xs.toList
    | _ => none
  | _ => none

/-- The world with one more object. -/
def push (o : Obj) (w : World) : World := { w with heap := w.heap.push o }

/-! ### One more object -/

variable {w : World} {o : Obj} {a : Address} {v : Value} {t : TypeRef}

@[simp] theorem get?_push_size : (w.push o).get? w.heap.size = some o := by
  simp [get?, push]

theorem get?_push_of_ne (h : a ≠ w.heap.size) : (w.push o).get? a = w.get? a := by
  simp [get?, push, Array.getElem?_push, h]

@[simp] theorem get_push_size : (w.push o).get w.heap.size = o := by
  simp [get, push]

theorem get_push_of_ne (h : a ≠ w.heap.size) : (w.push o).get a = w.get a := by
  simp [get, push, Array.getElem?_push, h]

/-- Classes are what they were if the object is none. -/
theorem classInfo?_push (other : ∀ info, o ≠ .cls info) : (w.push o).classInfo? t = w.classInfo? t := by
  cases t with
  | known name => rfl
  | declared a =>
    by_cases h : a = w.heap.size
    · subst h
      have absent : w.get? w.heap.size = none := by simp [get?]
      simp only [classInfo?, get?_push_size, absent]
      split
      · next info found => exact absurd (Option.some.inj found) (other info)
      · rfl
    · simp only [classInfo?, get?_push_of_ne h]

theorem order_push (other : ∀ info, o ≠ .cls info) : (w.push o).order t = w.order t := by
  unfold order
  rw [classInfo?_push other]

theorem isSubclass_push (other : ∀ info, o ≠ .cls info) (ancestor : TypeRef) :
    (w.push o).isSubclass t ancestor = w.isSubclass t ancestor := by
  simp only [isSubclass, order_push other]

theorem classAttr?_push (other : ∀ info, o ≠ .cls info) (name : String) :
    (w.push o).classAttr? t name = w.classAttr? t name := by
  simp only [classAttr?, order_push other, classInfo?_push other]

theorem typeRef_push (h : v ≠ .ref w.heap.size) : (w.push o).typeRef v = w.typeRef v := by
  cases v with
  | ref a =>
    have h : a ≠ w.heap.size := by simpa using h
    simp only [typeRef, get_push_of_ne h]
  | _ => rfl

theorem get?_of_get_list {xs : Array Value} (h : w.get a = .list xs) :
    w.get? a = some (.list xs) := by
  unfold get at h
  unfold get?
  cases found : w.heap[a]? with
  | none =>
    rw [found] at h
    cases h
  | some o => simpa [found] using h

/-- A list that is there stays as it is. -/
theorem get_push_of_get?_list {xs : Array Value} (found : w.get? a = some (.list xs)) :
    (w.push o).get a = .list xs := by
  have inside : a ≠ w.heap.size := by
    rintro rfl
    simp [get?] at found
  rw [get_push_of_ne inside]
  unfold get? at found
  simp [get, found]

theorem isSubclass_known (w : World) (kind ancestor : String) :
    w.isSubclass (.known kind) (.known ancestor) = (knownOrder kind).contains ancestor := by
  simp only [isSubclass, order]
  induction knownOrder kind with
  | nil => rfl
  | cons k ks ih =>
    have same : (TypeRef.known ancestor == TypeRef.known k) = decide (ancestor = k) := rfl
    simp_all

/-- Known classes declare nothing. -/
theorem classAttr?_known (w : World) (kind name : String) : w.classAttr? (.known kind) name = none := by
  simp [classAttr?, order, classInfo?]

end World

/-! ### Actions on their worlds -/

section

variable {α β : Type} {w w' : World} {v e : Value} {t : TypeRef} {m : Action α}
  {f : α → Action β}

theorem Action.pure_apply (a : α) (w : World) : (pure a : Action α) w = .done a w := rfl

theorem Action.bind_of_done {a : α} (h : m w = .done a w') : (m >>= f) w = f a w' := by
  change (m w).bind (fun a => f a) = _
  rw [h]
  rfl

theorem Action.bind_of_raised (h : m w = .raised e w') : (m >>= f) w = .raised e w' := by
  change (m w).bind (fun a => f a) = _
  rw [h]
  rfl

theorem Action.tryCatch_of_done {a : α} {handler : Value → Action α} (h : m w = .done a w') :
    (tryCatch m handler) w = .done a w' := by
  change (m w).recover _ = _
  rw [h]
  rfl

theorem Action.tryCatch_of_raised {handler : Value → Action α} (h : m w = .raised e w') :
    (tryCatch m handler) w = handler e w' := by
  change (m w).recover _ = _
  rw [h]
  rfl

theorem Action.world_bind (f : World → Action β) (w : World) :
    (Action.world >>= f) w = f w w := rfl

/-- Which class a value passes for is a matter of its class if that declares nothing about it. -/
theorem passesFor_apply (own : ¬ w.Declares v "__class__") (t : TypeRef) :
    passesFor v t w = .done (w.isInstance v t) w := by
  have own : w.classAttr? (w.typeRef v) "__class__" = none := by
    simpa [World.Declares] using own
  rw [passesFor, Action.world_bind]
  cases h : w.isInstance v t with
  | true => rfl
  | false =>
    have claimed : claimedClass v w = .done (w.typeRef v) w := by
      simp only [claimedClass, Action.world_bind, own, Option.isNone_none, if_true]
      rfl
    have other : w.isSubclass (w.typeRef v) t = false := h
    simp only [Bool.false_eq_true, if_false, Action.bind_of_done claimed, Action.world_bind, other]
    rfl

theorem isSequence_apply (own : ¬ w.Declares v "__class__") :
    isSequence v w =
      .done (w.isInstance v (.known "tuple") || w.isInstance v (.known "list")) w := by
  rw [isSequence, Action.bind_of_done (passesFor_apply own _)]
  cases h : w.isInstance v (.known "tuple") with
  | true => rfl
  | false => exact passesFor_apply own _

theorem callDeclared?_apply {name : String} (own : ¬ w.Declares v name) :
    callDeclared? v name [] w = .done none w := by
  have own : w.classAttr? (w.typeRef v) name = none := by simpa [World.Declares] using own
  have absent : declared? v name w = .done none w := by simp [declared?, own]
  rw [callDeclared?, Action.bind_of_done absent]
  rfl

theorem length_apply (own : ¬ w.Declares v "__len__") {xs : List Value}
    (contains : w.contained? v = some xs) : length v w = .done xs.length w := by
  have known : w.knownLength? v = some xs.length := by
    unfold World.contained? at contains
    unfold World.knownLength?
    grind
  have length : length? v w = .done (some xs.length) w := by
    rw [length?, Action.bind_of_done (callDeclared?_apply own), ← known]
    rfl
  rw [Execution.length, Action.bind_of_done length]
  rfl

/-! ### Iterators of tuples and lists -/

/-- An iterator that hands out these values next. -/
inductive Hands (w : World) : Iterator → List Value → Prop
  | items (xs : List Value) : Hands w (.items xs "tuple_iterator") xs
  | list {a : Address} {ys : Array Value} {xs : List Value} {place : Nat}
      (found : w.get? a = some (.list ys)) (rest : ys.toList.drop place = xs) :
      Hands w (.list a place false) xs

theorem Hands.typeName {i : Iterator} {xs : List Value} (h : Hands w i xs) :
    i.typeName = "tuple_iterator" ∨ i.typeName = "list_iterator" := by
  cases h with
  | items => exact .inl rfl
  | list => exact .inr rfl

theorem newIterator_apply (i : Iterator) (w : World) :
    newIterator i w = .done (some (.ref w.heap.size)) (w.push (.iterator i)) := rfl

/-- A value that contains items hands them out. -/
theorem iterator_apply (own : ¬ w.Declares v "__iter__") {xs : List Value}
    (contains : w.contained? v = some xs) :
    ∃ i, iterator v w = .done (.ref w.heap.size) (w.push (.iterator i)) ∧ Hands w i xs := by
  have own : w.classAttr? (w.typeRef v) "__iter__" = none := by
    simpa [World.Declares] using own
  have absent : declared? v "__iter__" w = .done none w := by simp [declared?, own]
  suffices known : ∃ i, knownIterator? v w = newIterator i w ∧ Hands w i xs by
    obtain ⟨i, same, hands⟩ := known
    rw [newIterator_apply] at same
    refine ⟨i, ?_, hands⟩
    have found : iterator? v w = .done (some (.ref w.heap.size)) (w.push (.iterator i)) := by
      rw [iterator?, Action.bind_of_done absent]
      exact (Action.bind_of_done same).trans rfl
    rw [iterator, Action.bind_of_done found]
    rfl
  unfold World.contained? at contains
  rw [knownIterator?, Action.world_bind]
  split at contains
  · next content =>
    cases contains
    exact ⟨_, by rw [content], .items _⟩
  · next a content =>
    split at contains
    · next ys found =>
      cases contains
      exact ⟨.list a 0 false, by rw [content]; dsimp only; rw [found],
        .list (World.get?_of_get_list found) rfl⟩
    · cases contains
  · cases contains

/-! ### One value after the other -/

theorem store_push {o o' : Obj} (w : World) :
    store w.heap.size o' (w.push o) = .done () (w.push o') := by
  have same : (w.heap.push o).setIfInBounds w.heap.size o' = w.heap.push o' := by
    apply Array.ext'
    simp
  simp only [store, World.push, same]

theorem untilEnd_of_done {next : Action Value} {x : Value} (h : next w = .done x w') :
    untilEnd next w = .done (some x) w' := by
  unfold untilEnd
  exact Action.tryCatch_of_done ((Action.bind_of_done h).trans rfl)

theorem untilEnd_of_raised {next : Action Value} (h : next w = .raised e w')
    (stops : w'.isInstance e (.known "StopIteration") = true) :
    untilEnd next w = .done none w' := by
  have tested : isInstanceOf e "StopIteration" w' = .done true w' := by simp [isInstanceOf, stops]
  unfold untilEnd
  exact (Action.tryCatch_of_raised (Action.bind_of_raised h)).trans
    ((Action.bind_of_done tested).trans rfl)

theorem advance_of_iterator {a : Address} {i : Iterator} (found : w.get? a = some (.iterator i)) :
    ∃ next, advance (.ref a) w = (nextOf next a i >>= fun
      | some x => pure x
      | none => exhausted) w := by
  have obj : objOf (.ref a) w = .done (some (.iterator i)) w := by
    simp [objOf, World.obj?, found]
  refine ⟨fun u => untilEnd (advanceWithin 989 u), ?_⟩
  change advanceWithin (989 + 1) (.ref a) w = _
  rw [advanceWithin]
  exact (Action.bind_of_done obj).trans rfl

/-- The error that tells of an end is one. -/
theorem exhausted_apply (w : World) :
    ∃ e w', (exhausted : Action Value) w = .raised e w' ∧
      w'.isInstance e (.known "StopIteration") = true := by
  refine ⟨.ref w.heap.size, w.push (.instance (.known "StopIteration") [] (some (.tuple []))), rfl,
    ?_⟩
  simp only [World.isInstance, World.typeRef, World.get_push_size, Obj.typeRef,
    World.isSubclass_known]
  decide

theorem next?_cons {i : Iterator} {x : Value} {xs : List Value} (h : Hands w i (x :: xs)) :
    ∃ i', Hands w i' xs ∧
      next? (.ref w.heap.size) (w.push (.iterator i)) = .done (some x) (w.push (.iterator i')) := by
  obtain ⟨next, same⟩ := advance_of_iterator (w := w.push (.iterator i)) World.get?_push_size
  suffices stepped : ∃ i', Hands w i' xs ∧ nextOf next w.heap.size i (w.push (.iterator i)) =
      .done (some x) (w.push (.iterator i')) by
    obtain ⟨i', hands, stepped⟩ := stepped
    refine ⟨i', hands, untilEnd_of_done ?_⟩
    rw [same, Action.bind_of_done stepped]
    rfl
  cases h with
  | items =>
    refine ⟨.items xs "tuple_iterator", .items xs, ?_⟩
    rw [nextOf, Action.world_bind]
    exact (Action.bind_of_done (store_push w)).trans rfl
  | @list a ys _ place found rest =>
    have first : ys[place]? = some x := by
      rw [← Array.getElem?_toList, ← List.head?_drop, rest]
      rfl
    have behind : ys.toList.drop (place + 1) = xs := by
      rw [← List.tail_drop, rest]
      rfl
    refine ⟨.list a (place + 1) false, .list found behind, ?_⟩
    rw [nextOf, Action.world_bind]
    simp only [World.get_push_of_get?_list found, first]
    exact (Action.bind_of_done (store_push w)).trans rfl

theorem next?_nil {i : Iterator} (h : Hands w i []) :
    ∃ w', next? (.ref w.heap.size) (w.push (.iterator i)) = .done none w' := by
  obtain ⟨next, same⟩ := advance_of_iterator (w := w.push (.iterator i)) World.get?_push_size
  suffices stepped : ∃ w', nextOf next w.heap.size i (w.push (.iterator i)) = .done none w' by
    obtain ⟨w', stepped⟩ := stepped
    obtain ⟨e, w'', raised, stops⟩ := exhausted_apply w'
    refine ⟨w'', untilEnd_of_raised ?_ stops⟩
    rw [same, Action.bind_of_done stepped]
    exact raised
  cases h with
  | items =>
    refine ⟨w.push (.iterator (.items [] "tuple_iterator")), ?_⟩
    rw [nextOf, Action.world_bind]
    rfl
  | @list a ys _ place found rest =>
    have none : ys[place]? = none := by
      rw [← Array.getElem?_toList, ← List.head?_drop, rest]
      rfl
    refine ⟨w.push (.iterator (.list a place true)), ?_⟩
    rw [nextOf, Action.world_bind]
    simp only [World.get_push_of_get?_list found, none]
    exact (Action.bind_of_done (store_push w)).trans rfl

/-- While an iterator is at work, values are texts that were. -/
theorem isTextValue_push {i : Iterator} {xs : List Value} (hands : Hands w i xs)
    (own : ¬ w.Declares v "__class__") :
    isTextValue v (w.push (.iterator i)) =
      .done (w.isInstance v (.known "str")) (w.push (.iterator i)) := by
  have other : ∀ info, Obj.iterator i ≠ .cls info := by simp
  by_cases dangling : v = .ref w.heap.size
  · subst dangling
    have before : w.isInstance (.ref w.heap.size) (.known "str") = false := by
      have frame : w.get w.heap.size = .frame [] := by
        simp only [World.get, Array.getElem?_size, Option.getD_none]
        rfl
      simp only [World.isInstance, World.typeRef, frame, Obj.typeRef, World.isSubclass_known]
      decide
    have now : (w.push (.iterator i)).isInstance (.ref w.heap.size) (.known "str") = false := by
      simp only [World.isInstance, World.typeRef, World.get_push_size, Obj.typeRef,
        World.isSubclass_known]
      rcases hands.typeName with name | name <;> rw [name] <;> decide
    rw [isTextValue, passesFor_apply, now, before]
    simp [World.Declares, World.typeRef, Obj.typeRef, World.classAttr?_known]
  · have same := World.typeRef_push (o := .iterator i) dangling
    rw [isTextValue, passesFor_apply]
    · simp only [World.isInstance, same, World.isSubclass_push other]
    · simpa only [World.Declares, same, World.classAttr?_push other] using own

/-- One round of a run through an iterator. -/
def eachRound (iterator : Value) (body : Value → Action (Option α)) (_ : Unit) :
    Action (Unit ⊕ Option α) := do
  match ← next? iterator with
  | none => pure (.inr none)
  | some v => match ← body v with
    | none => pure (.inl ())
    | some r => pure (.inr (some r))

/-- What answers whether a value is something else than a text. -/
def otherThanText (v : Value) : Action (Option Unit) := do
  if ← isTextValue v then pure none else pure (some ())

theorem otherThanText_apply {isText : Bool} (text : isTextValue v w = .done isText w') :
    otherThanText v w = .done (if isText then none else some ()) w' := by
  rw [otherThanText, Action.bind_of_done text]
  cases isText <;> rfl

/-- Items are looked at one after the other, up to the first that is no text. -/
theorem eachOf_apply {i : Iterator} {xs : List Value} (hands : Hands w i xs)
    (own : ∀ x ∈ xs, ¬ w.Declares x "__class__") {fuel : Nat} (patient : xs.length < fuel) :
    ∃ w', repeatAction (eachRound (.ref w.heap.size) otherThanText) fuel ()
        (w.push (.iterator i)) =
      .done (if xs.all fun x => w.isInstance x (.known "str") then none else some ()) w' := by
  induction xs generalizing i fuel with
  | nil =>
    obtain ⟨fuel, rfl⟩ : ∃ k, fuel = k + 1 := ⟨fuel - 1, by simp at patient; omega⟩
    obtain ⟨w', ended⟩ := next?_nil hands
    have round : eachRound (.ref w.heap.size) otherThanText () (w.push (.iterator i)) =
        .done (.inr none) w' := by
      rw [eachRound, Action.bind_of_done ended]
      rfl
    refine ⟨w', ?_⟩
    rw [repeatAction, Action.bind_of_done round]
    rfl
  | cons x xs ih =>
    obtain ⟨fuel, rfl⟩ : ∃ k, fuel = k + 1 := ⟨fuel - 1, by omega⟩
    obtain ⟨i', hands', first⟩ := next?_cons hands
    have text := isTextValue_push hands' (own x List.mem_cons_self)
    cases isText : w.isInstance x (.known "str") with
    | true =>
      rw [isText] at text
      have round : eachRound (.ref w.heap.size) otherThanText () (w.push (.iterator i)) =
          .done (.inl ()) (w.push (.iterator i')) := by
        rw [eachRound, Action.bind_of_done first]
        exact (Action.bind_of_done (otherThanText_apply text)).trans rfl
      have short : xs.length < fuel := by
        simp at patient
        omega
      obtain ⟨w', rest⟩ := ih hands' (fun y member => own y (List.mem_cons_of_mem x member)) short
      refine ⟨w', ?_⟩
      rw [repeatAction, Action.bind_of_done round]
      simpa [isText] using rest
    | false =>
      rw [isText] at text
      have round : eachRound (.ref w.heap.size) otherThanText () (w.push (.iterator i)) =
          .done (.inr (some ())) (w.push (.iterator i')) := by
        rw [eachRound, Action.bind_of_done first]
        exact (Action.bind_of_done (otherThanText_apply text)).trans rfl
      refine ⟨w.push (.iterator i'), ?_⟩
      rw [repeatAction, Action.bind_of_done round]
      simp [isText, Action.pure_apply]

/-- The check of a pair is exact if no declared class answers for the value or its items. -/
theorem isPair_apply {xs : List Value} (contains : w.contained? v = some xs)
    (sequence : (w.isInstance v (.known "tuple") || w.isInstance v (.known "list")) = true)
    (own : ∀ name ∈ ["__class__", "__len__", "__iter__"], ¬ w.Declares v name)
    (items : ∀ x ∈ xs, ¬ w.Declares x "__class__") :
    ∃ w', isPair v w = .done (xs.length == 2 && xs.all fun x => w.isInstance x (.known "str"))
      w' := by
  have tested := isSequence_apply (own "__class__" (by simp))
  rw [sequence] at tested
  have counted := length_apply (own "__len__" (by simp)) contains
  obtain ⟨i, taken, hands⟩ := iterator_apply (own "__iter__" (by simp)) contains
  unfold isPair
  rw [Action.bind_of_done tested]
  simp only [if_true]
  rw [Action.bind_of_done counted]
  by_cases two : xs.length = 2
  · obtain ⟨w', looked⟩ := eachOf_apply hands items
      (show xs.length < patience by rw [two]; decide)
    refine ⟨w', ?_⟩
    simp only [two, BEq.rfl, if_true]
    rw [Action.bind_of_done taken]
    refine (Action.bind_of_done (m := eachOf _ otherThanText) looked).trans ?_
    split <;> simp_all [Action.pure_apply]
  · refine ⟨w, ?_⟩
    simp [two, Action.pure_apply]

end

/-! ### Accepted answers -/

/-- What an answer of some shape is, unless a declared class has answered for it: a text, or a tuple
or list that contains two texts and nothing else. -/
def World.Answers (w : World) (v : Value) : AnswerShape → Prop
  | .text => w.Declares v "__class__" ∨ w.isInstance v (.known "str") = true
  | .textPair =>
    (w.Declares v "__class__" ∨ w.isInstance v (.known "tuple") = true ∨
      w.isInstance v (.known "list") = true) ∧
    ∀ xs, w.contained? v = some xs →
      (∀ name ∈ ["__class__", "__len__", "__iter__"], ¬ w.Declares v name) →
      (∀ x ∈ xs, ¬ w.Declares x "__class__") →
      xs.length = 2 ∧ ∀ x ∈ xs, w.isInstance x (.known "str") = true

theorem World.answers_atRest {w : World} {v : Value} {shape : AnswerShape} :
    w.atRest.Answers v shape ↔ w.Answers v shape := Iff.rfl

theorem Memory.perform_of_done {memory : Memory} {action : Action Value} {v : Value} {w : World}
    (h : action memory.world.atRest = .done v w) :
    memory.perform action = ⟨.ok v, ⟨w, memory.waiting, memory.notes⟩⟩ := by
  obtain ⟨moves, many⟩ : ∃ moves, patience = moves + 1 := ⟨281474976710655, rfl⟩
  simp [Memory.perform, many, h, Machine.run, Machine.step, Run.settle, Machine.finish]

theorem Scene.performTest_of_done {s : Scene} {action : Action Bool} {b : Bool} {w : World}
    (h : action s.memory.world.atRest = .done b w) :
    ∃ s', Scene.performTest action s = .ok b s' := by
  have answered : (do return .bool (← action) : Action Value) s.memory.world.atRest =
      .done (.bool b) w := Action.bind_of_done h
  refine ⟨{ s with memory := ⟨w, s.memory.waiting, s.memory.notes⟩ }, ?_⟩
  simp only [Scene.performTest, Scene.perform, Memory.perform_of_done answered]
  cases b <;> rfl

/-- An answer that is accepted is of its shape. -/
theorem answers_of_accepts {file : String} {shape : AnswerShape} {v : Value} {s t : Scene}
    (accepted : (host file).accepts shape v s = .ok true t) : s.memory.world.Answers v shape := by
  rw [← World.answers_atRest]
  have exact {b : Bool} {w : World} (checked : hasShape shape v s.memory.world.atRest = .done b w) :
      b = true := by
    obtain ⟨s', same⟩ := Scene.performTest_of_done checked
    have both := same.symm.trans accepted
    cases both
    rfl
  generalize s.memory.world.atRest = w at exact ⊢
  cases shape with
  | text =>
    by_cases own : w.Declares v "__class__"
    · exact .inl own
    · exact .inr (exact (passesFor_apply own _))
  | textPair =>
    have sequence (own : ¬ w.Declares v "__class__") :
        (w.isInstance v (.known "tuple") ||
          w.isInstance v (.known "list")) = true := by
      have tested := isSequence_apply own
      cases isOne : w.isInstance v (.known "tuple") ||
          w.isInstance v (.known "list") with
      | true => rfl
      | false =>
        rw [isOne] at tested
        have refused : isPair v w = .done false w := by
          rw [isPair, Action.bind_of_done tested]
          rfl
        exact exact refused
    constructor
    · by_cases own : w.Declares v "__class__"
      · exact .inl own
      · exact .inr (by simpa using sequence own)
    · intro xs contains own items
      obtain ⟨w', checked⟩ := isPair_apply contains (sequence (own "__class__" (by simp))) own items
      have both := exact checked
      rw [Bool.and_eq_true, beq_iff_eq, List.all_eq_true] at both
      exact both

/-- If a trial comes to an end, every outcome is what some call has returned, and in the world after
that call it is an answer of the shape that the kind asks for. -/
theorem accepted_shape {file : String} {kind : RuleKind} {f : Value} {s t : Scene}
    {outcomes : List (Outcome LiveRecord Value)}
    (ended : Trial.run (host file) kind f s = .ok outcomes t) :
    ∀ o ∈ outcomes, ∃ before after : Scene,
      (host file).call f o.record before = .ok o.value after ∧
        after.memory.world.Answers o.value kind.shape := by
  have tested := Trial.testAll_cases (host file) kind f ((host file).records s) s
  change Trial.testAll (host file) kind f ((host file).records s) s = _ at ended
  rw [ended] at tested
  intro o member
  obtain ⟨before, after, checked, called, accepted⟩ := tested.2.accepted o member
  exact ⟨before, after, called, answers_of_accepts accepted⟩

/-- A script whose answers claim two items and contain none. -/
def emptyPairScript : String :=
  "class Pair(tuple):\n    def __len__(self):\n        return 2\n" ++
  "def groupBy(span, trace):\n    return Pair()\n"

/-- What a script's function comes to on the sample trace, where it is exported and accepted. -/
def sampleOutcomes (code : String) :
    Option (Value × Scene × List (Outcome LiveRecord Value) × Scene) :=
  match exportedFunction host .spanGrouping code Desk.sampleDesk.world with
  | .ok f s => match Trial.run host .spanGrouping f s with
    | .ok outcomes t => some (f, s, outcomes, t)
    | .error _ _ => none
  | .error _ _ => none

theorem run_of_sampleOutcomes {code : String} {f : Value} {s t : Scene}
    {outcomes : List (Outcome LiveRecord Value)}
    (h : sampleOutcomes code = some (f, s, outcomes, t)) :
    Trial.run host .spanGrouping f s = .ok outcomes t := by
  unfold sampleOutcomes at h
  split at h
  · split at h
    · next tested =>
      cases h
      exact tested
    · cases h
  · cases h

theorem grouping_accepted_shape :
    ∃ (f : Value) (s t : Scene) (o : Outcome LiveRecord Value),
      Trial.run host .spanGrouping f s = .ok [o] t ∧ ∃ before after : Scene,
        (host).call f o.record before = .ok o.value after ∧
          after.memory.world.Answers o.value .textPair := by
  have one : (sampleOutcomes Desk.groupingScript).any
      (fun x => x.2.2.1.length == 1) = true := by
    decide +kernel
  obtain ⟨⟨f, s, outcomes, t⟩, found, single⟩ := (Option.any_eq_true _ _).mp one
  obtain ⟨o, rfl⟩ := List.length_eq_one_iff.mp (by simpa using single)
  have ended := run_of_sampleOutcomes found
  exact ⟨f, s, t, o, ended, accepted_shape ended o (by simp)⟩

/-- An accepted answer need not contain what it claims. -/
theorem empty_pair_accepted :
    ¬ ∀ (kind : RuleKind) (f : Value) (s t : Scene) (outcomes : List (Outcome LiveRecord Value)),
      kind.shape = .textPair → Trial.run host kind f s = .ok outcomes t →
      ∀ o ∈ outcomes, ∃ xs, t.memory.world.contained? o.value = some xs ∧ xs.length = 2 ∧
        ∀ x ∈ xs, t.memory.world.isInstance x (.known "str") = true := by
  intro always
  have empty : (sampleOutcomes emptyPairScript).any (fun x => x.2.2.1.any fun o =>
      (x.2.2.2.memory.world.contained? o.value).any List.isEmpty) = true := by
    decide +kernel
  obtain ⟨⟨f, s, outcomes, t⟩, found, some⟩ := (Option.any_eq_true _ _).mp empty
  obtain ⟨o, member, contains⟩ := List.any_eq_true.mp some
  obtain ⟨xs, contained, two, _⟩ :=
    always .spanGrouping f s t outcomes rfl (run_of_sampleOutcomes found) o member
  rw [contained] at contains
  simp_all

end RuleBench.Execution
