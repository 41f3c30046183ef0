import RuleBench.Execution.Machine
import RuleBench.Proofs.Execution.Lowered

/-!
# Machines in step

Two machines, one that runs silenced scripts and one that runs their lowered forms, make the same
moves in the same worlds, as long as nothing looks at a table of annotations. A look is never
forgotten, so that the notes a run ends with tell whether there was one.
-/

namespace RuleBench.Execution

open RuleBench.Script

variable {α : Type}

/-! ### Notes -/

namespace Notes

/-- Like code under the same numbers, and no table on the one side where there is none on the
other. Nothing has looked. -/
structure Alike (n n' : Notes) : Prop where
  code : List.Forall₂ LikeCode n.code.toList n'.code.toList
  tables : n.tables = [] → n'.tables = []
  unseen : n.seen = false
  unseen' : n'.seen = false

theorem Alike.refl {n : Notes} (h : n.seen = false) : n.Alike n :=
  ⟨List.forall₂_same.mpr fun c _ => .refl c, id, h, h⟩

theorem Alike.codeOf {n n' : Notes} (h : n.Alike n') (i : Nat) :
    LikeCode (n.codeOf i) (n'.codeOf i) := by
  simp only [Notes.codeOf, ← Array.getElem?_toList]
  by_cases inside : i < n.code.toList.length
  · have inside' : i < n'.code.toList.length := h.code.length_eq ▸ inside
    rw [List.getElem?_eq_getElem inside, List.getElem?_eq_getElem inside']
    exact h.code.get inside inside'
  · rw [List.getElem?_eq_none (by omega), List.getElem?_eq_none (by rw [← h.code.length_eq]; omega)]
    exact .refl []

theorem Alike.size {n n' : Notes} (h : n.Alike n') : n.code.size = n'.code.size := by
  simpa using h.code.length_eq

theorem Alike.keep {n n' : Notes} (h : n.Alike n') {c c' : List Stmt} (like : LikeCode c c') :
    (n.keep c).Alike (n'.keep c') := by
  refine ⟨?_, h.tables, h.unseen, h.unseen'⟩
  simpa [Notes.keep] using List.rel_append h.code (.cons like .nil)

theorem Alike.start {n n' : Notes} (h : n.Alike n') (t : NoteTable) :
    Alike { n with tables := t :: n.tables } { n' with tables := t :: n'.tables } :=
  ⟨h.code, nofun, h.unseen, h.unseen'⟩

/-- A table that only the first one has is no difference as long as nothing looks. -/
theorem Alike.start_left {n n' : Notes} (h : n.Alike n') (t : NoteTable) :
    Alike { n with tables := t :: n.tables } n' := ⟨h.code, nofun, h.unseen, h.unseen'⟩

theorem Alike.alter_left {n n' : Notes} (h : n.Alike n') (a : Address) (f : NoteTable → NoteTable) :
    (n.alter a f).Alike n' :=
  ⟨h.code, fun none => h.tables (List.map_eq_nil_iff.mp none), h.unseen, h.unseen'⟩

theorem Alike.alter {n n' : Notes} (h : n.Alike n') (a : Address) (f : NoteTable → NoteTable) :
    (n.alter a f).Alike (n'.alter a f) :=
  ⟨h.code, fun none => List.map_eq_nil_iff.mpr ((h.alter_left a f).tables none), h.unseen,
    h.unseen'⟩

section

variable {n : Notes} (w : World)

theorem take_start (h : n.seen = false) (a : Address) (es : Bindings) :
    n.take w (.start a es) = (true, w, { n with tables := NoteTable.start w a es :: n.tables }) := by
  simp [take, h]

theorem take_entry (h : n.seen = false) (a : Address) (name : String) (v : Value) :
    n.take w (.entry a name v) =
      (true, w, n.alter a fun t => { t with entries := t.entries.put name v }) := by
  simp [take, h]

theorem take_look_nil (h : n.tables = []) : n.take w .look = (true, w, n) := by
  simp [take, h]

theorem seen_take_look (h : n.tables ≠ []) : (n.take w .look).2.2.seen = true := by
  simp [take, h]

theorem seen_take (h : n.seen = true) (x : Note) : (n.take w x).2.2.seen = true := by
  cases x with
  | start => simp [take, h]
  | entry => simp [take, h]
  | move => exact h
  | locate => exact h
  | look =>
    by_cases none : n.tables = []
    · rwa [take_look_nil w none]
    · exact seen_take_look w none

end

/-- A quiet note is taken and changes nothing that can be seen. -/
theorem Alike.quiet {n n' : Notes} (h : n.Alike n') (w : World) {x : Note} (quiet : x.IsQuiet) :
    ∃ m, n.take w x = (true, w, m) ∧ m.Alike n' := by
  cases x with
  | start a es => exact ⟨_, take_start w h.unseen a es, h.start_left _⟩
  | entry a name v => exact ⟨_, take_entry w h.unseen a name v, h.alter_left _ _⟩
  | move => exact quiet.elim
  | look => exact quiet.elim
  | locate => exact quiet.elim

/-- A note is taken alike, or something has looked. -/
theorem Alike.take {n n' : Notes} (h : n.Alike n') (w : World) (x : Note) :
    (n.take w x).2.2.seen = true ∨
      ∃ m m', n.take w x = (true, w, m) ∧ n'.take w x = (true, w, m') ∧ m.Alike m' := by
  cases x with
  | start a es => exact .inr ⟨_, _, take_start w h.unseen a es, take_start w h.unseen' a es, h.start _⟩
  | entry a name v =>
    exact .inr ⟨_, _, take_entry w h.unseen a name v, take_entry w h.unseen' a name v, h.alter _ _⟩
  | move a b => exact .inr ⟨_, _, rfl, rfl, h.alter _ _⟩
  | locate => exact .inr ⟨_, _, rfl, rfl, ⟨h.code, h.tables, h.unseen, h.unseen'⟩⟩
  | look =>
    by_cases none : n.tables = []
    · exact .inr ⟨n, n', take_look_nil w none, take_look_nil w (h.tables none), h⟩
    · exact .inl (seen_take_look w none)

end Notes

/-! ### Moves -/

/-- Heads of computations that follow one another. -/
inductive Head.Follows : Head α → Head α → Prop
  | done (a : α) (w : World) : Follows (.done a w) (.done a w)
  | raised (e : Value) (w : World) : Follows (.raised e w) (.raised e w)
  | ask (r : Request) (w : World) {k k' : Except Value Value → World → Run α}
      (next : ∀ x w, Run.Follows LikeCode (k x w) (k' x w)) : Follows (.ask r w k) (.ask r w k')

theorem Head.Follows.world {h h' : Head α} (f : h.Follows h') : h.world = h'.world := by
  cases f <;> rfl

theorem Run.seen_settle (r : Run α) {n : Notes} (h : n.seen = true) :
    (r.settle n).2.seen = true := by
  induction r generalizing n with
  | done => exact h
  | raised => exact h
  | ask => exact h
  | keep c w k ih => exact ih _ _ h
  | note x w k ih => exact ih _ _ (Notes.seen_take w h x)

/-- Computations that follow one another come to the same move, or something has looked. -/
theorem Run.Follows.settle {r r' : Run α} (h : Run.Follows LikeCode r r') {n n' : Notes}
    (alike : n.Alike n') :
    (r.settle n).2.seen = true ∨
      (r.settle n).1.Follows (r'.settle n').1 ∧ (r.settle n).2.Alike (r'.settle n').2 := by
  induction h generalizing n n' with
  | done a w => exact .inr ⟨.done a w, alike⟩
  | raised e w => exact .inr ⟨.raised e w, alike⟩
  | ask r w next => exact .inr ⟨.ask r w next, alike⟩
  | keep w like next ih =>
    simp only [Run.settle, ← alike.size]
    exact ih _ _ (alike.keep like)
  | note x w next ih =>
    rcases alike.take w x with seen | ⟨m, m', source, lowered, alike⟩
    · left
      simp only [Run.settle]
      exact Run.seen_settle _ seen
    · simp only [Run.settle, source, lowered]
      exact ih true w alike
  | quiet w quiet next ih =>
    obtain ⟨m, taken, alike⟩ := alike.quiet w quiet
    simp only [Run.settle, taken]
    exact ih alike

/-! ### Machines -/

/-- What is left to do, for the one and the other. -/
def Rest.Follows (k k' : Rest) : Prop := ∀ x w, Run.Follows LikeCode (k x w) (k' x w)

inductive Layer.Follows : Layer → Layer → Prop
  | call {k k' : Rest} (rest : Rest.Follows k k') (nested : Bool) :
    Follows (.call k nested) (.call k' nested)
  | generator (a : Address) {k k' : Rest} (rest : Rest.Follows k k') (handled : Nat) :
    Follows (.generator a k handled) (.generator a k' handled)

/-- The same generator is set aside, with what is left to it. -/
structure Waiting.Follows (g g' : Address × Waiting) : Prop where
  address : g.1 = g'.1
  rest : Rest.Follows g.2.rest g'.2.rest
  handled : g.2.handled = g'.2.handled

structure Memory.Alike (m m' : Memory) : Prop where
  world : m.world = m'.world
  waiting : List.Forall₂ Waiting.Follows m.waiting m'.waiting
  notes : m.notes.Alike m'.notes

structure Ending.Alike (e e' : Ending) : Prop where
  result : e.result = e'.result
  memory : e.memory.Alike e'.memory

namespace Machine

structure Alike (m m' : Machine) : Prop where
  now : Run.Follows LikeCode m.now m'.now
  stack : List.Forall₂ Layer.Follows m.stack m'.stack
  depth : m.depth = m'.depth
  waiting : List.Forall₂ Waiting.Follows m.waiting m'.waiting
  notes : m.notes.Alike m'.notes

/-- Both end alike or both go on alike. -/
inductive MoveAlike : Ending ⊕ Machine → Ending ⊕ Machine → Prop
  | ended {e e' : Ending} (alike : e.Alike e') : MoveAlike (.inl e) (.inl e')
  | goesOn {m m' : Machine} (alike : m.Alike m') : MoveAlike (.inr m) (.inr m')

/-- Both find the same generator set aside, or none. -/
theorem takeWaiting_follows (a : Address) {gs gs' : List (Address × Waiting)}
    (h : List.Forall₂ Waiting.Follows gs gs') :
    Option.Rel (fun p p' => Waiting.Follows (a, p.1) (a, p'.1) ∧
      List.Forall₂ Waiting.Follows p.2 p'.2) (takeWaiting a gs) (takeWaiting a gs') := by
  induction h with
  | nil => exact .none
  | @cons g g' gs gs' head rest ih =>
    obtain ⟨b, g⟩ := g
    obtain ⟨b', g'⟩ := g'
    obtain rfl : b = b' := head.address
    simp only [takeWaiting]
    split
    · exact .some ⟨⟨rfl, head.rest, head.handled⟩, rest⟩
    · generalize takeWaiting a gs = found, takeWaiting a gs' = found' at ih ⊢
      cases ih with
      | none => exact .none
      | some found => exact .some ⟨found.1, .cons head found.2⟩

section

variable {m m' : Machine} (h : m.Alike m')
include h

theorem Alike.finish (result : Except Value Value) (w : World) :
    MoveAlike (m.finish result w) (m'.finish result w) := by
  obtain ⟨now, stack, depth, waiting, notes⟩ := m
  obtain ⟨now', stack', depth', waiting', notes'⟩ := m'
  obtain ⟨hnow, hstack, hdepth, hwaiting, hnotes⟩ := h
  cases hstack with
  | nil => exact .ended ⟨rfl, rfl, hwaiting, hnotes⟩
  | cons top below =>
    cases top with
    | call rest nested =>
      refine .goesOn ⟨rest result w, below, ?_, hwaiting, hnotes⟩
      simp_all
    | generator a rest handled =>
      refine .goesOn ⟨?_, .cons (.call rest false) below, ?_, hwaiting, hnotes⟩
      · exact .refl LikeCode.refl _
      · simp_all

theorem Alike.enterCall (f : Value) (args : List Value) (named : Bindings) (w : World) {k k' : Rest}
    (rest : Rest.Follows k k') :
    (m.enterCall f args named w k).Alike (m'.enterCall f args named w k') where
  now := by
    simp only [Machine.enterCall, ← h.depth]
    split
    · exact .refl LikeCode.refl _
    · exact apply_keeps h.notes.codeOf f args named w
  stack := .cons (.call rest _) h.stack
  depth := by simp only [Machine.enterCall, h.depth]
  waiting := h.waiting
  notes := h.notes

theorem Alike.handOut (v : Value) (w : World) {k k' : Rest} (rest : Rest.Follows k k') :
    (m.handOut v w k).Alike (m'.handOut v w k') := by
  obtain ⟨now, stack, depth, waiting, notes⟩ := m
  obtain ⟨now', stack', depth', waiting', notes'⟩ := m'
  obtain ⟨hnow, hstack, hdepth, hwaiting, hnotes⟩ := h
  cases hstack with
  | nil => exact ⟨.refl LikeCode.refl _, .nil, hdepth, hwaiting, hnotes⟩
  | cons top below =>
    cases top with
    | call other nested =>
      exact ⟨.refl LikeCode.refl _, .cons (.call other nested) below, hdepth, hwaiting, hnotes⟩
    | generator a other handled =>
      exact ⟨other _ _, below, congrArg (· - 1) hdepth, .cons ⟨rfl, rest, rfl⟩ hwaiting, hnotes⟩

/-- Both do the same before they go on. -/
theorem Alike.answerWith (r : Run Value) {k k' : Rest} (rest : Rest.Follows k k') :
    Alike { m with now := r, stack := .call k false :: m.stack }
      { m' with now := r, stack := .call k' false :: m'.stack } :=
  ⟨.refl LikeCode.refl r, .cons (.call rest false) h.stack, h.depth, h.waiting, h.notes⟩

/-- Both go into the same generator. -/
theorem Alike.enter (a : Address) (handled : Nat) {r r' : Run Value}
    (now : Run.Follows LikeCode r r') {gs gs' : List (Address × Waiting)}
    (waiting : List.Forall₂ Waiting.Follows gs gs') {k k' : Rest} (rest : Rest.Follows k k') :
    Alike { m with
        now := r, stack := .generator a k handled :: m.stack, depth := m.depth + 1, waiting := gs }
      { m' with
        now := r', stack := .generator a k' handled :: m'.stack, depth := m'.depth + 1
        waiting := gs' } :=
  ⟨now, .cons (.generator a rest handled) h.stack, congrArg (· + 1) h.depth, waiting, h.notes⟩

theorem Alike.resume (a : Address) (how : Resumption) (w : World) {k k' : Rest}
    (rest : Rest.Follows k k') : (m.resume a how w k).Alike (m'.resume a how w k') := by
  unfold Machine.resume
  split
  · next name path form state _ =>
    cases state with
    | fresh work =>
      cases how with
      | throw e => exact h.answerWith _ rest
      | send v =>
        cases v with
        | none => exact h.enter a _ (beginWork_keeps h.notes.codeOf work _) h.waiting rest
        | _ => exact h.answerWith _ rest
    | running => exact h.answerWith _ rest
    | finished => cases how <;> exact h.answerWith _ rest
    | suspended =>
      have found := takeWaiting_follows a h.waiting
      simp only
      generalize takeWaiting a m.waiting = x, takeWaiting a m'.waiting = x' at found
      cases found with
      | none => exact h.answerWith _ rest
      | @some p p' both =>
        obtain ⟨g, others⟩ := p
        obtain ⟨g', others'⟩ := p'
        obtain ⟨⟨-, left, handled⟩, waiting⟩ := both
        simp only at left handled waiting ⊢
        rw [← handled]
        exact h.enter a _ (left _ _) waiting rest
  · exact h.answerWith _ rest

/-- Alike machines make the same move, or something has looked. -/
theorem Alike.step :
    (m.now.settle m.notes).2.seen = true ∨ MoveAlike m.step m'.step := by
  refine (h.now.settle h.notes).imp_right fun ⟨head, notes⟩ => ?_
  have settled : Alike { m with notes := (m.now.settle m.notes).2 }
      { m' with notes := (m'.now.settle m'.notes).2 } := { h with notes }
  unfold Machine.step
  generalize m.now.settle m.notes = x, m'.now.settle m'.notes = x' at head settled
  obtain ⟨hd, n⟩ := x
  obtain ⟨hd', n'⟩ := x'
  simp only at head settled ⊢
  cases head with
  | done v w => exact settled.finish _ w
  | raised e w => exact settled.finish _ w
  | ask r w rest =>
    cases r with
    | call f args named => exact .goesOn (settled.enterCall f args named w rest)
    | resume a how => exact .goesOn (settled.resume a how w rest)
    | yield v => exact .goesOn (settled.handOut v w rest)

theorem Alike.abandon : m.abandon.memory.notes.seen = true ∨ m.abandon.Alike m'.abandon :=
  (h.now.settle h.notes).imp_right fun ⟨head, notes⟩ => ⟨rfl, head.world, h.waiting, notes⟩

end

/-- The notes after a move. -/
def notesAfter : Ending ⊕ Machine → Notes
  | .inl e => e.memory.notes
  | .inr m => m.notes

theorem notesAfter_step (m : Machine) : notesAfter m.step = (m.now.settle m.notes).2 := by
  unfold Machine.step
  generalize m.now.settle m.notes = x
  obtain ⟨head, n⟩ := x
  have finish (result : Except Value Value) (w : World) :
      notesAfter ({ m with notes := n }.finish result w) = n := by
    unfold Machine.finish
    split <;> rfl
  cases head with
  | done v w => exact finish _ w
  | raised e w => exact finish _ w
  | ask r w k =>
    cases r with
    | call => rfl
    | resume a how =>
      simp only [notesAfter, Machine.resume]
      repeat' split
      all_goals rfl
    | yield v =>
      simp only [notesAfter, Machine.handOut]
      split <;> rfl

/-- A look is never forgotten. -/
theorem seen_run {m : Machine} (h : m.notes.seen = true) (fuel : Nat) :
    (run fuel m).memory.notes.seen = true := by
  induction fuel generalizing m with
  | zero => exact m.now.seen_settle h
  | succ fuel ih =>
    have after : (notesAfter m.step).seen = true := by
      rw [notesAfter_step]
      exact m.now.seen_settle h
    unfold run
    generalize m.step = x at after
    cases x with
    | inl e => exact after
    | inr m => exact ih after

/-- Alike machines end alike, or something has looked. -/
theorem Alike.run {m m' : Machine} (h : m.Alike m') (fuel : Nat) :
    (Machine.run fuel m).memory.notes.seen = true ∨
      (Machine.run fuel m).Alike (Machine.run fuel m') := by
  induction fuel generalizing m m' with
  | zero => exact h.abandon
  | succ fuel ih =>
    rcases h.step with seen | move
    · left
      rw [← notesAfter_step] at seen
      unfold Machine.run
      generalize m.step = x at seen
      cases x with
      | inl e => exact seen
      | inr m => exact seen_run seen fuel
    · unfold Machine.run
      generalize m.step = x, m'.step = x' at move
      cases move with
      | ended alike => exact .inr alike
      | goesOn alike => exact ih alike

end Machine

namespace Memory

theorem Alike.refl {m : Memory} (h : m.notes.seen = false) : m.Alike m :=
  ⟨rfl, List.forall₂_same.mpr fun _ _ => ⟨rfl, fun _ _ => .refl LikeCode.refl _, rfl⟩, .refl h⟩

theorem seen_perform {m : Memory} (h : m.notes.seen = true) (action : Action Value) :
    (m.perform action).memory.notes.seen = true := Machine.seen_run h patience

/-- What follows an action ends alike in alike memories, or something has looked. -/
theorem Alike.perform {m m' : Memory} (h : m.Alike m') {action action' : Action Value}
    (keeps : Keeps action action') :
    (m.perform action).memory.notes.seen = true ∨
      (m.perform action).Alike (m'.perform action') := by
  have start : Machine.Alike
      { now := action m.world.atRest, waiting := m.waiting, notes := m.notes }
      { now := action' m'.world.atRest, waiting := m'.waiting, notes := m'.notes } :=
    ⟨h.world ▸ keeps _, .nil, rfl, h.waiting, h.notes⟩
  exact start.run patience

end Memory

end RuleBench.Execution
