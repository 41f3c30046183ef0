import RuleBench.Proofs.Desk.Quiet
import RuleBench.Proofs.Desk.Saving

/-!
# The identity of a rule

From the moment an editor opens a rule until it opens the next one, all that it saves is one rule:
every time in the place of what was opened or saved last (`SavedRule.Chain`). Nothing else that
happens on the desk touches what the editor takes for that rule (`Editor.Retains`), so the key
stays, only the first saving of a rule that was not stored before is a new one, and a name stays
until another is given.
-/

namespace RuleBench

variable {σ ρ ν η ε : Type}

/-! ### Rules in the place of each other -/

namespace SavedRule

/-- A rule that is saved after some success, under a name and in the place of the rule that was
there before. -/
def Replaces (ρ : Type) (saved : SavedRule ν) (name : Data) (previous : Option RawRule) : Prop :=
  ∃ (report : Success ρ ν) (freshKey : String), saved.Carries report name previous freshKey

/-- Rules that are saved one after the other, each in the place of the one before. -/
inductive Chain (ρ : Type) : Option RawRule → List (Data × SavedRule ν) → Prop
  | nil (previous : Option RawRule) : Chain ρ previous []
  | cons {previous : Option RawRule} {name : Data} {saved : SavedRule ν}
      {rest : List (Data × SavedRule ν)} (first : saved.Replaces ρ name previous)
      (others : Chain ρ (some saved.raw) rest) : Chain ρ previous ((name, saved) :: rest)

/-- The rule that is replaced by the next one that is saved. -/
def latest (opened : Option RawRule) (saved : List (Data × SavedRule ν)) : Option RawRule :=
  (saved.getLast?.map fun s => s.2.raw).or opened

variable {opened : Option RawRule} {saved before behind : List (Data × SavedRule ν)}
  {s : Data × SavedRule ν}

theorem latest_cons : latest opened (s :: saved) = latest (some s.2.raw) saved := by
  cases saved with
  | nil => rfl
  | cons t rest =>
    obtain ⟨last, found⟩ := Option.isSome_iff_exists.mp (List.getLast?_isSome.mpr
      (List.cons_ne_nil t rest))
    simp [latest, List.getLast?_cons, found]

theorem isNone_latest : (latest opened saved).isNone = (saved.isEmpty && opened.isNone) := by
  cases saved with
  | nil => simp [latest]
  | cons s saved => simp [latest, List.getLast?_cons]

/-- Every rule of a chain is saved in the place of the latest before it. -/
theorem Chain.replaces (h : Chain ρ opened (before ++ s :: behind)) :
    s.2.Replaces ρ s.1 (latest opened before) := by
  induction before generalizing opened with
  | nil =>
    cases h with
    | cons first _ => exact first
  | cons t before ih =>
    cases h with
    | cons _ others =>
      rw [latest_cons]
      exact ih others

/-- All rules of a chain have one key, which is that of the rule that was there at first. -/
theorem Chain.key (h : Chain ρ opened saved) :
    ∃ key, (∀ raw ∈ opened, raw.key = key) ∧
      ∀ s ∈ saved, s.2.options.key = key ∧ s.2.raw.key = key := by
  induction h with
  | nil previous =>
    refine ⟨(previous.map RawRule.key).getD "", ?_, by simp⟩
    rintro raw rfl
    rfl
  | @cons previous name saved rest first _ ih =>
    obtain ⟨key, kept, all⟩ := ih
    have own : saved.raw.key = key := kept _ rfl
    obtain ⟨_, freshKey, carries⟩ := first
    refine ⟨key, ?_, ?_⟩
    · rintro raw rfl
      exact carries.key.symm.trans own
    · intro s inside
      rcases List.mem_cons.mp inside with rfl | inside
      · exact ⟨carries.sameKey.trans own, own⟩
      · exact all s inside

end SavedRule

/-! ### What an editor takes for its rule -/

namespace Editor

/-- An editor edits the rule that it edited before, and has nothing opened since. -/
structure Retains (e e' : Editor ρ ν) : Prop where
  rawRule : e'.rawRule = e.rawRule
  closed : e.uri = none → e'.uri = none

/-- An editor edits a rule, unless it has nothing open. -/
def Edits (e : Editor ρ ν) (rawRule : Option RawRule) : Prop :=
  e.uri = none ∨ e.rawRule = rawRule

variable {e e' e'' : Editor ρ ν}

@[refl] theorem Retains.refl (e : Editor ρ ν) : e.Retains e := ⟨rfl, id⟩

theorem Retains.of_eq (h : e' = e) : e.Retains e' := h ▸ .refl e

theorem Retains.trans (h : e.Retains e') (h' : e'.Retains e'') : e.Retains e'' :=
  ⟨h'.rawRule.trans h.rawRule, h'.closed ∘ h.closed⟩

theorem Retains.edits (h : e.Retains e') {rawRule : Option RawRule} (edits : e.Edits rawRule) :
    e'.Edits rawRule :=
  edits.imp h.closed h.rawRule.trans

/-- An editor that offers a rule for saving has its buffer open. -/
theorem uri_of_savable {c : Buffers} {report : Success ρ ν} (h : e.savable? c = some report) :
    ∃ uri, e.uri = some uri := by
  unfold savable? at h
  split at h
  · next buffer =>
    cases opened : e.uri with
    | some uri => exact ⟨uri, rfl⟩
    | none => simp [Editor.buffer, opened] at buffer
  · cases h

theorem retains_tell (now : Float) (e : Editor ρ ν) : e.Retains (e.tell now) := by
  unfold tell
  split <;> exact ⟨rfl, id⟩

theorem retains_announce (interval now : Float) (e : Editor ρ ν) :
    e.Retains (e.announce interval now) := by
  have paced (notifier : Pacer Float Unit) : e.Retains { e with notifier } := ⟨rfl, id⟩
  unfold announce
  dsimp only
  split
  · exact (paced _).trans (retains_tell now _)
  · exact paced _

theorem retains_fire (now : Float) (e : Editor ρ ν) : e.Retains (e.fire now) := by
  have paced (notifier : Pacer Float Unit) : e.Retains { e with notifier } := ⟨rfl, id⟩
  unfold fire
  dsimp only
  split
  · exact (paced _).trans (retains_tell now _)
  · exact paced _

end Editor

namespace Desk

variable {p : Bench} {host : ScriptHost σ ρ ν η ε} {d d' : Desk σ ρ ν ε} {n : Nat} {m : Move σ}
  {ms : List (Move σ)}

theorem retains_alterEditor {f : Editor ρ ν → Editor ρ ν}
    (h : ∀ e : Editor ρ ν, e.Retains (f e)) (k n : Nat)
    (d : Desk σ ρ ν ε) : (d.editor n).Retains ((d.alterEditor k f).editor n) :=
  related_alterEditor .refl h k n d

theorem retains_invalidate (k n : Nat) (d : Desk σ ρ ν ε) :
    (d.editor n).Retains ((d.invalidate k).editor n) := by
  have forgotten := retains_alterEditor (f := Editor.forget) (fun _ => ⟨rfl, id⟩) k n
    (d.abandonRun k)
  rw [editor_abandonRun] at forgotten
  exact forgotten

theorem retains_close (k n : Nat) (d : Desk σ ρ ν ε) :
    (d.editor n).Retains ((d.close k).editor n) := by
  have left := (retains_invalidate k n d).trans
    (retains_alterEditor (f := Editor.leave) (fun _ => ⟨rfl, fun _ => rfl⟩) k n _)
  unfold close
  dsimp only
  split <;> exact left

/-- Only to open a rule makes an editor take up another one. -/
theorem retains_perform {c : Command} (unopened : ∀ rawRule, c ≠ .open rawRule)
    (ok : d.perform p n c = .ok d') : (d.editor n).Retains (d'.editor n) := by
  cases c with
  | «open» rawRule => exact absurd rfl (unopened rawRule)
  | close =>
    cases ok
    exact retains_close n n d
  | edit text =>
    simp only [perform, edit] at ok
    split at ok
    · cases ok
    · split at ok
      · cases ok
      · next buffers _ =>
        cases ok
        exact (retains_invalidate n n ({ d with buffers } : Desk σ ρ ν ε)).trans
          (retains_alterEditor (Editor.retains_announce _ _) n n _)
  | invalidate =>
    cases ok
    exact retains_invalidate n n d

theorem retains_react {e : Event} (unopened : ∀ rawRule, e ≠ .command n (.open rawRule)) :
    (d.editor n).Retains ((d.react p host e).editor n) := by
  by_cases commanded : ∃ c, e = .command n c
  · obtain ⟨c, rfl⟩ := commanded
    change (d.editor n).Retains (((d.perform p n c).toOption.getD d).editor n)
    cases performed : d.perform p n c with
    | ok d' =>
      refine retains_perform (fun rawRule same => ?_) performed
      subst same
      exact unopened rawRule rfl
    | error cause => rfl
  · have uncommanded : ∀ c, e ≠ .command n c := fun c same => commanded ⟨c, same⟩
    refine ⟨view_react Editor.rawRule (fun _ _ _ _ _ => rfl) p host uncommanded, fun closed => ?_⟩
    rw [uri_react p host uncommanded, closed]

theorem retains_advance (seconds : Float) (n : Nat) (d : Desk σ ρ ν ε) :
    (d.editor n).Retains ((d.advance seconds).editor n) := by
  have rung (timers : List (Float × Nat)) (d : Desk σ ρ ν ε) :
      (d.editor n).Retains ((timers.foldl ring d).editor n) := by
    induction timers generalizing d with
    | nil => rfl
    | cons timer rest ih =>
      have first : (d.editor n).Retains ((d.ring timer).editor n) :=
        retains_alterEditor (Editor.retains_fire _) _ n _
      exact first.trans (ih _)
  exact rung (d.due (d.now + seconds)) d

/-! ### What an editor saves -/

/-- With the event that a move makes happen, an editor opens a rule. -/
def Opens (n : Nat) (d : Desk σ ρ ν ε) (m : Move σ) : Prop :=
  match d.act m with
  | some (.command k (.open _)) => k = n
  | _ => False

instance (n : Nat) (d : Desk σ ρ ν ε) (m : Move σ) : Decidable (d.Opens n m) := by
  unfold Opens
  split <;> infer_instance

/-- Whether moves have a property can be told by making them. -/
def decidableAlong (p : Bench) (host : ScriptHost σ ρ ν η ε) {P : Desk σ ρ ν ε → Move σ → Prop}
    (decidable : ∀ d m, Decidable (P d m)) :
    ∀ (d : Desk σ ρ ν ε) (ms : List (Move σ)), Decidable (Along p host P d ms)
  | _, [] => .isTrue trivial
  | d, m :: ms =>
    have := decidable d m
    have := decidableAlong p host decidable (d.move p host m) ms
    inferInstanceAs (Decidable (P d m ∧ Along p host P (d.move p host m) ms))

instance {P : Desk σ ρ ν ε → Move σ → Prop} [decidable : ∀ d m, Decidable (P d m)]
    (d : Desk σ ρ ν ε) (ms : List (Move σ)) : Decidable (Along p host P d ms) :=
  decidableAlong p host decidable d ms

/-- What an editor saves with a move, and the name that was given. -/
def saving? (n : Nat) (d : Desk σ ρ ν ε) : Move σ → Option (Data × SavedRule ν)
  | .save k name freshKey =>
    if k = n then (d.save n name freshKey).toOption.map fun result => (name, result.1) else none
  | _ => none

/-- What an editor saves with some moves, one after the other. -/
def savings (p : Bench) (host : ScriptHost σ ρ ν η ε) (n : Nat) :
    Desk σ ρ ν ε → List (Move σ) → List (Data × SavedRule ν)
  | _, [] => []
  | d, m :: ms => (d.saving? n m).toList ++ savings p host n (d.move p host m) ms

/-- A move with which an editor neither opens nor saves a rule leaves it with the rule it edits. -/
theorem retains_move (p : Bench) (host : ScriptHost σ ρ ν η ε) (unopened : ¬ d.Opens n m)
    (unsaved : d.saving? n m = none) : (d.editor n).Retains ((d.move p host m).editor n) := by
  cases acts : d.act m with
  | some e =>
    obtain ⟨ready, same⟩ := move_of_act (η := η) acts
    rw [same p host]
    refine retains_react (d := { d with ready }) fun rawRule own => unopened ?_
    simp only [Opens, acts, own]
  | none =>
    by_cases timed : ∃ seconds, m = .advance seconds
    · obtain ⟨seconds, rfl⟩ := timed
      exact retains_advance seconds n d
    · by_cases saving : ∃ k name freshKey, m = .save k name freshKey
      · obtain ⟨k, name, freshKey, rfl⟩ := saving
        simp only [move]
        cases saved : d.save k name freshKey with
        | error cause => rfl
        | ok result =>
          have other : n ≠ k := by
            rintro rfl
            simp [saving?, saved, Except.toOption] at unsaved
          obtain ⟨_, _, _, same⟩ := carries_of_save saved
          simp only [Except.toOption, Option.map_some, Option.getD_some, same]
          exact .of_eq (editor_alterEditor_of_ne other)
      · exact .of_eq (editor_move_of_still p host acts
          (fun k name freshKey same => saving ⟨k, name, freshKey, same⟩)
          (fun seconds same => timed ⟨seconds, same⟩) n)

/-- A rule that an editor saves takes the place of the one that it edits, and is the one that it
edits from then on. -/
theorem replaces_of_saving (p : Bench) (host : ScriptHost σ ρ ν η ε) {s : Data × SavedRule ν} {rawRule : Option RawRule}
    (edits : (d.editor n).Edits rawRule) (saving : d.saving? n m = some s) :
    s.2.Replaces ρ s.1 rawRule ∧ ((d.move p host m).editor n).Edits (some s.2.raw) := by
  cases m with
  | save k name freshKey =>
    simp only [saving?] at saving
    split at saving
    · next own =>
      subst own
      cases saved : d.save k name freshKey with
      | error cause => simp [saved, Except.toOption] at saving
      | ok result =>
        obtain rfl : (name, result.1) = s := by simpa [saved, Except.toOption] using saving
        obtain ⟨report, savable, carries, same⟩ := carries_of_save saved
        obtain ⟨uri, opened⟩ := Editor.uri_of_savable savable
        have edited : (d.editor k).rawRule = rawRule := edits.resolve_left (by simp [opened])
        refine ⟨⟨report, freshKey, edited ▸ carries⟩, .inr ?_⟩
        simp only [move, saved, Except.toOption, Option.map_some, Option.getD_some, same]
        exact congrArg Editor.rawRule ((editor_alterEditor (lt_of_uri opened) k).trans (if_pos rfl))
    · cases saving
  | _ => cases saving

/-- Until an editor opens the next rule, what it saves is one chain. -/
theorem chain_savings {rawRule : Option RawRule} (edits : (d.editor n).Edits rawRule)
    (unopened : Along p host (fun d m => ¬ d.Opens n m) d ms) :
    SavedRule.Chain ρ rawRule (d.savings p host n ms) := by
  induction ms generalizing d rawRule with
  | nil => exact .nil rawRule
  | cons m ms ih =>
    obtain ⟨first, others⟩ := unopened
    simp only [savings]
    cases saving : d.saving? n m with
    | none => exact ih ((retains_move p host first saving).edits edits) others
    | some s =>
      obtain ⟨replaces, edits⟩ := replaces_of_saving p host edits saving
      exact .cons replaces (ih edits others)

theorem edits_openBuffer (p : Bench) (n : Nat) (rawRule : Option RawRule) (d : Desk σ ρ ν ε) :
    ((d.openBuffer p n rawRule).editor n).Edits rawRule :=
  holds_alterEditor (P := (·.Edits rawRule)) (.inl rfl) (fun _ => .inr rfl) n _

/-- One rule has one key. All that an editor saves between opening a rule and opening the next one,
whatever happens on the desk meanwhile, has one key, which is that of the rule that was opened if it
was stored before. What is saved is new exactly if it is saved first and was not stored before. Its
name is the given one, and without one that of the rule saved last or, before any is saved, that of
the rule that was opened. -/
theorem one_rule_one_key (p : Bench) (host : ScriptHost σ ρ ν η ε) (d : Desk σ ρ ν ε) (n : Nat)
    (rawRule : Option RawRule) (ms : List (Move σ))
    (unopened : Along p host (fun d m => ¬ d.Opens n m) (d.openBuffer p n rawRule) ms) :
    let saved := (d.openBuffer p n rawRule).savings p host n ms
    (∃ key, (∀ raw ∈ rawRule, raw.key = key) ∧
      ∀ s ∈ saved, s.2.options.key = key ∧ s.2.raw.key = key) ∧
    ∀ before name s behind, saved = before ++ (name, s) :: behind →
      s.isNew = (before.isEmpty && rawRule.isNone) ∧ s.options.name = s.raw.name ∧
        if name.isTruthy then Validation.text name = .valid s.raw.name
        else some s.raw.name = (SavedRule.latest rawRule before).map RawRule.name := by
  intro saved
  have chain : SavedRule.Chain ρ rawRule saved :=
    chain_savings (edits_openBuffer p n rawRule d) unopened
  refine ⟨chain.key, fun before name s behind split => ?_⟩
  rw [split] at chain
  obtain ⟨_, _, carries⟩ := chain.replaces
  exact ⟨carries.isNew.trans SavedRule.isNone_latest, carries.sameName, carries.name_eq⟩

/-- A new rule is written and tested, saved under a name and saved again without one. -/
def savedTwice : List (Move Execution.Scene) :=
  [.command 0 (.edit groupingScript), .start 0, .turn 0, .turn 0, .turn 0, .turn 0, .turn 0,
    .save 0 (.str "n") "k1", .save 0 .none "k2"]

/-- The second time the rule is not new any more, and keeps its key and its name. -/
theorem savedTwice_saves_one_rule :
    let start := sampleDesk.openBuffer sampleBench 0 none
    Along sampleBench Execution.host (fun d m => ¬ d.Opens 0 m) start savedTwice ∧
    ∃ first second, start.savings sampleBench Execution.host 0 savedTwice = [first, second] ∧
      second.2.raw.key = first.2.raw.key ∧ first.2.isNew = true ∧ second.2.isNew = false ∧
      second.2.raw.name = first.2.raw.name := by
  intro start
  obtain ⟨unopened, names⟩ :
      Along sampleBench Execution.host (fun d m => ¬ d.Opens 0 m) start savedTwice ∧
        (start.savings sampleBench Execution.host 0 savedTwice).map (·.1.isTruthy) =
          [true, false] := by
    decide +kernel
  obtain ⟨⟨key, _, keys⟩, each⟩ :=
    one_rule_one_key sampleBench Execution.host sampleDesk 0 none savedTwice unopened
  obtain ⟨first, rest, saved, _, names⟩ := List.map_eq_cons_iff.mp names
  obtain ⟨second, rest, rfl, unnamed, nothing⟩ := List.map_eq_cons_iff.mp names
  obtain rfl := List.map_eq_nil_iff.mp nothing
  obtain ⟨isNew, _, _⟩ := each [] first.1 first.2 [second] saved
  obtain ⟨isOld, _, name⟩ := each [first] second.1 second.2 [] saved
  rw [saved] at keys
  refine ⟨unopened, first, second, saved, ?_, isNew, isOld, ?_⟩
  · exact (keys second (by simp)).2.trans (keys first (by simp)).2.symm
  · rw [unnamed] at name
    simpa [SavedRule.latest] using name

end Desk

end RuleBench
