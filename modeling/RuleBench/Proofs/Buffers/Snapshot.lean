import RuleBench.Proofs.Buffers.History

/-!
# Snapshots that compilations take

Any number of compilations may be under way while buffers are registered, edited and erased. What a
buffer holds is said of the history alone (`Holds`): the text that came last and how many edits there
were since it was registered. The main statement says that every compilation ends with the artifact
of what its buffer held when it was asked for, that it is refused if there was no such buffer, and
that compilations leave no trace in the buffers.
-/

namespace RuleBench

/-- An artifact of a buffer: its text and revision as one, and what lowering makes of the text. -/
structure Artifact.Shows (a : Artifact) (uri : String) (b : Buffer) : Prop where
  uri : a.uri = uri
  revision : a.revision = b.revision
  source : a.source = b.text
  code : ∀ code, Script.lower b.text = .ok code → a.code = code ∧ a.diagnostics = []
  diagnostics : ∀ e, Script.lower b.text = .error e →
    a.code = "" ∧ a.diagnostics = [.ofLoweringError e]

namespace Buffers

theorem Job.shows_finish (j : Job) : j.finish.Shows j.uri j.buffer where
  uri := Artifact.uri_ofText ..
  revision := Artifact.revision_ofText ..
  source := Artifact.source_ofText ..
  code code lowered := by simp [finish, Artifact.ofText, lowered]
  diagnostics e refused := by simp [finish, Artifact.ofText, refused]

namespace Step

/-- The text that a step puts into a registered buffer. -/
def edit? (uri : String) : Step → Option String
  | update u text => if u = uri then some text else none
  | _ => none

/-- A buffer begins or ends with the step. -/
def Renews (uri : String) (s : Step) : Prop := (∃ text, s = .register uri text) ∨ s = .unregister uri

/-- The step is meant for buffers. All others have to do with compilations. -/
def isForBuffers : Step → Bool
  | register .. | update .. | unregister _ => true
  | compile _ | finish _ => false

end Step

namespace Registry

/-- What a buffer holds after a history: it was registered at some time, neither erased nor
registered anew since, and all edits since then count. -/
def Holds (uri : String) (ss : List Step) (b : Buffer) : Prop :=
  ∃ before text since, ss = before ++ .register uri text :: since ∧
    (∀ s ∈ since, ¬ s.Renews uri) ∧
    b = ⟨((since.filterMap (Step.edit? uri)).getLast?).getD text,
      (since.filterMap (Step.edit? uri)).length⟩

variable {uri : String} {ss : List Step} {s : Step} {b : Buffer}

theorem not_holds_nil : ¬ Holds uri [] b := by
  rintro ⟨before, text, since, split, _⟩
  simp at split

/-- A text that was just registered has not been edited. -/
theorem holds_register {text : String} :
    Holds uri (ss ++ [.register uri text]) b ↔ b = ⟨text, 0⟩ := by
  constructor
  · rintro ⟨before, text', since, split, kept, rfl⟩
    rcases since.eq_nil_or_concat with rfl | ⟨since, s, rfl⟩
    · obtain ⟨_, same⟩ := List.append_inj' split rfl
      cases same
      rfl
    · rw [List.concat_eq_append, ← List.cons_append, ← List.append_assoc] at split
      obtain ⟨_, same⟩ := List.append_inj' split rfl
      obtain rfl := List.singleton_inj.mp same
      exact absurd (.inl ⟨text, rfl⟩) (kept _ (by simp))
  · rintro rfl
    exact ⟨ss, text, [], rfl, by simp, rfl⟩

/-- Any other step may be an edit, and must not renew the buffer. -/
theorem holds_concat (other : ∀ text, s ≠ .register uri text) :
    Holds uri (ss ++ [s]) b ↔ s ≠ .unregister uri ∧ ∃ old, Holds uri ss old ∧
      b = match s.edit? uri with
        | some text => ⟨text, old.revision + 1⟩
        | none => old := by
  constructor
  · rintro ⟨before, text, since, split, kept, rfl⟩
    rcases since.eq_nil_or_concat with rfl | ⟨since, s', rfl⟩
    · obtain ⟨_, same⟩ := List.append_inj' split rfl
      exact absurd (List.singleton_inj.mp same) (other text)
    · simp only [List.concat_eq_append] at split kept ⊢
      rw [← List.cons_append, ← List.append_assoc] at split
      obtain ⟨rfl, same⟩ := List.append_inj' split rfl
      obtain rfl := List.singleton_inj.mp same
      refine ⟨fun renewed => kept _ (by simp) (.inr renewed), _,
        ⟨before, text, since, rfl, fun s hs => kept s (by simp [hs]), rfl⟩, ?_⟩
      cases edited : s.edit? uri <;> simp [edited]
  · rintro ⟨still, _, ⟨before, text, since, rfl, kept, rfl⟩, rfl⟩
    refine ⟨before, text, since ++ [s], by simp, ?_, ?_⟩
    · intro s' hs'
      rcases List.mem_append.mp hs' with old | new
      · exact kept s' old
      · obtain rfl := List.mem_singleton.mp new
        rintro (⟨text', registered⟩ | erased)
        · exact other text' registered
        · exact still erased
    · cases edited : s.edit? uri <;> simp [edited]

/-- The buffers after a history are those that it says. -/
theorem get?_ofSteps (ss : List Step) (uri : String) (b : Buffer) :
    (ofSteps ss).buffers.get? uri = some b ↔ Holds uri ss b := by
  induction ss using List.reverseRecOn generalizing b with
  | nil => exact iff_of_false (by simp [ofSteps, get?]) not_holds_nil
  | append_singleton ss s ih =>
    rw [ofSteps_concat]
    change ((ofSteps ss).perform s).buffers.get? uri = some b ↔ _
    cases s with
    | register u text =>
      by_cases own : u = uri
      · subst own
        simp [perform, holds_register, eq_comm]
      · rw [holds_concat (by simp [own])]
        simp [perform, Step.edit?, Ne.symm own, ih]
    | update u text =>
      rw [holds_concat (by simp)]
      cases edited : (ofSteps ss).buffers.edit u text with
      | ok bs =>
        obtain ⟨old, found, gets⟩ := get?_of_edit edited
        by_cases own : u = uri
        · subst own
          have held := (ih old).mp found
          have only : ∀ old', Holds u ss old' → old' = old := fun old' held' =>
            Option.some.inj (((ih old').mpr held').symm.trans found)
          simp only [perform, edited, gets, if_true, Step.edit?, Option.some.injEq, ne_eq,
            reduceCtorEq, not_false_eq_true, true_and]
          constructor
          · rintro rfl
            exact ⟨old, held, rfl⟩
          · rintro ⟨old', held', rfl⟩
            rw [only old' held']
        · simp [perform, edited, gets, Step.edit?, own, Ne.symm own, ih]
      | error e =>
        simp only [perform, edited]
        by_cases own : u = uri
        · subst own
          have none : (ofSteps ss).buffers.get? u = none := by
            cases found : (ofSteps ss).buffers.get? u with
            | none => rfl
            | some old => simp [edit, get, found, bind, Except.bind, pure, Except.pure] at edited
          refine iff_of_false (by simp [none]) ?_
          rintro ⟨_, old, held, _⟩
          exact absurd ((ih old).mpr held) (by simp [none])
        · simp [Step.edit?, own, ih]
    | unregister u =>
      rw [holds_concat (by simp)]
      by_cases own : u = uri
      · subst own
        simp [perform]
      · simp [perform, Step.edit?, own, Ne.symm own, ih]
    | compile u =>
      have same : ((ofSteps ss).perform (.compile u)).buffers = (ofSteps ss).buffers := by
        simp only [perform]
        split <;> rfl
      rw [holds_concat (by simp), same]
      simp [Step.edit?, ih]
    | finish n =>
      rw [holds_concat (by simp)]
      simp [perform, Step.edit?, ih]

/-- A compilation is refused exactly if there is no buffer. -/
theorem start_ofSteps (ss : List Step) (uri : String) :
    (ofSteps ss).buffers.start uri = .error ⟨uri⟩ ↔ ¬ ∃ b, Holds uri ss b := by
  simp only [← get?_ofSteps]
  cases found : (ofSteps ss).buffers.get? uri <;> simp [start, get, found, Except.map]

/-! ### Compilations by their numbers -/

/-- A compilation that was asked for stays under its number; it ends when its step comes. -/
theorem compilations_after {r : Registry} {n : Nat} {job : Job} {asked : Nat} {ended : Bool}
    (found : r.compilations[n]? =
      some ⟨job, asked, if ended then some job.finish else none⟩) (ss : List Step) :
    (r.after ss).compilations[n]? =
      some ⟨job, asked, if ended || ss.contains (.finish n) then some job.finish else none⟩ := by
  induction ss generalizing r ended with
  | nil => simpa using found
  | cons s ss ih =>
    have stays {r' : Registry} (same : r'.compilations[n]? = r.compilations[n]?)
        (other : s ≠ .finish n) : (r'.after ss).compilations[n]? =
          some ⟨job, asked,
            if ended || (s :: ss).contains (.finish n) then some job.finish else none⟩ := by
      rw [ih (same.trans found)]
      simp [Ne.symm other]
    rw [after_cons]
    cases s with
    | register uri text => exact stays rfl (by simp)
    | update uri text =>
      refine stays ?_ (by simp)
      simp only [step, perform]
      split <;> rfl
    | unregister uri => exact stays rfl (by simp)
    | compile uri =>
      refine stays ?_ (by simp)
      simp only [step, perform]
      split
      · exact List.getElem?_append_left (List.getElem?_eq_some_iff.mp found).1
      · rfl
    | finish m =>
      by_cases own : m = n
      · subst own
        have ends : (r.step (.finish m)).compilations[m]? =
            some ⟨job, asked, if true then some job.finish else none⟩ := by
          simp [step, perform, found, Compilation.finish]
        rw [ih ends]
        simp
      · refine stays ?_ (by simpa using own)
        simp [step, perform, own]

/-- A compilation that is asked for gets the next number. -/
theorem compilations_compile (held : Holds uri ss b) (behind : List Step) :
    (ofSteps (ss ++ .compile uri :: behind)).compilations[(ofSteps ss).compilations.length]? =
      some ⟨⟨uri, b⟩, ss.length, if behind.contains (.finish (ofSteps ss).compilations.length)
        then some (Job.finish ⟨uri, b⟩) else none⟩ := by
  have started := start_of_get? ((get?_ofSteps ss uri b).mpr held)
  have asked : ((ofSteps ss).step (.compile uri)).compilations[
      (ofSteps ss).compilations.length]? =
        some ⟨⟨uri, b⟩, ss.length, if false then some (Job.finish ⟨uri, b⟩) else none⟩ := by
    simp [step, perform, started, steps_ofSteps]
  rw [ofSteps, after_append, after_cons]
  exact compilations_after asked behind

/-- Every compilation was asked for at some time. -/
theorem exists_compile {n : Nat} (inside : n < (ofSteps ss).compilations.length) :
    ∃ before uri behind b, ss = before ++ .compile uri :: behind ∧
      (ofSteps before).compilations.length = n ∧ Holds uri before b := by
  induction ss using List.reverseRecOn with
  | nil => simp [ofSteps] at inside
  | append_singleton ss s ih =>
    by_cases old : n < (ofSteps ss).compilations.length
    · obtain ⟨before, uri, behind, b, rfl, number, held⟩ := ih old
      exact ⟨before, uri, behind ++ [s], b, by simp, number, held⟩
    · rw [ofSteps_concat] at inside
      change n < ((ofSteps ss).perform s).compilations.length at inside
      cases s with
      | compile uri =>
        simp only [perform] at inside
        split at inside
        · next job started =>
          obtain ⟨same, found⟩ := get?_of_start started
          have last : (ofSteps ss).compilations.length = n := by
            simp only [List.length_append, List.length_singleton] at inside
            omega
          exact ⟨ss, uri, [], job.buffer, rfl, last, (get?_ofSteps ss uri _).mp found⟩
        · exact absurd inside old
      | update uri text =>
        simp only [perform] at inside
        split at inside <;> exact absurd inside old
      | finish m =>
        simp only [perform, List.length_modify] at inside
        exact absurd inside old
      | register uri text => exact absurd inside old
      | unregister uri => exact absurd inside old

/-! ### What compilations leave alone -/

theorem buffers_perform_congr {r r' : Registry} (same : r.buffers = r'.buffers) (s : Step) :
    (r.perform s).buffers = (r'.perform s).buffers := by
  cases s with
  | register uri text => simp [perform, same]
  | update uri text =>
    simp only [perform, same]
    cases r'.buffers.edit uri text <;> simp [same]
  | unregister uri => simp [perform, same]
  | compile uri =>
    simp only [perform, same]
    cases r'.buffers.start uri <;> simp [same]
  | finish n => simp [perform, same]

theorem buffers_perform_compilation (r : Registry) (compiles : s.isForBuffers = false) :
    (r.perform s).buffers = r.buffers := by
  cases s with
  | compile uri =>
    simp only [perform]
    split <;> rfl
  | finish n => rfl
  | register uri text => cases compiles
  | update uri text => cases compiles
  | unregister uri => cases compiles

/-- Without the compilations the buffers are the same. -/
theorem buffers_ofSteps_filter (ss : List Step) :
    (ofSteps (ss.filter Step.isForBuffers)).buffers = (ofSteps ss).buffers := by
  induction ss using List.reverseRecOn with
  | nil => rfl
  | append_singleton ss s ih =>
    rw [ofSteps_concat, List.filter_append]
    change _ = ((ofSteps ss).perform s).buffers
    cases meant : s.isForBuffers with
    | true =>
      rw [List.filter_cons_of_pos meant, List.filter_nil, ofSteps_concat]
      exact buffers_perform_congr ih s
    | false =>
      rw [List.filter_cons_of_neg (by simp [meant]), List.filter_nil, List.append_nil, ih,
        buffers_perform_compilation _ meant]

/-- In every history, with any number of compilations under way: every artifact is that of a
compilation that was asked for at some time, and shows the text and the revision that its buffer held
at that time, whatever has happened to the buffer since. A compilation that is asked for is refused
exactly if its identifier is not registered at that time; else it gets the next number, and ends when
its step comes and not before. Without all compilations the buffers would be the same. -/
theorem artifact_is_snapshot (ss : List Step) :
    (∀ n c a, (ofSteps ss).compilations[n]? = some c → c.artifact? = some a →
      ∃ before uri behind b, ss = before ++ .compile uri :: behind ∧
        (ofSteps before).compilations.length = n ∧ Holds uri before b ∧ a.Shows uri b) ∧
    (∀ before uri behind, ss = before ++ .compile uri :: behind →
      ((ofSteps before).buffers.start uri = .error ⟨uri⟩ ↔ ¬ ∃ b, Holds uri before b) ∧
      ((¬ ∃ b, Holds uri before b) →
        (ofSteps (before ++ [.compile uri])).compilations = (ofSteps before).compilations) ∧
      ∀ b, Holds uri before b →
        let n := (ofSteps before).compilations.length
        ∃ c, (ofSteps ss).compilations[n]? = some c ∧
          (c.artifact?.isSome = true ↔ .finish n ∈ behind) ∧
          ∀ a, c.artifact? = some a → a.Shows uri b) ∧
    (ofSteps (ss.filter Step.isForBuffers)).buffers = (ofSteps ss).buffers := by
  refine ⟨?_, ?_, buffers_ofSteps_filter ss⟩
  · intro n c a found ended
    obtain ⟨before, uri, behind, b, rfl, rfl, held⟩ :=
      exists_compile (List.getElem?_eq_some_iff.mp found).1
    rw [compilations_compile held behind, Option.some.injEq] at found
    subst found
    refine ⟨before, uri, behind, b, rfl, rfl, held, ?_⟩
    obtain ⟨_, same⟩ := Option.ite_none_right_eq_some.mp ended
    obtain rfl := Option.some.inj same
    exact Job.shows_finish ⟨uri, b⟩
  · rintro before uri behind rfl
    refine ⟨start_ofSteps before uri, fun unregistered => ?_, fun b held => ?_⟩
    · have refused := (start_ofSteps before uri).mpr unregistered
      rw [ofSteps_concat]
      simp [step, perform, refused]
    · refine ⟨_, compilations_compile held behind, by simp, ?_⟩
      intro a ended
      obtain ⟨_, same⟩ := Option.ite_none_right_eq_some.mp ended
      obtain rfl := Option.some.inj same
      exact Job.shows_finish ⟨uri, b⟩

end Registry

end Buffers

end RuleBench
