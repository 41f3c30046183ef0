import Mathlib.Data.List.Induction
import RuleBench.Proofs.Buffers

/-!
# Histories of buffers

Buffers are registered, edited and erased in any order, and compilations that were asked for on the
way may end at any later time. The main statement tells how far a revision identifies a text: the
artifact of a compilation matches the buffer whenever it has the revision of the buffer, as long as
its identifier has not been registered anew since the compilation was asked for. Once it has, as many
edits as the artifact has seen make any text pass for the one it was made from.
-/

namespace RuleBench.Buffers

/-- What happens to buffers. Compilations have numbers, in the order in which they are asked for. -/
inductive Step where
  | register (uri text : String)
  | update (uri text : String)
  | unregister (uri : String)
  /-- A compilation is asked for; it reads the buffer at once. -/
  | compile (uri : String)
  /-- A compilation ends. -/
  | finish (number : Nat)
deriving Repr, DecidableEq

/-- A compilation that was asked for, and its artifact once it has ended. -/
structure Compilation where
  job : Job
  /-- How many steps came before it. -/
  asked : Nat
  artifact? : Option Artifact := none

/-- The buffers, with all compilations that were ever asked for. -/
structure Registry where
  buffers : Buffers := {}
  compilations : List Compilation := []
  steps : Nat := 0

namespace Compilation

def finish (c : Compilation) : Compilation := { c with artifact? := some c.job.finish }

end Compilation

namespace Registry

/-- What a step does. One that is refused changes nothing. -/
def perform (r : Registry) : Step → Registry
  | .register uri text => { r with buffers := r.buffers.insert uri text }
  | .update uri text => match r.buffers.edit uri text with
    | .ok buffers => { r with buffers }
    | .error _ => r
  | .unregister uri => { r with buffers := r.buffers.erase uri }
  | .compile uri => match r.buffers.start uri with
    | .ok job => { r with compilations := r.compilations ++ [{ job, asked := r.steps }] }
    | .error _ => r
  | .finish n => { r with compilations := r.compilations.modify n Compilation.finish }

def step (r : Registry) (s : Step) : Registry := { r.perform s with steps := r.steps + 1 }

/-- Takes steps one after the other. -/
def after (r : Registry) (ss : List Step) : Registry := ss.foldl step r

@[simp] theorem after_nil (r : Registry) : r.after [] = r := rfl

@[simp] theorem after_cons (r : Registry) (s : Step) (ss : List Step) :
    r.after (s :: ss) = (r.step s).after ss := rfl

@[simp] theorem after_append (r : Registry) (ss ss' : List Step) :
    r.after (ss ++ ss') = (r.after ss).after ss' := List.foldl_append

/-- The history that led to a registry from the start. -/
def ofSteps (ss : List Step) : Registry := ({} : Registry).after ss

theorem ofSteps_concat (ss : List Step) (s : Step) : ofSteps (ss ++ [s]) = (ofSteps ss).step s := by
  simp [ofSteps]

theorem steps_ofSteps (ss : List Step) : (ofSteps ss).steps = ss.length := by
  induction ss using List.reverseRecOn with
  | nil => rfl
  | append_singleton ss s ih => simp [ofSteps_concat, step, ih]

/-! ### What compilations remember -/

/-- The buffer of a compilation is as it was or has been edited since, if there is one. -/
def Remembers (bs : Buffers) (c : Compilation) : Prop :=
  ∀ now, bs.get? c.job.uri = some now → bs.Knows c.job.uri c.job.buffer

theorem get?_of_start {bs : Buffers} {uri : String} {job : Job} (h : bs.start uri = .ok job) :
    job.uri = uri ∧ bs.get? uri = some job.buffer := by
  cases found : bs.get? uri with
  | none => simp [start, get, found, Except.map] at h
  | some b =>
    simp only [start, get, found, Except.map, Except.ok.injEq] at h
    subst h
    exact ⟨rfl, rfl⟩

/-- Only registering its identifier anew makes a compilation forget its buffer. -/
theorem Remembers.perform {r : Registry} {c : Compilation} (h : Remembers r.buffers c) {s : Step}
    (kept : ∀ text, s ≠ .register c.job.uri text) : Remembers (r.perform s).buffers c := by
  cases s with
  | register uri text =>
    have other : c.job.uri ≠ uri := by
      rintro rfl
      exact kept text rfl
    intro now found
    have same : (r.buffers.insert uri text).get? c.job.uri = r.buffers.get? c.job.uri := by
      simp [other]
    exact (h now (same ▸ found)).congr same
  | update uri text =>
    cases edited : r.buffers.edit uri text with
    | error e => simpa only [Registry.perform, edited] using h
    | ok bs =>
      simp only [Registry.perform, edited]
      intro now found
      obtain ⟨old, hold, gets⟩ := get?_of_edit edited
      by_cases same : c.job.uri = uri
      · subst same
        exact (h old hold).edit edited
      · have same : bs.get? c.job.uri = r.buffers.get? c.job.uri := by simp [gets, same]
        exact (h now (same ▸ found)).congr same
  | unregister uri =>
    intro now found
    have found : (r.buffers.erase uri).get? c.job.uri = some now := found
    by_cases same : c.job.uri = uri
    · simp [same] at found
    · have same : (r.buffers.erase uri).get? c.job.uri = r.buffers.get? c.job.uri := by simp [same]
      exact (h now (same ▸ found)).congr same
  | compile uri =>
    simp only [Registry.perform]
    split <;> exact h
  | finish n => exact h

/-- A compilation that is there after a step was there before it, maybe under way, or is asked for
by it. -/
theorem mem_perform {r : Registry} {s : Step} {c : Compilation}
    (h : c ∈ (r.perform s).compilations) :
    (∃ c₀ ∈ r.compilations, c = c₀ ∨ c = c₀.finish) ∨
      ∃ uri, s = .compile uri ∧ r.buffers.start uri = .ok c.job ∧ c.asked = r.steps ∧
        c.artifact? = none := by
  cases s with
  | register uri text => exact .inl ⟨c, h, .inl rfl⟩
  | update uri text =>
    simp only [perform] at h
    split at h <;> exact .inl ⟨c, h, .inl rfl⟩
  | unregister uri => exact .inl ⟨c, h, .inl rfl⟩
  | compile uri =>
    simp only [perform] at h
    split at h
    · next job started =>
      rcases List.mem_append.mp h with old | new
      · exact .inl ⟨c, old, .inl rfl⟩
      · obtain rfl := List.mem_singleton.mp new
        exact .inr ⟨uri, rfl, started, rfl, rfl⟩
    · exact .inl ⟨c, h, .inl rfl⟩
  | finish n =>
    obtain ⟨i, lt, rfl⟩ := List.mem_iff_getElem.mp h
    have inside : i < r.compilations.length := by simpa [perform] using lt
    refine .inl ⟨r.compilations[i], List.getElem_mem inside, ?_⟩
    by_cases own : n = i
    · exact .inr (by simp [perform, own])
    · exact .inl (by simp [perform, own])

/-- What holds of a compilation at every time: it was asked for before, its artifact is made from the
buffer it has read, and it remembers that buffer unless its identifier was registered anew. -/
structure Sound (ss : List Step) (c : Compilation) : Prop where
  asked : c.asked ≤ ss.length
  artifact : ∀ a, c.artifact? = some a → a = c.job.finish
  remembers : (∀ text, Step.register c.job.uri text ∉ ss.drop c.asked) →
    Remembers (ofSteps ss).buffers c

theorem Sound.finish {ss : List Step} {c : Compilation} (h : Sound ss c) : Sound ss c.finish where
  asked := h.asked
  artifact _ ended := (Option.some.inj ended).symm
  remembers := h.remembers

theorem Sound.concat {ss : List Step} {c : Compilation} (h : Sound ss c) (s : Step) :
    Sound (ss ++ [s]) c where
  asked := by simpa using Nat.le_succ_of_le h.asked
  artifact := h.artifact
  remembers fresh := by
    rw [List.drop_append_of_le_length h.asked] at fresh
    have earlier := h.remembers fun text seen => fresh text (List.mem_append_left _ seen)
    rw [ofSteps_concat]
    refine earlier.perform fun text same => fresh text ?_
    simp [same]

theorem sound_ofSteps {ss : List Step} {c : Compilation} (h : c ∈ (ofSteps ss).compilations) :
    Sound ss c := by
  induction ss using List.reverseRecOn generalizing c with
  | nil => cases h
  | append_singleton ss s ih =>
    rw [ofSteps_concat] at h
    rcases mem_perform h with ⟨c₀, old, rfl | rfl⟩ | ⟨uri, rfl, started, asked, running⟩
    · exact (ih old).concat s
    · exact (ih old).concat s |>.finish
    · obtain ⟨rfl, found⟩ := get?_of_start started
      refine ⟨by simp [asked, steps_ofSteps], by simp [running], fun _ => ?_⟩
      rw [ofSteps_concat]
      intro now _
      have same : ((ofSteps ss).step (.compile c.job.uri)).buffers = (ofSteps ss).buffers := by
        simp [step, perform, started]
      rw [same]
      exact .of_get? found

/-! ### Registering anew -/

theorem get?_update {r : Registry} {uri : String} {b : Buffer} (h : r.buffers.get? uri = some b)
    (text : String) :
    (r.step (.update uri text)).buffers.get? uri = some ⟨text, b.revision + 1⟩ := by
  cases edited : r.buffers.edit uri text with
  | error e => simp [edit, get, h, bind, Except.bind, pure, Except.pure] at edited
  | ok bs =>
    obtain ⟨old, found, gets⟩ := get?_of_edit edited
    obtain rfl : b = old := Option.some.inj (h.symm.trans found)
    simp [step, perform, edited, gets]

/-- Edits take a registered text from revision zero to any other. -/
theorem get?_register_update (r : Registry) (uri text : String) (n : Nat) :
    (r.after (.register uri text :: List.replicate n (.update uri text))).buffers.get? uri =
      some ⟨text, n⟩ := by
  induction n with
  | zero => simp [step, perform]
  | succ n ih =>
    rw [List.replicate_succ', ← List.cons_append, after_append, after_cons, after_nil]
    exact get?_update ih text

/-- In every history: as long as the identifier of an artifact has not been registered anew since its
compilation was asked for, the artifact has the text of the buffer if it has the revision of the
buffer, whenever the compilation ended. After registering the identifier anew this is lost for every
text: edits, as many as the artifact has seen, lead to a buffer of the same revision. -/
theorem revision_tells_text (ss : List Step) (c : Compilation) (a : Artifact)
    (h : c ∈ (ofSteps ss).compilations) (ended : c.artifact? = some a) :
    ((∀ text, Step.register a.uri text ∉ ss.drop c.asked) →
      ∀ now, (ofSteps ss).buffers.get? a.uri = some now → a.revision = now.revision →
        a.source = now.text) ∧
    ∀ text, (ofSteps (ss ++ .register a.uri text ::
        List.replicate a.revision (.update a.uri text))).buffers.get? a.uri =
      some ⟨text, a.revision⟩ := by
  have sound := sound_ofSteps h
  obtain rfl := sound.artifact a ended
  constructor
  · intro fresh now found same
    simp only [Job.finish, Artifact.uri_ofText, Artifact.revision_ofText, Artifact.source_ofText] at fresh found same ⊢
    have known := sound.remembers fresh now found
    rw [known.eq_of_revision found same]
  · intro text
    rw [ofSteps, after_append]
    exact get?_register_update _ _ text _

/-- A text that was edited before it was compiled and not since. -/
theorem edited_text_told :
    let ss : List Step := [.register "rule" "x = 1\n", .update "rule" "x = 2\n", .compile "rule",
      .finish 0]
    let a := Job.finish ⟨"rule", "x = 2\n", 1⟩
    (∃ c ∈ (ofSteps ss).compilations, c.artifact? = some a) ∧ a.source = "x = 2\n" ∧
      (ofSteps (ss ++ [.register "rule" "y = 1\n", .update "rule" "y = 1\n"])).buffers.get? "rule" =
        some ⟨"y = 1\n", 1⟩ := by
  intro ss a
  let c : Compilation := Compilation.finish ⟨⟨"rule", "x = 2\n", 1⟩, 2, none⟩
  have asked : c ∈ (ofSteps ss).compilations := List.mem_singleton.mpr rfl
  obtain ⟨tells, restarts⟩ := revision_tells_text ss c a asked rfl
  refine ⟨⟨c, asked, rfl⟩, tells ?_ ⟨"x = 2\n", 1⟩ ?_ ?_, ?_⟩
  · intro text seen
    simp [ss, a, c, Compilation.finish] at seen
  · simp only [a, Job.finish, Artifact.uri_ofText]
    rfl
  · simp [a, Job.finish]
  · simpa [a, Job.finish] using restarts "y = 1\n"

/-- Registering an identifier anew restarts its revisions: an artifact of the old text has the
revision of the new one. -/
theorem stale_after_registering :
    ¬ ∀ (ss : List Step) (c : Compilation) (a : Artifact) (now : Buffer),
      c ∈ (ofSteps ss).compilations → c.artifact? = some a →
      (ofSteps ss).buffers.get? a.uri = some now → a.revision = now.revision →
        a.source = now.text := by
  intro always
  let job : Job := ⟨"rule", "x = 1\n", 0⟩
  have stale := always
    [.register "rule" "x = 1\n", .compile "rule", .register "rule" "x = 2\n", .finish 0]
    { job, asked := 1, artifact? := some job.finish } job.finish ⟨"x = 2\n", 0⟩
    (List.mem_singleton.mpr rfl) rfl
    (by
      simp only [Job.finish, Artifact.uri_ofText]
      rfl)
    (by simp [job, Job.finish])
  simp [job, Job.finish] at stale

end Registry

end RuleBench.Buffers
