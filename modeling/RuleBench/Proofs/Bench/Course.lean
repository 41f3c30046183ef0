import RuleBench.Proofs.Bench
import RuleBench.Proofs.Buffers
import RuleBench.Proofs.Desk.Move
import RuleBench.Proofs.Trial.Verdict

/-!
# The course of a run

A run ends in one of four ways, or in the middle: its text cannot be lowered, its code exports no
function, a record fails, all records are accepted; or an error passes through, from the code or from
a record. `Bench.Course` tells these ways by what the host does, and what the run then comes to: its
states, its report and the world it leaves. The main statement is that every run of a registered text
takes exactly one of them, and that its states alone tell which.
-/

namespace RuleBench

open Script (lower)

variable {σ ρ ν η ε : Type} (host : ScriptHost σ ρ ν η ε) (kind : RuleKind)

/-! ### Exports -/

/-- Code is loaded, and what it exports under the name that the kind asks for can be called. -/
inductive Exports (code : String) (s : σ) (function : ν) (t : σ) : Prop
  | intro {names : η} (loaded : host.load code s = .ok names t)
      (found : host.lookup? names kind.exportName t = some function)
      (callable : host.isCallable function t = true)

/-- Code exports no function: with a failure that names no record, or with an error that passes
through. -/
inductive ExportFails (code : String) (s : σ) : Except ε Failure → σ → Prop
  /-- An error was raised, and put into words. -/
  | raised {e : ε} {message : String} {s₁ t : σ} (raised : host.load code s = .error e s₁)
      (stays : host.passesThrough e s₁ = false) (worded : host.describe e s₁ = .ok message t) :
      ExportFails code s (.ok
        { kind := .evaluationError
          message := message
          description := some ("Top-level code of the script raised " ++ host.errorClass e t ++
            ". Check the statements outside of functions.") }) t
  | missing {names : η} {t : σ} (loaded : host.load code s = .ok names t)
      (missing : host.lookup? names kind.exportName t = none) :
      ExportFails code s (.ok
        { kind := .missingSymbol
          message := "Unexpected \"" ++ kind.exportName ++ "\" function"
          description := some kind.advice }) t
  | notCallable {names : η} {v : ν} {t : σ} (loaded : host.load code s = .ok names t)
      (found : host.lookup? names kind.exportName t = some v)
      (uncallable : host.isCallable v t = false) :
      ExportFails code s (.ok
        { kind := .notCallable
          message := "Unexpected \"" ++ kind.exportName ++ "\" function"
          description := some kind.advice }) t
  | escaped {e : ε} {t : σ} (raised : host.load code s = .error e t)
      (passes : host.passesThrough e t = true) : ExportFails code s (.error e) t
  /-- An error that passes through was raised when another one was put into words. -/
  | escapedWording {e inner : ε} {s₁ t : σ} (raised : host.load code s = .error e s₁)
      (stays : host.passesThrough e s₁ = false) (escapes : host.describe e s₁ = .error inner t) :
      ExportFails code s (.error inner) t

variable {host kind} {code : String} {s t : σ} {function : ν}

/-- Failures of exports name no record, and tell neither a type nor diagnostics. -/
theorem ExportFails.unnamed {f : Failure} (h : ExportFails host kind code s (.ok f) t) :
    f.recordId = none ∧ f.actualType = none ∧ f.diagnostics = [] ∧
      (f.kind = .evaluationError ∨ f.kind = .missingSymbol ∨ f.kind = .notCallable) := by
  cases h with
  | raised => exact ⟨rfl, rfl, rfl, .inl rfl⟩
  | missing => exact ⟨rfl, rfl, rfl, .inr (.inl rfl)⟩
  | notCallable => exact ⟨rfl, rfl, rfl, .inr (.inr rfl)⟩

theorem exportedFunction_cases (host : ScriptHost σ ρ ν η ε) (kind : RuleKind) (code : String)
    (s : σ) :
    match exportedFunction host kind code s with
    | .ok function t => Exports host kind code s function t
    | .error stop t => ExportFails host kind code s (stop.failure kind) t := by
  unfold exportedFunction loadCode
  cases loaded : host.load code s with
  | error e s₁ =>
    by_cases passes : host.passesThrough e s₁ = true
    · simp only [passes, if_true]
      exact .escaped loaded passes
    · have stays : host.passesThrough e s₁ = false := by simpa using passes
      cases worded : host.describe e s₁ with
      | error inner t =>
        simp only [stays, worded, Bool.false_eq_true, if_false]
        exact .escapedWording loaded stays worded
      | ok message t =>
        simp only [stays, worded, Bool.false_eq_true, if_false]
        exact .raised loaded stays worded
  | ok names t =>
    cases found : host.lookup? names kind.exportName t with
    | none =>
      simp only [found]
      exact .missing loaded found
    | some v =>
      cases callable : host.isCallable v t with
      | true =>
        simp only [found, callable, if_true]
        exact .intro loaded found callable
      | false =>
        simp only [found, callable, Bool.false_eq_true, if_false]
        exact .notCallable loaded found callable

theorem Exports.exportedFunction (h : Exports host kind code s function t) :
    exportedFunction host kind code s = .ok function t := by
  obtain ⟨loaded, found, callable⟩ := h
  simp [RuleBench.exportedFunction, loadCode, loaded, found, callable]

theorem ExportFails.exportedFunction {ending : Except ε Failure}
    (h : ExportFails host kind code s ending t) :
    ∃ stop, exportedFunction host kind code s = .error stop t ∧ stop.failure kind = ending := by
  unfold RuleBench.exportedFunction loadCode
  cases h with
  | @raised e message _ _ raised stays worded =>
    exact ⟨.raised (host.errorClass e t) message, by simp [raised, stays, worded], rfl⟩
  | missing loaded missing => exact ⟨.missingSymbol, by simp [loaded, missing], rfl⟩
  | notCallable loaded found uncallable =>
    exact ⟨.notCallable, by simp [loaded, found, uncallable], rfl⟩
  | @escaped e _ raised passes => exact ⟨.escaped e, by simp [raised, passes], rfl⟩
  | @escapedWording _ inner _ _ raised stays escapes =>
    exact ⟨.escaped inner, by simp [raised, stays, escapes], rfl⟩

/-! ### Runs -/

open Trial (Accepts StopsAtRecord)

namespace Bench

variable (p : Bench)

/-- What a run of a text comes to: the states it goes through, its report or the error that passes
through, and the generator and world that it leaves. -/
inductive Course (host : ScriptHost σ ρ ν η ε) (uri : String) (b : Buffer) (g : Generator) (s : σ) :
    List RunState → Except ε (Report ρ ν) → Generator → σ → Prop
  /-- The text cannot be lowered. -/
  | defective {e : Script.LoweringError} (refused : lower b.text = .error e) :
      Course host uri b g s [.compiling, .compileFailed]
        (.ok (.failure (.ofArtifact ⟨uri, b.revision, b.text, "", [.ofLoweringError e]⟩))) g s
  /-- The code exports no function. -/
  | unexported {code : String} {f : Failure} {t : σ} (lowered : lower b.text = .ok code)
      (fails : ExportFails host p.kind code s (.ok f) t) :
      Course host uri b g s [.compiling, .synthesizing, .synthesisFailed]
        (.ok (.failure { f with revision := b.revision })) g t
  /-- Some records are accepted, and then one is not. -/
  | failed {code : String} {function : ν} {os : List (Outcome ρ ν)} {r : ρ} {behind : List ρ}
      {f : Failure} {s₁ s₂ t : σ} (lowered : lower b.text = .ok code)
      (exported : Exports host p.kind code s function s₁)
      (records : host.records s₁ = os.map Outcome.record ++ r :: behind)
      (accepted : Accepts host p.kind function os s₁ s₂)
      (stops : StopsAtRecord host p.kind function r s₂ (.ok f) t) :
      Course host uri b g s [.compiling, .synthesizing, .executing, .executionFailed]
        (.ok (.failure { f with revision := b.revision })) g t
  /-- All records are accepted. -/
  | tested {code : String} {function : ν} {os : List (Outcome ρ ν)} {s₁ t : σ}
      (lowered : lower b.text = .ok code) (exported : Exports host p.kind code s function s₁)
      (records : host.records s₁ = os.map Outcome.record)
      (accepted : Accepts host p.kind function os s₁ t) :
      Course host uri b g s [.compiling, .synthesizing, .executing, .tested]
        (.ok (.success ⟨⟨uri, b.revision, b.text, code, []⟩, function, os,
          (drawSamples os p.settings.sampleSize g).1, b.revision⟩))
        (drawSamples os p.settings.sampleSize g).2 t
  /-- An error passes through while the code is loaded. -/
  | loadingEscaped {code : String} {e : ε} {t : σ} (lowered : lower b.text = .ok code)
      (fails : ExportFails host p.kind code s (.error e) t) :
      Course host uri b g s [.compiling, .synthesizing] (.error e) g t
  /-- An error passes through while a record is tested. -/
  | trialEscaped {code : String} {function : ν} {os : List (Outcome ρ ν)} {r : ρ}
      {behind : List ρ} {e : ε} {s₁ s₂ t : σ} (lowered : lower b.text = .ok code)
      (exported : Exports host p.kind code s function s₁)
      (records : host.records s₁ = os.map Outcome.record ++ r :: behind)
      (accepted : Accepts host p.kind function os s₁ s₂)
      (stops : StopsAtRecord host p.kind function r s₂ (.error e) t) :
      Course host uri b g s [.compiling, .synthesizing, .executing] (.error e) g t

variable {p} {buffers : Buffers} {uri : String} {b : Buffer} {g g' : Generator}
  {states : List RunState} {result : Except ε (Report ρ ν)}

/-- A run of a registered text goes on from the artifact of that text. -/
theorem run_of_get? (host : ScriptHost σ ρ ν η ε) (found : buffers.get? uri = some b) (g : Generator)
    (s : σ) :
    let out := p.run host buffers uri g s
    let c := p.conclude host (.ofText uri b.revision b.text) g s
    out.1.states = .compiling :: c.1.states ∧ out.1.result = c.1.result.mapError .escaped ∧
      out.2 = c.2 := by
  have started := Buffers.start_of_get? found
  simp [run, started, Buffers.Job.finish]

theorem ofText_of_lower_eq_error {e : Script.LoweringError} (h : lower b.text = .error e) :
    Artifact.ofText uri b.revision b.text =
      ⟨uri, b.revision, b.text, "", [.ofLoweringError e]⟩ := by
  simp [Artifact.ofText, h]

theorem ofText_of_lower_eq_ok (h : lower b.text = .ok code) :
    Artifact.ofText uri b.revision b.text = ⟨uri, b.revision, b.text, code, []⟩ := by
  simp [Artifact.ofText, h]

/-- Every run from the artifact of a text takes its course. -/
theorem course_conclude (p : Bench) (host : ScriptHost σ ρ ν η ε) (uri : String) (b : Buffer)
    (g : Generator) (s : σ) :
    let c := p.conclude host (.ofText uri b.revision b.text) g s
    p.Course host uri b g s (.compiling :: c.1.states) c.1.result c.2.1 c.2.2 := by
  cases lowered : lower b.text with
  | error e =>
    rw [ofText_of_lower_eq_error lowered]
    exact .defective lowered
  | ok code =>
    rw [ofText_of_lower_eq_ok lowered]
    have loaded := exportedFunction_cases host p.kind code s
    simp only [conclude, Artifact.ok, List.isEmpty_nil, Bool.not_true, Bool.false_eq_true, if_false]
    cases exported : exportedFunction host p.kind code s with
    | ok function s₁ =>
      rw [exported] at loaded
      have tried := Trial.testAll_cases host p.kind function (host.records s₁) s₁
      simp only [Conclusion.after, execute, Trial.run]
      cases ended : Trial.testAll host p.kind function (host.records s₁) s₁ with
      | ok os t =>
        rw [ended] at tried
        exact .tested lowered loaded tried.1.symm tried.2
      | error stop t =>
        rw [ended] at tried
        obtain ⟨os, r, behind, s₂, records, accepted, stops⟩ := tried
        dsimp only
        cases ending : stop.failure p.kind with
        | error e =>
          rw [ending] at stops
          exact .trialEscaped lowered loaded records accepted stops
        | ok f =>
          rw [ending] at stops
          exact .failed lowered loaded records accepted stops
    | error stop t =>
      rw [exported] at loaded
      dsimp only at loaded ⊢
      cases ending : stop.failure p.kind with
      | error e =>
        rw [ending] at loaded
        exact .loadingEscaped lowered loaded
      | ok f =>
        rw [ending] at loaded
        exact .unexported lowered loaded

/-- No run takes two courses. -/
theorem Course.conclude (h : p.Course host uri b g s states result g' t) :
    let c := p.conclude host (.ofText uri b.revision b.text) g s
    .compiling :: c.1.states = states ∧ c.1.result = result ∧ c.2 = (g', t) := by
  cases h with
  | defective refused =>
    rw [ofText_of_lower_eq_error refused]
    exact ⟨rfl, rfl, rfl⟩
  | unexported lowered fails =>
    obtain ⟨stop, exported, ending⟩ := fails.exportedFunction
    rw [ofText_of_lower_eq_ok lowered]
    simp [Bench.conclude, Artifact.ok, exported, ending]
  | @failed _ _ _ _ behind _ _ _ _ lowered exported records accepted stops =>
    obtain ⟨stop, stopped, ending⟩ := Trial.testAll_of_stops accepted stops behind
    rw [ofText_of_lower_eq_ok lowered]
    simp [Bench.conclude, Artifact.ok, exported.exportedFunction, Conclusion.after, execute,
      Trial.run, records, stopped, ending]
  | tested lowered exported records accepted =>
    have all := Trial.testAll_of_accepts accepted
    rw [ofText_of_lower_eq_ok lowered]
    simp [Bench.conclude, Artifact.ok, exported.exportedFunction, Conclusion.after, execute,
      Trial.run, records, all]
  | loadingEscaped lowered fails =>
    obtain ⟨stop, exported, ending⟩ := fails.exportedFunction
    rw [ofText_of_lower_eq_ok lowered]
    simp [Bench.conclude, Artifact.ok, exported, ending]
  | @trialEscaped _ _ _ _ behind _ _ _ _ lowered exported records accepted stops =>
    obtain ⟨stop, stopped, ending⟩ := Trial.testAll_of_stops accepted stops behind
    rw [ofText_of_lower_eq_ok lowered]
    simp [Bench.conclude, Artifact.ok, exported.exportedFunction, Conclusion.after, execute,
      Trial.run, records, stopped, ending]

/-- The courses of a text are what its runs come to. -/
theorem course_iff (found : buffers.get? uri = some b) :
    p.Course host uri b g s states result g' t ↔
      (p.run host buffers uri g s).1.states = states ∧
        (p.run host buffers uri g s).1.result = result.mapError .escaped ∧
        (p.run host buffers uri g s).2 = (g', t) := by
  obtain ⟨ranStates, ranResult, ranWorld⟩ := p.run_of_get? host found g s
  rw [ranStates, ranResult, ranWorld]
  constructor
  · intro course
    obtain ⟨states, result, world⟩ := course.conclude
    exact ⟨states, by rw [result], world⟩
  · rintro ⟨rfl, result', world⟩
    have course := p.course_conclude host uri b g s
    have same : ∀ x y : Except ε (Report ρ ν),
        x.mapError RunError.escaped = y.mapError RunError.escaped → x = y := by
      rintro (e | r) (e' | r') h
      · exact congrArg _ (RunError.escaped.inj (Except.error.inj h))
      · cases h
      · cases h
      · exact congrArg _ (Except.ok.inj h)
    simpa only [same _ _ result', world] using course

/-- A run of a registered text has a course. -/
theorem exists_course (found : buffers.get? uri = some b) (p : Bench)
    (host : ScriptHost σ ρ ν η ε) (g : Generator) (s : σ) :
    ∃ result : Except ε (Report ρ ν), (p.run host buffers uri g s).1.result =
      result.mapError .escaped ∧ p.Course host uri b g s (p.run host buffers uri g s).1.states
        result (p.run host buffers uri g s).2.1 (p.run host buffers uri g s).2.2 := by
  obtain ⟨ranStates, ranResult, ranWorld⟩ := p.run_of_get? host found g s
  rw [ranStates, ranResult, ranWorld]
  exact ⟨_, rfl, p.course_conclude host uri b g s⟩

/-! #### What the states tell -/

theorem Course.refused (h : p.Course host uri b g s [.compiling, .compileFailed] result g' t) :
    ∃ e, lower b.text = .error e := by
  cases h with
  | defective refused => exact ⟨_, refused⟩

theorem Course.exportFails
    (h : p.Course host uri b g s [.compiling, .synthesizing, .synthesisFailed] result g' t) :
    ∃ code f t, lower b.text = .ok code ∧ ExportFails host p.kind code s (.ok f) t := by
  cases h with
  | unexported lowered fails => exact ⟨_, _, _, lowered, fails⟩

theorem Course.recordFails
    (h : p.Course host uri b g s [.compiling, .synthesizing, .executing, .executionFailed] result
      g' t) :
    ∃ code function s₁ os r behind s₂ f t, lower b.text = .ok code ∧
      Exports host p.kind code s function s₁ ∧
      host.records s₁ = os.map Outcome.record ++ r :: behind ∧
      Accepts host p.kind function os s₁ s₂ ∧
      StopsAtRecord host p.kind function r s₂ (.ok f) t := by
  cases h with
  | failed lowered exported records accepted stops =>
    exact ⟨_, _, _, _, _, _, _, _, _, lowered, exported, records, accepted, stops⟩

theorem Course.recordsFit
    (h : p.Course host uri b g s [.compiling, .synthesizing, .executing, .tested] result g' t) :
    ∃ code function s₁ os t, lower b.text = .ok code ∧ Exports host p.kind code s function s₁ ∧
      host.records s₁ = os.map Outcome.record ∧ Accepts host p.kind function os s₁ t := by
  cases h with
  | tested lowered exported records accepted =>
    exact ⟨_, _, _, _, _, lowered, exported, records, accepted⟩

/-- A report belongs to the last state, and to the text. -/
theorem Course.state {r : Report ρ ν} (h : p.Course host uri b g s states (.ok r) g' t) :
    r.revision = b.revision ∧ states.getLast? = some r.state := by
  cases h with
  | defective => exact ⟨rfl, rfl⟩
  | unexported _ fails =>
    obtain ⟨record, _, _, kind⟩ := fails.unnamed
    rcases kind with kind | kind | kind <;> simp [Report.revision, Report.state, record, kind]
  | failed _ _ _ _ stops =>
    obtain ⟨⟨id, _, record⟩, _, about⟩ := stops.names
    rcases about with ⟨kind, _⟩ | ⟨kind, _⟩ <;>
      simp [Report.revision, Report.state, record, kind]
  | tested => exact ⟨rfl, rfl⟩

/-- Failures name a record exactly if it is a record that fails, and tell a type exactly if its
value has the wrong shape. -/
theorem Course.names {f : Failure}
    (h : p.Course host uri b g s states (.ok (.failure f)) g' t) :
    (f.recordId.isSome = true ↔ states.getLast? = some .executionFailed) ∧
      (f.actualType.isSome = true ↔ f.kind = .contractViolation) := by
  cases h with
  | defective => simp [Failure.ofArtifact]
  | unexported _ fails =>
    obtain ⟨record, actualType, _, kind⟩ := fails.unnamed
    rcases kind with kind | kind | kind <;> simp [record, actualType, kind]
  | failed _ _ _ _ stops =>
    obtain ⟨⟨id, _, record⟩, _, about⟩ := stops.names
    rcases about with ⟨kind, actualType⟩ | ⟨kind, actualType⟩ <;> simp [record, actualType, kind]

/-! #### What is not run -/

/-- The code is not run for a text that cannot be lowered, whatever it would do. -/
theorem run_of_lower_eq_error {e : Script.LoweringError} (found : buffers.get? uri = some b)
    (refused : lower b.text = .error e) (host host' : ScriptHost σ ρ ν η ε) :
    p.run host' buffers uri g s = p.run host buffers uri g s := by
  have started := Buffers.start_of_get? found
  simp [run, started, Buffers.Job.finish, ofText_of_lower_eq_error refused, Bench.conclude,
    Artifact.ok]

/-- The function is not called if the code exports none, whatever it would do. -/
theorem run_of_exportFails {f : Failure} (found : buffers.get? uri = some b)
    (lowered : lower b.text = .ok code) (fails : ExportFails host p.kind code s (.ok f) t)
    (call : ν → ρ → EStateM ε σ ν) :
    p.run { host with call := call } buffers uri g s = p.run host buffers uri g s := by
  have started := Buffers.start_of_get? found
  obtain ⟨stop, exported, ending⟩ := fails.exportedFunction
  have same : exportedFunction { host with call := call } p.kind code s =
    exportedFunction host p.kind code s := rfl
  simp [run, started, Buffers.Job.finish, ofText_of_lower_eq_ok lowered, Bench.conclude,
    Artifact.ok, same, exported, ending]

/-- A run of a registered text takes one course and no other, and its states tell which. It ends
with the compilation exactly if the text cannot be lowered, and then nothing of the code is run; with
the synthesis exactly if the code exports no function, and then no function is called; with the
execution exactly if a record fails behind others that are accepted; as tested exactly if all records
are accepted. Its report belongs to the state that it ends in and has the revision of the text. Only
an error that passes through leaves a run without a report, in the middle. -/
theorem run_classified (p : Bench) (host : ScriptHost σ ρ ν η ε) (g : Generator) (s : σ)
    (found : buffers.get? uri = some b) :
    let out := p.run host buffers uri g s
    (∃ result : Except ε (Report ρ ν), out.1.result = result.mapError .escaped ∧
      p.Course host uri b g s out.1.states result out.2.1 out.2.2) ∧
    (∀ states (result : Except ε (Report ρ ν)) g' t, p.Course host uri b g s states result g' t →
      out.1.states = states ∧ out.1.result = result.mapError .escaped ∧ out.2 = (g', t)) ∧
    (out.1.states = [.compiling, .compileFailed] ↔ ∃ e, lower b.text = .error e) ∧
    (out.1.states = [.compiling, .synthesizing, .synthesisFailed] ↔
      ∃ code f t, lower b.text = .ok code ∧ ExportFails host p.kind code s (.ok f) t) ∧
    (out.1.states = [.compiling, .synthesizing, .executing, .executionFailed] ↔
      ∃ code function s₁ os r behind s₂ f t, lower b.text = .ok code ∧
        Exports host p.kind code s function s₁ ∧
        host.records s₁ = os.map Outcome.record ++ r :: behind ∧
        Accepts host p.kind function os s₁ s₂ ∧
        StopsAtRecord host p.kind function r s₂ (.ok f) t) ∧
    (out.1.states = [.compiling, .synthesizing, .executing, .tested] ↔
      ∃ code function s₁ os t, lower b.text = .ok code ∧
        Exports host p.kind code s function s₁ ∧ host.records s₁ = os.map Outcome.record ∧
        Accepts host p.kind function os s₁ t) ∧
    (∀ report, out.1.result = .ok report →
      report.revision = b.revision ∧ out.1.states.getLast? = some report.state) ∧
    (∀ f, out.1.result = .ok (.failure f) →
      (f.recordId.isSome = true ↔ out.1.states.getLast? = some .executionFailed) ∧
        (f.actualType.isSome = true ↔ f.kind = .contractViolation)) ∧
    (out.1.states = [.compiling, .compileFailed] →
      ∀ host' : ScriptHost σ ρ ν η ε, p.run host' buffers uri g s = out) ∧
    (out.1.states = [.compiling, .synthesizing, .synthesisFailed] →
      ∀ call, p.run { host with call := call } buffers uri g s = out) := by
  intro out
  have only : ∀ {states result g' t}, p.Course host uri b g s states result g' t →
      out.1.states = states := fun course => ((course_iff found).mp course).1
  obtain ⟨result, ran, course⟩ := exists_course found p host g s
  have ending : ∀ {states}, out.1.states = states →
      p.Course host uri b g s states result out.2.1 out.2.2 := by
    rintro _ rfl
    exact course
  have compiled : out.1.states = [.compiling, .compileFailed] → ∃ e, lower b.text = .error e :=
    fun ended => (ending ended).refused
  have synthesized : out.1.states = [.compiling, .synthesizing, .synthesisFailed] →
      ∃ code f t, lower b.text = .ok code ∧ ExportFails host p.kind code s (.ok f) t :=
    fun ended => (ending ended).exportFails
  have reported : ∀ {report}, out.1.result = .ok report → result = .ok report := by
    intro report h
    rw [show out.1.result = _ from ran] at h
    cases result with
    | error e => cases h
    | ok r => cases h; rfl
  refine ⟨⟨result, ran, course⟩, fun _ _ _ _ other => (course_iff found).mp other,
    ⟨compiled, ?_⟩, ⟨synthesized, ?_⟩, ⟨?_, ?_⟩, ⟨?_, ?_⟩, ?_, ?_, ?_, ?_⟩
  · rintro ⟨e, refused⟩
    exact only (.defective refused)
  · rintro ⟨code, f, t, lowered, fails⟩
    exact only (.unexported lowered fails)
  · exact fun ended => (ending ended).recordFails
  · rintro ⟨code, function, s₁, os, r, behind, s₂, f, t, lowered, exported, records, accepted,
      stops⟩
    exact only (.failed lowered exported records accepted stops)
  · exact fun ended => (ending ended).recordsFit
  · rintro ⟨code, function, s₁, os, t, lowered, exported, records, accepted⟩
    exact only (.tested lowered exported records accepted)
  · intro report h
    obtain rfl := reported h
    exact course.state
  · intro f h
    obtain rfl := reported h
    exact course.names
  · intro ended host'
    obtain ⟨e, refused⟩ := compiled ended
    exact run_of_lower_eq_error found refused host host'
  · intro ended call
    obtain ⟨code, f, t, lowered, fails⟩ := synthesized ended
    exact run_of_exportFails found lowered fails call

/-- Code without the function that is asked for: whatever a call would do, the run of it comes to the
same end. -/
theorem run_classified_unexported :
    let buffers : Buffers := Buffers.insert {} "rule" "x = 1\n"
    let out := Desk.sampleBench.run Execution.host buffers "rule" (.ofSeed 0) Desk.sampleDesk.world
    buffers.get? "rule" = some ⟨"x = 1\n", 0⟩ ∧
      out.1.states = [.compiling, .synthesizing, .synthesisFailed] ∧
      ∀ call, Desk.sampleBench.run { Execution.host with call := call } buffers "rule" (.ofSeed 0)
        Desk.sampleDesk.world = out := by
  intro buffers out
  have found : buffers.get? "rule" = some ⟨"x = 1\n", 0⟩ := by decide +kernel
  have ended : out.1.states = [.compiling, .synthesizing, .synthesisFailed] := by decide +kernel
  obtain ⟨_, _, _, _, _, _, _, _, _, uncalled⟩ := run_classified Desk.sampleBench Execution.host
    (.ofSeed 0) Desk.sampleDesk.world found
  exact ⟨found, ended, uncalled ended⟩

/-- A run that is cancelled by its script stays in the middle, without a report. -/
theorem run_cancelled :
    ¬ ∀ (p : Bench) (buffers : Buffers) (uri : String) (b : Buffer) (g : Generator)
      (s : Execution.Scene), buffers.get? uri = some b →
      let out := p.run Execution.host buffers uri g s
      out.1.states ∈ [[.compiling, .compileFailed],
        [.compiling, .synthesizing, .synthesisFailed],
        [.compiling, .synthesizing, .executing, .executionFailed],
        [.compiling, .synthesizing, .executing, .tested]] ∧ out.1.result.isOk = true := by
  intro always
  have classified := always Desk.sampleBench
    (Buffers.insert {} "rule" "from asyncio import CancelledError\nraise CancelledError\n") "rule" _
    (.ofSeed 0) Desk.sampleDesk.world rfl
  have cancelled : (Desk.sampleBench.run Execution.host
      (Buffers.insert {} "rule" "from asyncio import CancelledError\nraise CancelledError\n") "rule"
      (.ofSeed 0) Desk.sampleDesk.world).1.states = [.compiling, .synthesizing] := by
    decide +kernel
  simp [cancelled] at classified

end Bench

end RuleBench
