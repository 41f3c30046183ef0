import RuleBench.Bench

/-!
# What a test run ends with

A run from an artifact either comes to a report, in the state that belongs to that report, or an
error passes through and leaves it in the middle. Which of the two happens is said of the errors
that the script raises, in the order in which it raises them (`Bench.raised`): a run has no report
exactly if one of them is an interrupt or a cancellation.
-/

namespace RuleBench

/-- A run is under way in this state and has not come to its end. -/
def RunState.isUnderWay : RunState → Bool
  | compiling => true
  | synthesizing => true
  | executing => true
  | _ => false

namespace Report

variable {ρ ν : Type}

/-- The state that a run is in when it has come to a report. Errors of the script belong to its
execution if they were raised for a record, else to its loading. -/
def state : Report ρ ν → RunState
  | success _ => .tested
  | failure f => match f.kind with
    | .compileDiagnostics => .compileFailed
    | .missingSymbol => .synthesisFailed
    | .notCallable => .synthesisFailed
    | .contractViolation => .executionFailed
    | .evaluationError => if f.recordId.isSome then .executionFailed else .synthesisFailed

theorem state_isUnderWay (r : Report ρ ν) : r.state.isUnderWay = false := by
  cases r with
  | success => rfl
  | failure f =>
    simp only [state]
    split <;> try rfl
    split <;> rfl

end Report

variable {σ ρ ν η ε : Type} (host : ScriptHost σ ρ ν η ε)

namespace ScriptHost

/-- The error that a script raised and, if it is turned into a failure, the one that the script
raised when asked for the text of it. -/
def raisedBy (e : ε) (s : σ) : List (ε × σ) :=
  (e, s) :: if host.passesThrough e s then [] else
    match host.errorText e s with
    | .ok _ _ => []
    | .error inner s => [(inner, s)]

/-- To describe an error fails only with an error that passes through. -/
theorem passesThrough_of_describe {e inner : ε} {s s' : σ} (stays : host.passesThrough e s = false)
    (h : host.describe e s = .error inner s') :
    host.passesThrough inner s' = true ∧ (inner, s') ∈ host.raisedBy e s := by
  unfold describe at h
  split at h
  · cases h
  · next raised =>
    split at h
    · next passes =>
      cases h
      exact ⟨passes, by simp [raisedBy, stays, raised]⟩
    · cases h

end ScriptHost

/-- Only errors that pass through escape from loading. -/
theorem passesThrough_of_loadCode {code : String} {s s' : σ} {e : ε}
    (h : loadCode host code s = .error (.escaped e) s') :
    host.passesThrough e s' = true ∧
      ∃ first s₁, host.load code s = .error first s₁ ∧ (e, s') ∈ host.raisedBy first s₁ := by
  unfold loadCode at h
  split at h
  · cases h
  · next first s₁ raised =>
    split at h
    · next passes =>
      cases h
      exact ⟨passes, _, _, raised, by simp [ScriptHost.raisedBy]⟩
    · next stays =>
      have stays : host.passesThrough first s₁ = false := by simpa using stays
      split at h
      · next described =>
        cases h
        obtain ⟨passes, member⟩ := host.passesThrough_of_describe stays described
        exact ⟨passes, _, _, raised, member⟩
      · cases h

theorem loadCode_of_exportedFunction {kind : RuleKind} {code : String} {s s' : σ} {e : ε}
    (h : exportedFunction host kind code s = .error (.escaped e) s') :
    loadCode host code s = .error (.escaped e) s' := by
  unfold exportedFunction at h
  split at h
  · next loaded =>
    cases h
    exact loaded
  · split at h
    · cases h
    · split at h <;> cases h

namespace Trial

variable (kind : RuleKind) (function : ν)

/-- The errors that a function raises while records are tested one after the other, each with the
world it is raised in. The first record that fails is the last one tested. -/
def raised : List ρ → σ → List (ε × σ)
  | [], _ => []
  | r :: rs, s => match judge host kind function r s with
    | .error e s => host.raisedBy e s
    | .ok ⟨_, none⟩ s => raised rs s
    | .ok ⟨_, some _⟩ _ => []

/-- A test of one record fails with an escaped error only if its call or check raised that error, or
one that could not be described because of it. -/
theorem passesThrough_of_test {r : ρ} {s s' : σ} {e : ε}
    (h : test host kind function r s = .error (.escaped e) s') :
    host.passesThrough e s' = true ∧ ∃ first s₁, judge host kind function r s = .error first s₁ ∧
      (e, s') ∈ host.raisedBy first s₁ := by
  unfold test at h
  split at h
  · next first s₁ judged =>
    unfold stopFor at h
    split at h
    · next passes =>
      cases h
      exact ⟨passes, _, _, judged, by simp [ScriptHost.raisedBy]⟩
    · next stays =>
      have stays : host.passesThrough first s₁ = false := by simpa using stays
      split at h
      · next described =>
        cases h
        obtain ⟨passes, member⟩ := host.passesThrough_of_describe stays described
        exact ⟨passes, _, _, judged, member⟩
      · next s₂ described =>
        obtain ⟨id, named⟩ := host.recordId_ok r s₂
        simp [named] at h
  · cases h
  · next s₁ judged =>
    obtain ⟨id, named⟩ := host.recordId_ok r s₁
    simp [named] at h

/-- Only errors that pass through escape from a trial, and the function has raised them. -/
theorem passesThrough_of_testAll {rs : List ρ} {s s' : σ} {e : ε}
    (h : testAll host kind function rs s = .error (.escaped e) s') :
    host.passesThrough e s' = true ∧ (e, s') ∈ raised host kind function rs s := by
  induction rs generalizing s with
  | nil => cases h
  | cons r rs ih =>
    simp only [testAll, bind, EStateM.bind] at h
    split at h
    · next o s₁ tested =>
      have accepted : ∃ v, judge host kind function r s = .ok ⟨v, none⟩ s₁ := by
        unfold test at tested
        split at tested
        · next judged =>
          unfold stopFor at tested
          grind
        · next judged =>
          cases tested
          exact ⟨_, judged⟩
        · next judged => grind
      obtain ⟨v, judged⟩ := accepted
      split at h
      · cases h
      · next rest =>
        cases h
        simpa [raised, judged] using ih rest
    · next tested =>
      cases h
      obtain ⟨passes, first, s₁, judged, member⟩ := passesThrough_of_test host kind function tested
      exact ⟨passes, by simpa [raised, judged] using member⟩

end Trial

namespace Bench

variable (p : Bench)

/-- The errors that a script raises while its code is loaded and its function is tried on the
records there are, each with the world it is raised in. -/
def raised (code : String) (s : σ) : List (ε × σ) :=
  match host.load code s with
  | .error e s => host.raisedBy e s
  | .ok _ _ => match exportedFunction host p.kind code s with
    | .ok function s => Trial.raised host p.kind function (host.records s) s
    | .error _ _ => []

/-- A report about an artifact: its revision is that of the artifact, and a success holds the
artifact, free of diagnostics, with the function that was exported from its code. -/
def Reports (a : Artifact) (r : Report ρ ν) : Prop :=
  r.revision = a.revision ∧ match r with
    | .failure _ => True
    | .success s => s.artifact = a ∧ a.ok = true ∧
        ∃ w w', exportedFunction host p.kind a.code w = .ok s.function w'

/-- A run that comes to a report ends in the state of the report. -/
theorem execute_ok {a : Artifact} {function : ν} {g : Generator} {s w w' : σ} {r : Report ρ ν}
    (ready : a.ok = true) (exported : exportedFunction host p.kind a.code w = .ok function w')
    (h : (p.execute host a function g s).1.result = .ok r) :
    (p.execute host a function g s).1.states.getLast? = some r.state ∧ p.Reports host a r := by
  unfold execute at h ⊢
  split
  · next tested =>
    simp only [tested, Except.ok.injEq] at h
    subst h
    exact ⟨rfl, rfl, rfl, ready, w, w', exported⟩
  · next stop _ tested =>
    simp only [tested] at h ⊢
    cases stop <;> simp only [Stop.failure, Except.ok.injEq, reduceCtorEq] at h ⊢
    all_goals
      subst h
      exact ⟨rfl, rfl, trivial⟩

/-- A run that an error leaves has not come to its end. -/
theorem execute_error {a : Artifact} {function : ν} {g : Generator} {s : σ} {e : ε}
    (h : (p.execute host a function g s).1.result = .error e) :
    (p.execute host a function g s).1.states = [.executing] ∧
      host.passesThrough e (p.execute host a function g s).2.2 = true ∧
      (e, (p.execute host a function g s).2.2) ∈
        Trial.raised host p.kind function (host.records s) s := by
  unfold execute at h ⊢
  split
  · next tested => simp [tested] at h
  · next stop _ tested =>
    simp only [tested] at h ⊢
    cases stop <;> simp only [Stop.failure, Except.error.injEq, reduceCtorEq] at h ⊢
    subst h
    exact ⟨trivial, Trial.passesThrough_of_testAll host p.kind function tested⟩

/-- A run that comes to a report reports about its artifact, and ends in the state of the report. -/
theorem conclude_ok {a : Artifact} {g : Generator} {s : σ} {r : Report ρ ν}
    (h : (p.conclude host a g s).1.result = .ok r) :
    (p.conclude host a g s).1.states.getLast? = some r.state ∧ p.Reports host a r := by
  unfold conclude at h ⊢
  split
  · next defective =>
    simp only [defective, if_true, Except.ok.injEq] at h
    subst h
    exact ⟨rfl, rfl, trivial⟩
  · next ready =>
    have ready : a.ok = true := by simpa using ready
    simp only [ready, Bool.not_true, Bool.false_eq_true, if_false] at h
    split
    · next function s' exported =>
      simp only [exported, Conclusion.after] at h ⊢
      obtain ⟨last, reports⟩ := p.execute_ok host ready exported h
      exact ⟨by simp [List.getLast?_cons, last], reports⟩
    · next stop _ exported =>
      simp only [exported] at h ⊢
      cases stop <;> simp only [ExportStop.failure, Except.ok.injEq, reduceCtorEq] at h ⊢
      all_goals
        subst h
        exact ⟨rfl, rfl, trivial⟩

/-- A run that comes to no report is left in the middle by an error that the script has raised and
that passes through. -/
theorem conclude_error {a : Artifact} {g : Generator} {s : σ} {e : ε}
    (h : (p.conclude host a g s).1.result = .error e) :
    (∃ last, (p.conclude host a g s).1.states.getLast? = some last ∧ last.isUnderWay = true) ∧
      a.ok = true ∧ host.passesThrough e (p.conclude host a g s).2.2 = true ∧
      (e, (p.conclude host a g s).2.2) ∈ p.raised host a.code s := by
  unfold conclude at h ⊢
  split
  · next defective => simp [defective] at h
  · next ready =>
    have ready : a.ok = true := by simpa using ready
    simp only [ready, Bool.not_true, Bool.false_eq_true, if_false] at h
    split
    · next function s' exported =>
      simp only [exported, Conclusion.after] at h ⊢
      obtain ⟨states, passes, member⟩ := p.execute_error host h
      obtain ⟨names, s₁, loaded⟩ : ∃ names s₁, host.load a.code s = .ok names s₁ := by
        unfold exportedFunction loadCode at exported
        grind
      refine ⟨⟨.executing, by simp [states], rfl⟩, ready, passes, ?_⟩
      simpa [raised, loaded, exported] using member
    · next stop _ exported =>
      simp only [exported] at h ⊢
      cases stop <;> simp only [ExportStop.failure, Except.error.injEq, reduceCtorEq] at h ⊢
      subst h
      obtain ⟨passes, first, s₁, failed, member⟩ :=
        passesThrough_of_loadCode host (loadCode_of_exportedFunction host exported)
      exact ⟨⟨.synthesizing, rfl, rfl⟩, ready, passes, by simpa [raised, failed] using member⟩

end Bench

end RuleBench
