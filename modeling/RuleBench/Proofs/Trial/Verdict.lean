import RuleBench.Trial

/-!
# Verdicts of a trial

How records are tested one after the other, told by calls and checks and the worlds they lead to. A
record is accepted if its call returns a value that has the right shape; else the trial stops at it,
with a failure or with an error that passes through. Every trial takes
one of these ways (`testAll_cases`), and each way is that of the trial (`testAll_of_accepts`,
`testAll_of_stops`).
-/

namespace RuleBench.Trial

variable {σ ρ ν η ε : Type} (host : ScriptHost σ ρ ν η ε) (kind : RuleKind) (function : ν)

/-- Records are accepted one after the other: every call returns a value of the right shape. -/
inductive Accepts : List (Outcome ρ ν) → σ → σ → Prop
  | nil (s : σ) : Accepts [] s s
  | cons {o : Outcome ρ ν} {os : List (Outcome ρ ν)} {s s₁ s₂ t : σ}
      (called : host.call function o.record s = .ok o.value s₁)
      (fits : host.accepts kind.shape o.value s₁ = .ok true s₂) (rest : Accepts os s₂ t) :
      Accepts (o :: os) s t

/-- The function raises for a record: when it is called, when what it returns is checked, or when the
type of what it returns is described. -/
inductive Raises (r : ρ) (s : σ) : ε → σ → Prop
  | call {e : ε} {t : σ} (raised : host.call function r s = .error e t) : Raises r s e t
  | check {v : ν} {e : ε} {s₁ t : σ} (called : host.call function r s = .ok v s₁)
      (raised : host.accepts kind.shape v s₁ = .error e t) : Raises r s e t
  | look {v : ν} {e : ε} {s₁ s₂ t : σ} (called : host.call function r s = .ok v s₁)
      (misfit : host.accepts kind.shape v s₁ = .ok false s₂)
      (raised : host.typeOf v s₂ = .error e t) : Raises r s e t

/-- A trial stops at a record: with a failure that names the record, or with an error that passes
through. -/
inductive StopsAtRecord (r : ρ) (s : σ) : Except ε Failure → σ → Prop
  /-- The value has the wrong shape. -/
  | violation {v : ν} {actualType id : String} {s₁ s₂ t : σ}
      (called : host.call function r s = .ok v s₁)
      (misfit : host.accepts kind.shape v s₁ = .ok false s₂)
      (typed : host.typeOf v s₂ = .ok actualType t) (named : host.recordId r t = .ok id t) :
      StopsAtRecord r s (.ok
        { kind := .contractViolation
          message := "\"" ++ kind.exportName ++ "\" returned an unexpected value"
          description := some (kind.shapeAdvice actualType id)
          recordId := some id
          actualType := some actualType }) t
  /-- An error was raised, and put into words. -/
  | raised {e : ε} {message id : String} {s₁ t : σ} (raises : Raises host kind function r s e s₁)
      (stays : host.passesThrough e s₁ = false) (worded : host.describe e s₁ = .ok message t)
      (named : host.recordId r t = .ok id t) :
      StopsAtRecord r s (.ok
        { kind := .evaluationError
          message := message
          description := some ("\"" ++ kind.exportName ++ "\" function raised " ++
            host.errorClass e t ++ " for span \"" ++ id ++ "\".")
          recordId := some id }) t
  | escaped {e : ε} {t : σ} (raises : Raises host kind function r s e t)
      (passes : host.passesThrough e t = true) : StopsAtRecord r s (.error e) t
  /-- An error that passes through was raised when another one was put into words. -/
  | escapedWording {e inner : ε} {s₁ t : σ} (raises : Raises host kind function r s e s₁)
      (stays : host.passesThrough e s₁ = false) (escapes : host.describe e s₁ = .error inner t) :
      StopsAtRecord r s (.error inner) t

variable {host kind function} {r : ρ} {rs : List ρ} {s t : σ}

/-- Every failure of a record names it, and tells a type exactly if it is about the shape. -/
theorem StopsAtRecord.names {f : Failure}
    (h : StopsAtRecord host kind function r s (.ok f) t) :
    (∃ id, host.recordId r t = .ok id t ∧ f.recordId = some id) ∧ f.diagnostics = [] ∧
      (f.kind = .contractViolation ∧ f.actualType.isSome = true ∨
        f.kind = .evaluationError ∧ f.actualType = none) := by
  cases h with
  | violation _ _ _ named => exact ⟨⟨_, named, rfl⟩, rfl, .inl ⟨rfl, rfl⟩⟩
  | raised _ _ _ named => exact ⟨⟨_, named, rfl⟩, rfl, .inr ⟨rfl, rfl⟩⟩

/-! ### One record -/

/-- A verdict tells what the call, the check and the look at the type have come to. -/
theorem judge_cases (host : ScriptHost σ ρ ν η ε) (kind : RuleKind) (function : ν) (r : ρ) (s : σ) :
    match judge host kind function r s with
    | .ok ⟨v, none⟩ t =>
      ∃ s₁, host.call function r s = .ok v s₁ ∧ host.accepts kind.shape v s₁ = .ok true t
    | .ok ⟨v, some actualType⟩ t => ∃ s₁ s₂, host.call function r s = .ok v s₁ ∧
      host.accepts kind.shape v s₁ = .ok false s₂ ∧ host.typeOf v s₂ = .ok actualType t
    | .error e t => Raises host kind function r s e t := by
  simp only [judge, bind, EStateM.bind]
  cases called : host.call function r s with
  | error e s₁ => exact .call called
  | ok v s₁ =>
    cases checked : host.accepts kind.shape v s₁ with
    | error e s₂ => simpa only [checked] using Raises.check called checked
    | ok fits s₂ =>
      cases fits with
      | true =>
        simp only [checked]
        exact ⟨s₁, rfl, checked⟩
      | false =>
        cases typed : host.typeOf v s₂ with
        | error e t =>
          simpa [checked, EStateM.bind, typed] using Raises.look called checked typed
        | ok actualType t =>
          simp [checked, EStateM.bind, typed, pure, EStateM.pure]

theorem judge_of_fits {v : ν} {s₁ : σ} (called : host.call function r s = .ok v s₁)
    (fits : host.accepts kind.shape v s₁ = .ok true t) :
    judge host kind function r s = .ok ⟨v, none⟩ t := by
  simp [judge, bind, EStateM.bind, called, fits, pure, EStateM.pure]

theorem judge_of_misfit {v : ν} {actualType : String} {s₁ s₂ : σ}
    (called : host.call function r s = .ok v s₁)
    (misfit : host.accepts kind.shape v s₁ = .ok false s₂)
    (typed : host.typeOf v s₂ = .ok actualType t) :
    judge host kind function r s = .ok ⟨v, some actualType⟩ t := by
  simp [judge, bind, EStateM.bind, called, misfit, typed, pure, EStateM.pure]

theorem judge_of_raises {e : ε} (raises : Raises host kind function r s e t) :
    judge host kind function r s = .error e t := by
  cases raises with
  | call raised => simp [judge, bind, EStateM.bind, raised]
  | check called raised => simp [judge, bind, EStateM.bind, called, raised]
  | look called misfit raised => simp [judge, bind, EStateM.bind, called, misfit, raised]

/-- To test a record is to have its value accepted or to stop at it. -/
theorem test_cases (host : ScriptHost σ ρ ν η ε) (kind : RuleKind) (function : ν) (r : ρ) (s : σ) :
    match test host kind function r s with
    | .ok o t => o.record = r ∧ ∃ s₁, host.call function r s = .ok o.value s₁ ∧
      host.accepts kind.shape o.value s₁ = .ok true t
    | .error stop t => StopsAtRecord host kind function r s (stop.failure kind) t := by
  have judged := judge_cases host kind function r s
  unfold test
  split at judged
  · next v t verdict => simpa only [verdict] using ⟨trivial, judged⟩
  · next v actualType t verdict =>
    obtain ⟨s₁, s₂, called, misfit, typed⟩ := judged
    obtain ⟨id, named⟩ := host.recordId_ok r t
    simp only [verdict, named]
    exact .violation called misfit typed named
  · next e s₁ verdict =>
    simp only [verdict, stopFor]
    by_cases passes : host.passesThrough e s₁ = true
    · simp only [passes, if_true]
      exact .escaped judged passes
    · have stays : host.passesThrough e s₁ = false := by simpa using passes
      cases worded : host.describe e s₁ with
      | error inner t =>
        simp only [stays, Bool.false_eq_true, if_false]
        exact .escapedWording judged stays worded
      | ok message t =>
        obtain ⟨id, named⟩ := host.recordId_ok r t
        simp only [stays, named, Bool.false_eq_true, if_false]
        exact .raised judged stays worded named

theorem test_of_fits {o : Outcome ρ ν} {s₁ : σ}
    (called : host.call function o.record s = .ok o.value s₁)
    (fits : host.accepts kind.shape o.value s₁ = .ok true t) :
    test host kind function o.record s = .ok o t := by
  simp [test, judge_of_fits called fits]

theorem test_of_stops {ending : Except ε Failure}
    (h : StopsAtRecord host kind function r s ending t) :
    ∃ stop, test host kind function r s = .error stop t ∧ stop.failure kind = ending := by
  cases h with
  | @violation _ actualType id _ _ _ called misfit typed named =>
    refine ⟨.violation r id actualType, ?_, rfl⟩
    simp [test, judge_of_misfit called misfit typed, named]
  | @raised e message id _ _ raises stays worded named =>
    refine ⟨.raised r id (host.errorClass e t) message, ?_, rfl⟩
    simp [test, judge_of_raises raises, stopFor, stays, worded, named]
  | @escaped e _ raises passes =>
    refine ⟨.escaped e, ?_, rfl⟩
    simp [test, judge_of_raises raises, stopFor, passes]
  | @escapedWording _ inner _ _ raises stays escapes =>
    refine ⟨.escaped inner, ?_, rfl⟩
    simp [test, judge_of_raises raises, stopFor, stays, escapes]

/-! ### All records -/

/-- A trial has all records accepted or stops at the first that is not. -/
theorem testAll_cases (host : ScriptHost σ ρ ν η ε) (kind : RuleKind) (function : ν) (rs : List ρ)
    (s : σ) :
    match testAll host kind function rs s with
    | .ok os t => os.map Outcome.record = rs ∧ Accepts host kind function os s t
    | .error stop t => ∃ (os : List (Outcome ρ ν)) (r : ρ) (behind : List ρ) (s₁ : σ),
      rs = os.map Outcome.record ++ r :: behind ∧ Accepts host kind function os s s₁ ∧
        StopsAtRecord host kind function r s₁ (stop.failure kind) t := by
  induction rs generalizing s with
  | nil => exact ⟨rfl, .nil s⟩
  | cons r rs ih =>
    have tested := test_cases host kind function r s
    simp only [testAll, bind, EStateM.bind]
    split at tested
    · next o s₁ accepted =>
      obtain ⟨rfl, s₀, called, fits⟩ := tested
      have rest := ih s₁
      simp only [accepted]
      split at rest
      · next os t all =>
        obtain ⟨rfl, accepts⟩ := rest
        simpa only [all] using ⟨rfl, .cons called fits accepts⟩
      · next stop t stopped =>
        obtain ⟨os, q, behind, s₂, rfl, accepts, stops⟩ := rest
        simpa only [stopped] using
          ⟨o :: os, q, behind, s₂, rfl, .cons called fits accepts, stops⟩
    · next stop t stopped =>
      simpa only [stopped] using ⟨[], r, rs, s, rfl, .nil s, tested⟩

theorem testAll_of_accepts {os : List (Outcome ρ ν)} (h : Accepts host kind function os s t) :
    testAll host kind function (os.map Outcome.record) s = .ok os t := by
  induction h with
  | nil s => rfl
  | cons called fits _ ih =>
    simp [testAll, bind, EStateM.bind, test_of_fits called fits, ih, pure, EStateM.pure]

theorem testAll_of_stops {os : List (Outcome ρ ν)} {s₁ : σ} {ending : Except ε Failure}
    (accepted : Accepts host kind function os s s₁)
    (stops : StopsAtRecord host kind function r s₁ ending t) (behind : List ρ) :
    ∃ stop, testAll host kind function (os.map Outcome.record ++ r :: behind) s = .error stop t ∧
      stop.failure kind = ending := by
  induction accepted with
  | nil s =>
    obtain ⟨stop, stopped, same⟩ := test_of_stops stops
    exact ⟨stop, by simp [testAll, bind, EStateM.bind, stopped], same⟩
  | cons called fits _ ih =>
    obtain ⟨stop, stopped, same⟩ := ih stops
    refine ⟨stop, ?_, same⟩
    simp [testAll, bind, EStateM.bind, test_of_fits called fits, stopped]

/-- Every outcome is what a call has returned, and what was accepted in the world after that call. -/
theorem Accepts.accepted {os : List (Outcome ρ ν)} (h : Accepts host kind function os s t) :
    ∀ o ∈ os, ∃ before after checked, host.call function o.record before = .ok o.value after ∧
      host.accepts kind.shape o.value after = .ok true checked := by
  induction h with
  | nil => simp
  | cons called fits _ ih =>
    intro o member
    rcases List.mem_cons.mp member with rfl | later
    · exact ⟨_, _, _, called, fits⟩
    · exact ih o later

end RuleBench.Trial
