import RuleBench.Proofs.Desk.Records

/-!
# What a run tells

A run tells the states it goes through and how it ends: the failure, or the outcomes as somebody sees
them, or which kind of error passed through. Which outcomes are drawn as samples is no part of that,
and so neither the generator nor the identifier of the buffer matters (`account_conclude`).

Two worlds are indistinct for runs that are still to come if those tell the same in both, one after
the other. That is all that matters of what a script leaves behind for others: a script that alters
neither records nor anything else that scripts share leaves a world that is indistinct from the one
that it found.
-/

namespace RuleBench

variable {σ ρ ν η ε γ : Type} {host : ScriptHost σ ρ ν η ε}

/-! ### Reports that mirror each other -/

/-- Two artifacts of one text, each under an identifier of its own. -/
def Artifact.Mirrors (a a' : Artifact) : Prop := a' = { a with uri := a'.uri }

namespace Artifact

variable {a a' : Artifact}

theorem mirrors_ofText (uri uri' : String) (revision : Nat) (text : String) :
    (ofText uri revision text).Mirrors (ofText uri' revision text) := by
  unfold Mirrors ofText
  split <;> rfl

theorem Mirrors.refl (a : Artifact) : a.Mirrors a := rfl

end Artifact

/-- The same failure, or successes of one text. -/
inductive Report.Mirrors : Report ρ ν → Report ρ ν → Prop
  | failure (f : Failure) : Mirrors (.failure f) (.failure f)
  | success {s s' : Success ρ ν} (artifact : s.artifact.Mirrors s'.artifact)
      (revision : s'.revision = s.revision) : Mirrors (.success s) (.success s')

theorem Report.Mirrors.revision {r r' : Report ρ ν} (h : r.Mirrors r') :
    r'.revision = r.revision := by
  cases h with
  | failure f => rfl
  | success _ revision => exact revision

/-- Two conclusions, each with the world that it leaves, that go through the same states and end
with reports that mirror each other, or with errors that ask for the same. -/
inductive Bench.Agree (host : ScriptHost σ ρ ν η ε) (out out' : Conclusion ρ ν ε × Generator × σ) :
    Prop
  | report {r r' : Report ρ ν} (states : out'.1.states = out.1.states)
      (result : out.1.result = .ok r) (result' : out'.1.result = .ok r') (reports : r.Mirrors r')
  | stopped {e e' : ε} (states : out'.1.states = out.1.states) (result : out.1.result = .error e)
      (result' : out'.1.result = .error e')
      (passage : host.passage? e' out'.2.2 = host.passage? e out.2.2)

theorem Bench.Agree.states {out out' : Conclusion ρ ν ε × Generator × σ}
    (h : Agree host out out') : out'.1.states = out.1.states := by
  cases h with
  | report states => exact states
  | stopped states => exact states

/-! ### Accounts -/

/-- How a run ended, with its outcomes as somebody sees them. -/
inductive Verdict (γ : Type) where
  | failed (failure : Failure)
  | passed (source : String) (revision : Nat) (outcomes : List γ)
  /-- An error passed through. -/
  | stopped (passage : Option ErrorClass.Passage)
deriving Repr, DecidableEq

/-- What a run tells: the states gone through, the last one last, and how it ended. -/
structure Account (γ : Type) where
  states : List RunState
  verdict : Verdict γ
deriving Repr, DecidableEq

namespace Bench

variable (p : Bench) (host : ScriptHost σ ρ ν η ε) (seen : σ → Outcome ρ ν → γ)

/-- What a conclusion tells in the world that it leaves. -/
def account (out : Conclusion ρ ν ε × Generator × σ) : Account γ where
  states := out.1.states
  verdict := match out.1.result with
    | .ok (.failure f) => .failed f
    | .ok (.success s) => .passed s.artifact.source s.revision (s.outcomes.map (seen out.2.2))
    | .error e => .stopped (host.passage? e out.2.2)

/-- What the run of an artifact tells in a world. -/
def told (a : Artifact) (s : σ) : Account γ := account host seen (p.conclude host a p.generator s)

/-- The world that the run of an artifact leaves. -/
def left (a : Artifact) (s : σ) : σ := (p.conclude host a p.generator s).2.2

/-- Runs of some artifacts, one after the other, tell the same in both worlds. -/
def Indistinct : List Artifact → σ → σ → Prop
  | [], _, _ => True
  | a :: as, s, t =>
    p.told host seen a s = p.told host seen a t ∧
      Indistinct as (p.left host a s) (p.left host a t)

instance [DecidableEq γ] (as : List Artifact) (s t : σ) :
    Decidable (p.Indistinct host seen as s t) :=
  match as with
  | [] => isTrue trivial
  | a :: as =>
    have := instDecidableIndistinctOfDecidableEq as (p.left host a s) (p.left host a t)
    inferInstanceAs (Decidable (_ ∧ _))

variable {p host seen} {a a' : Artifact} {as : List Artifact} {s t u : σ}

namespace Indistinct

theorem refl (as : List Artifact) (s : σ) : p.Indistinct host seen as s s := by
  induction as generalizing s with
  | nil => trivial
  | cons a as ih => exact ⟨rfl, ih _⟩

theorem symm (h : p.Indistinct host seen as s t) : p.Indistinct host seen as t s := by
  induction as generalizing s t with
  | nil => trivial
  | cons a as ih => exact ⟨h.1.symm, ih h.2⟩

theorem trans (h : p.Indistinct host seen as s t) (h' : p.Indistinct host seen as t u) :
    p.Indistinct host seen as s u := by
  induction as generalizing s t u with
  | nil => trivial
  | cons a as ih => exact ⟨h.1.trans h'.1, ih h.2 h'.2⟩

end Indistinct

/-! ### What does not matter -/

/-- Neither the generator nor the identifier of its buffer matters for what a run tells and for
what it leaves behind. -/
theorem conclude_congr (seen : σ → Outcome ρ ν → γ) (like : a.Mirrors a') (g g' : Generator)
    (s : σ) :
    account host seen (p.conclude host a' g' s) = account host seen (p.conclude host a g s) ∧
      (p.conclude host a' g' s).2.2 = (p.conclude host a g s).2.2 := by
  obtain ⟨uri, revision, source, code, diagnostics⟩ := a
  obtain ⟨uri', revision', source', code', diagnostics'⟩ := a'
  obtain ⟨rfl, rfl, rfl, rfl⟩ :
      revision = revision' ∧ source = source' ∧ code = code' ∧ diagnostics = diagnostics' := by
    simpa [Artifact.Mirrors, eq_comm] using like
  by_cases sound : diagnostics.isEmpty = true
  · simp only [conclude, Artifact.ok, sound, Bool.not_true, Bool.false_eq_true, if_false]
    cases exportedFunction host p.kind code s with
    | error stop w =>
      dsimp only
      cases stop.failure p.kind with
      | error e => simp only [account, and_self]
      | ok f => simp only [account, and_self]
    | ok function w =>
      simp only [Conclusion.after, execute]
      cases Trial.run host p.kind function w with
      | ok outcomes w => simp only [account, and_self]
      | error stop w =>
        dsimp only
        cases stop.failure p.kind with
        | error e => simp only [account, and_self]
        | ok f => simp only [account, and_self]
  · simp only [conclude, Artifact.ok, sound, Bool.not_false, if_true, and_true, account]
    rfl

theorem account_conclude (like : a.Mirrors a') (g : Generator) (s : σ) :
    account host seen (p.conclude host a' g s) = p.told host seen a s :=
  (conclude_congr seen like p.generator g s).1

theorem left_conclude (like : a.Mirrors a') (g : Generator) (s : σ) :
    (p.conclude host a' g s).2.2 = p.left host a s :=
  (conclude_congr (fun (_ : σ) (_ : Outcome ρ ν) => ()) like p.generator g s).2

/-- Conclusions about one text that tell the same agree. -/
theorem Agree.of_told (like : a.Mirrors a') (g g' : Generator)
    (same : p.told host seen a s = p.told host seen a t) :
    Agree host (p.conclude host a g s) (p.conclude host a' g' t) := by
  rw [← account_conclude (.refl a) g, ← account_conclude like g'] at same
  obtain ⟨states, verdicts⟩ := Account.mk.inj same
  cases result : (p.conclude host a g s).1.result with
  | error e =>
    cases result' : (p.conclude host a' g' t).1.result with
    | error e' =>
      rw [result, result'] at verdicts
      exact .stopped states.symm result result' (Verdict.stopped.inj verdicts).symm
    | ok r' =>
      rw [result, result'] at verdicts
      cases r' <;> cases verdicts
  | ok r =>
    cases result' : (p.conclude host a' g' t).1.result with
    | error e' =>
      rw [result, result'] at verdicts
      cases r <;> cases verdicts
    | ok r' =>
      rw [result, result'] at verdicts
      cases r with
      | failure f =>
        cases r' with
        | failure f' =>
          obtain rfl := Verdict.failed.inj verdicts
          exact .report states.symm result result' (.failure f)
        | success s' => cases verdicts
      | success success =>
        cases r' with
        | failure f' => cases verdicts
        | success success' =>
          have revision := (Verdict.passed.inj verdicts).2.1
          refine .report states.symm result result' (.success ?_ revision.symm)
          rw [(records_of_success result).1, (records_of_success result').1]
          exact like

end Bench

end RuleBench
