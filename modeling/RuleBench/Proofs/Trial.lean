import RuleBench.Execution.Host
import RuleBench.Trace.Record

/-!
# What a trial does with a rule function

A rule function may do anything when it is called: return what it likes, raise what it likes, and
change the very stage whose records are tested. A host can be watched, so that everything a trial
has it do is kept in a list (`ScriptHost.watched`). The main statement is about this list: a trial
calls the function for the records of the moment it starts, one after the other, and stops at the
first that fails.
-/

namespace RuleBench

/-- What a trial has its host do, with how it ended: to call the function, to check what came back,
to describe the type of it, to put an error into words. -/
inductive Deed (ρ ν ε : Type) where
  | called (record : ρ) (ending : Except ε ν)
  | checked (value : ν) (ending : Except ε Bool)
  | typed (value : ν) (ending : Except ε String)
  | described (error : ε) (ending : Except ε String)

namespace Deed

variable {ρ ν ε : Type}

/-- The record of a call. -/
def record? : Deed ρ ν ε → Option ρ
  | called r _ => some r
  | _ => none

/-- The records for which the function was called, in the order of the calls. -/
def calls (deeds : List (Deed ρ ν ε)) : List ρ := deeds.filterMap record?

/-- A record whose value is accepted: one call, and one check that holds. -/
def ofOutcome (o : Outcome ρ ν) : List (Deed ρ ν ε) :=
  [called o.record (.ok o.value), checked o.value (.ok true)]

@[simp] theorem calls_append (ds ds' : List (Deed ρ ν ε)) :
    calls (ds ++ ds') = calls ds ++ calls ds' := List.filterMap_append

@[simp] theorem calls_described (e : ε) (ending : Except ε String) :
    calls [(described e ending : Deed ρ ν ε)] = [] := rfl

@[simp] theorem calls_ofOutcome (o : Outcome ρ ν) :
    calls (ofOutcome o : List (Deed ρ ν ε)) = [o.record] := rfl

@[simp] theorem calls_flatMap_ofOutcome (os : List (Outcome ρ ν)) :
    calls (os.flatMap ofOutcome : List (Deed ρ ν ε)) = os.map Outcome.record := by
  induction os with
  | nil => rfl
  | cons o os ih => simp [ih]

/-- The function raises for a record: when it is called, when what it returns is checked, or when
the type of what it returns is described. -/
inductive Raises (r : ρ) : List (Deed ρ ν ε) → ε → Prop where
  | call (e : ε) : Raises r [called r (.error e)] e
  | check (v : ν) (e : ε) : Raises r [called r (.ok v), checked v (.error e)] e
  | look (v : ν) (e : ε) :
    Raises r [called r (.ok v), checked v (.ok false), typed v (.error e)] e

theorem Raises.calls {r : ρ} {ds : List (Deed ρ ν ε)} {e : ε} (h : Raises r ds e) :
    Deed.calls ds = [r] := by
  cases h <;> rfl

end Deed

/-! ### Watched hosts -/

section

variable {σ δ ε α : Type}

/-- Performs an action and notes how it ended. -/
def noting (deed : Except ε α → δ) (action : EStateM ε σ α) : EStateM ε (σ × List δ) α := fun s =>
  match action s.1 with
  | .ok a t => .ok a (t, s.2 ++ [deed (.ok a)])
  | .error e t => .error e (t, s.2 ++ [deed (.error e)])

/-- Performs an action that is not noted. -/
def unnoted (action : EStateM ε σ α) : EStateM ε (σ × List δ) α := fun s =>
  match action s.1 with
  | .ok a t => .ok a (t, s.2)
  | .error e t => .error e (t, s.2)

end

namespace ScriptHost

variable {σ ρ ν η ε : Type} (host : ScriptHost σ ρ ν η ε)

/-- The same host, with a list of what it was made to do for a trial. -/
def watched : ScriptHost (σ × List (Deed ρ ν ε)) ρ ν η ε where
  load code := unnoted (host.load code)
  lookup? names name s := host.lookup? names name s.1
  isCallable v s := host.isCallable v s.1
  records s := host.records s.1
  recordId r := unnoted (host.recordId r)
  recordId_ok r s := by
    obtain ⟨id, named⟩ := host.recordId_ok r s.1
    exact ⟨id, by simp [unnoted, named]⟩
  shownSpan r s := host.shownSpan r s.1
  call f r := noting (.called r) (host.call f r)
  accepts shape v := noting (.checked v) (host.accepts shape v)
  typeOf v := noting (.typed v) (host.typeOf v)
  passage? e s := host.passage? e s.1
  errorClass e s := host.errorClass e s.1
  errorText e := noting (.described e) (host.errorText e)

section

variable (s : σ × List (Deed ρ ν ε))

@[simp] theorem records_watched : host.watched.records s = host.records s.1 := rfl

@[simp] theorem recordId_watched (r : ρ) :
    host.watched.recordId r s = unnoted (host.recordId r) s := rfl

@[simp] theorem call_watched (f : ν) (r : ρ) :
    host.watched.call f r s = noting (.called r) (host.call f r) s := rfl

@[simp] theorem accepts_watched (shape : AnswerShape) (v : ν) :
    host.watched.accepts shape v s = noting (.checked v) (host.accepts shape v) s := rfl

@[simp] theorem typeOf_watched (v : ν) :
    host.watched.typeOf v s = noting (.typed v) (host.typeOf v) s := rfl

@[simp] theorem errorText_watched (e : ε) :
    host.watched.errorText e s = noting (.described e) (host.errorText e) s := rfl

@[simp] theorem errorClass_watched (e : ε) :
    host.watched.errorClass e s = host.errorClass e s.1 := rfl

@[simp] theorem passesThrough_watched (e : ε) :
    host.watched.passesThrough e s = host.passesThrough e s.1 := rfl

end

/-- The same host, with the records of a stage: its traces in their order, of each the spans in
theirs. -/
def onStage {τ π : Type} (stage : σ → TraceStore τ) (spans : σ → τ → List π) (record : π → τ → ρ) :
    ScriptHost σ ρ ν η ε :=
  { host with
    records := fun s => (stage s).traces.flatMap fun t => (spans s t).map fun span => record span t }

/-- The text that an error is reported with. -/
def wording (e : ε) (s : σ) : Except ε String → String
  | .ok text => if text.isEmpty then host.errorClass e s else text
  | .error _ => host.errorClass e s

end ScriptHost

/-- Rule functions on plain data work on a stage of their own. -/
theorem dataHost_onStage {σ : Type} (store : σ → TraceStore Trace)
    (call : TraceRecord → EStateM ErrorSpec σ Data) :
    (dataHost store call).onStage store (fun _ t => t.spans.items) TraceRecord.mk =
      dataHost store call := rfl

/-- So do live rule functions, which may reach into it. -/
theorem Execution.host_onStage (file : String) :
    (host file).onStage Scene.store (fun s trace => match s.memory.world.obj? trace with
      | some (.record _ fields _) => s.memory.world.itemsNow ((fields.lookup "spans").getD .none)
      | _ => []) LiveRecord.mk = host file := rfl

namespace Trial

variable {σ ρ ν η ε : Type} (host : ScriptHost σ ρ ν η ε) (kind : RuleKind) (function : ν)

/-- How a trial stops at a record, told from what it had the host do for that record and the world
it stopped in. -/
inductive StopsAt (r : ρ) : List (Deed ρ ν ε) → Stop ρ ε → σ → Prop where
  /-- The value has the wrong shape: the record is named, and the type of the value. -/
  | violation {v : ν} {actualType id : String} {s : σ} (named : host.recordId r s = .ok id s) :
    StopsAt r [.called r (.ok v), .checked v (.ok false), .typed v (.ok actualType)]
      (.violation r id actualType) s
  /-- An error was raised that does not pass through: the record is named, and the error. -/
  | raised {deeds : List (Deed ρ ν ε)} {e : ε} {s₁ s : σ} {id : String} {text : Except ε String}
    (raises : Deed.Raises r deeds e) (stays : host.passesThrough e s₁ = false)
    (silent : ∀ inner, text = .error inner → host.passesThrough inner s = false)
    (named : host.recordId r s = .ok id s) :
    StopsAt r (deeds ++ [.described e text])
      (.raised r id (host.errorClass e s) (host.wording e s text)) s
  /-- The error that was raised passes through. -/
  | escaped {deeds : List (Deed ρ ν ε)} {e : ε} {s : σ} (raises : Deed.Raises r deeds e)
    (passes : host.passesThrough e s = true) : StopsAt r deeds (.escaped e) s
  /-- An error that passes through was raised when another one was put into words. -/
  | escapedWording {deeds : List (Deed ρ ν ε)} {e inner : ε} {s₁ s : σ}
    (raises : Deed.Raises r deeds e) (stays : host.passesThrough e s₁ = false)
    (passes : host.passesThrough inner s = true) :
    StopsAt r (deeds ++ [.described e (.error inner)]) (.escaped inner) s

theorem StopsAt.calls {r : ρ} {deeds : List (Deed ρ ν ε)} {stop : Stop ρ ε} {s : σ}
    (h : StopsAt host r deeds stop s) : Deed.calls deeds = [r] := by
  cases h with
  | violation => rfl
  | raised raises => simp [raises.calls]
  | escaped raises => exact raises.calls
  | escapedWording raises => simp [raises.calls]

/-- The verdict on a value comes from one call and one check; if the check fails, the type of the
value is looked at. -/
theorem judge_watched (r : ρ) (s : σ) (ds : List (Deed ρ ν ε)) :
    match judge host kind function r s with
    | .ok ⟨v, none⟩ t => judge host.watched kind function r (s, ds) =
        .ok ⟨v, none⟩ (t, ds ++ [.called r (.ok v), .checked v (.ok true)])
    | .ok ⟨v, some actualType⟩ t => judge host.watched kind function r (s, ds) =
        .ok ⟨v, some actualType⟩ (t, ds ++
          [.called r (.ok v), .checked v (.ok false), .typed v (.ok actualType)])
    | .error e t => ∃ last, Deed.Raises r last e ∧
        judge host.watched kind function r (s, ds) = .error e (t, ds ++ last) := by
  simp only [judge, bind, EStateM.bind, ScriptHost.call_watched, noting]
  cases called : host.call function r s with
  | error e t => exact ⟨_, .call e, rfl⟩
  | ok v t =>
    simp only [ScriptHost.accepts_watched, noting]
    cases checked : host.accepts kind.shape v t with
    | error e u => exact ⟨_, .check v e, by simp⟩
    | ok accepted u =>
      cases accepted with
      | true => simp [pure, EStateM.pure]
      | false =>
        simp only [Bool.false_eq_true, if_false, EStateM.bind, ScriptHost.typeOf_watched, noting]
        cases typed : host.typeOf v u with
        | error e w => exact ⟨_, .look v e, by simp⟩
        | ok actualType w => simp [pure, EStateM.pure]

/-- An error for a record stops the trial: it passes through, or it is put into words. -/
theorem stopFor_watched {r : ρ} {e : ε} {last : List (Deed ρ ν ε)}
    (raises : Deed.Raises r last e) (s : σ) (ds : List (Deed ρ ν ε)) :
    ∃ stop t more, stopFor host r e s = .error stop t ∧
      stopFor host.watched r e (s, ds) = .error stop (t, ds ++ more) ∧
      StopsAt host r (last ++ more) stop t := by
  simp only [stopFor, ScriptHost.passesThrough_watched, ScriptHost.describe,
    ScriptHost.errorText_watched, noting]
  by_cases passes : host.passesThrough e s = true
  · refine ⟨.escaped e, s, [], by simp [passes], by simp [passes], ?_⟩
    simpa using StopsAt.escaped raises passes
  · have stays : host.passesThrough e s = false := by simpa using passes
    cases worded : host.errorText e s with
    | ok text t =>
      obtain ⟨id, named⟩ := host.recordId_ok r t
      refine ⟨_, t, [.described e (.ok text)], ?_, ?_, .raised raises stays (by simp) named⟩
      · simp [stays, named, ScriptHost.wording]
      · simp [stays, named, ScriptHost.wording, unnoted]
    | error inner t =>
      by_cases leaves : host.passesThrough inner t = true
      · exact ⟨.escaped inner, t, [.described e (.error inner)], by simp [stays, leaves],
          by simp [stays, leaves], .escapedWording raises stays leaves⟩
      · have silent : host.passesThrough inner t = false := by simpa using leaves
        obtain ⟨id, named⟩ := host.recordId_ok r t
        refine ⟨_, t, [.described e (.error inner)], ?_, ?_,
          .raised raises stays (by simpa using silent) named⟩
        · simp [stays, silent, named, ScriptHost.wording]
        · simp [stays, silent, named, ScriptHost.wording, unnoted]

/-- A record is tested by one call: its value is accepted, or the trial stops at it. -/
theorem test_watched (r : ρ) (s : σ) (ds : List (Deed ρ ν ε)) :
    match test host kind function r s with
    | .ok o t => o.record = r ∧
        test host.watched kind function r (s, ds) = .ok o (t, ds ++ Deed.ofOutcome o)
    | .error stop t => ∃ last, StopsAt host r last stop t ∧
        test host.watched kind function r (s, ds) = .error stop (t, ds ++ last) := by
  have judged := judge_watched host kind function r s ds
  unfold test
  split at judged
  · next v t verdict => simp [verdict, judged, Deed.ofOutcome]
  · next v actualType t verdict =>
    obtain ⟨id, named⟩ := host.recordId_ok r t
    simpa [verdict, judged, named, unnoted] using StopsAt.violation named
  · next e t verdict =>
    obtain ⟨last, raises, watched⟩ := judged
    obtain ⟨stop, u, more, stops, stopsWatched, at'⟩ :=
      stopFor_watched host raises t (ds ++ last)
    simp only [verdict, watched, stops, stopsWatched]
    exact ⟨last ++ more, at', by simp⟩

/-- Records are tested in their order: those before the first that fails are accepted, and those
behind it are not looked at. -/
theorem testAll_watched (rs : List ρ) (s : σ) (ds : List (Deed ρ ν ε)) :
    match testAll host kind function rs s with
    | .ok os t => os.map Outcome.record = rs ∧ testAll host.watched kind function rs (s, ds) =
        .ok os (t, ds ++ os.flatMap Deed.ofOutcome)
    | .error stop t => ∃ (os : List (Outcome ρ ν)) (r : ρ) (behind : List ρ)
        (last : List (Deed ρ ν ε)), rs = os.map Outcome.record ++ r :: behind ∧
        StopsAt host r last stop t ∧ testAll host.watched kind function rs (s, ds) =
          .error stop (t, ds ++ os.flatMap Deed.ofOutcome ++ last) := by
  induction rs generalizing s ds with
  | nil => simp [testAll, pure, EStateM.pure]
  | cons r rs ih =>
    have tested := test_watched host kind function r s ds
    simp only [testAll, bind, EStateM.bind]
    split at tested
    · next o t accepted =>
      obtain ⟨own, watched⟩ := tested
      have rest := ih t (ds ++ Deed.ofOutcome o)
      simp only [accepted, watched]
      split at rest
      · next os u all =>
        obtain ⟨records, watched⟩ := rest
        simp [all, watched, own, records, pure, EStateM.pure]
      · next stop u stopped =>
        obtain ⟨os, q, behind, last, split, stops, watched⟩ := rest
        simp only [stopped, watched]
        exact ⟨o :: os, q, behind, last, by simp [own, split], stops, by simp⟩
    · next stop t stopped =>
      obtain ⟨last, stops, watched⟩ := tested
      simp only [stopped, watched]
      exact ⟨[], r, rs, last, by simp, stops, by simp⟩

/-- A trial tests the records that are on the stage when it starts, in trace order and then in span
order, whatever the function does to the stage. If it comes to an end, the function was called for
each of them once, and the outcomes are the records with the values of these calls, all of which
were accepted. If it stops, the function was called for the records up to one, all values before
that one were accepted, and it is this record that the trial stops at. -/
theorem run_calls {τ π : Type} (stage : σ → TraceStore τ) (spans : σ → τ → List π)
    (record : π → τ → ρ) (s : σ) :
    let host := host.onStage stage spans record
    let records := (stage s).traces.flatMap fun t => (spans s t).map fun span => record span t
    match run host kind function s with
    | .ok outcomes t => outcomes.map Outcome.record = records ∧
        ∃ deeds, run host.watched kind function (s, []) = .ok outcomes (t, deeds) ∧
          Deed.calls deeds = records ∧ deeds = outcomes.flatMap Deed.ofOutcome
    | .error stop t => ∃ (k : Nat) (r : ρ) (accepted : List (Outcome ρ ν))
        (last : List (Deed ρ ν ε)), records[k]? = some r ∧
        accepted.map Outcome.record = records.take k ∧ StopsAt host r last stop t ∧
        ∃ deeds, run host.watched kind function (s, []) = .error stop (t, deeds) ∧
          Deed.calls deeds = records.take (k + 1) ∧
          deeds = accepted.flatMap Deed.ofOutcome ++ last := by
  intro host records
  have tested := testAll_watched host kind function records s []
  have start : ∀ deeds, run host.watched kind function (s, deeds) =
    testAll host.watched kind function records (s, deeds) := fun _ => rfl
  change match testAll host kind function records s with | .ok _ _ => _ | .error _ _ => _
  split at tested
  · next outcomes t ended =>
    obtain ⟨same, watched⟩ := tested
    simp only [start]
    exact ⟨same, _, watched, by simp [same], by simp⟩
  · next stop t stopped =>
    obtain ⟨accepted, r, behind, last, split, stops, watched⟩ := tested
    simp only [start]
    have place : records[accepted.length]? = some r := by simp [split]
    refine ⟨accepted.length, r, accepted, last, place, by simp [split], stops, _, watched, ?_,
      by simp⟩
    rw [List.take_add_one, place]
    simp [split, stops.calls]

end Trial

end RuleBench
