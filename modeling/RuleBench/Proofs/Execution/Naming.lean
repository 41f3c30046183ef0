import RuleBench.CommandLine.Test
import RuleBench.Proofs.Bench.Sequence
import RuleBench.Proofs.Execution.Meaning
import RuleBench.Proofs.Execution.Stage
import RuleBench.Proofs.Trace.Naming

/-!
# Names in reports

The name of a record is all that a report says of it: in a failure, in the advice on a value of the
wrong shape, and in what is printed for a sample. The main statement is that such a name tells the
record that the report is about, among all records that were on the stage, up to those that can be
confused with it. Names are looked up when they are written, so that this is said of scripts that
leave the identifiers of traces and spans alone.
-/

namespace RuleBench

variable {σ ρ ν η ε : Type}

/-! ### What a report is about -/

namespace Trial

/-- The values for the records before a place are accepted, and the trial fails at the record there.
It knows of no revision. -/
structure FailsAt (host : ScriptHost σ ρ ν η ε) (kind : RuleKind) (function : ν) (s : σ) (k : Nat)
    (r : ρ) (f : Failure) (t : σ) : Prop where
  place : (host.records s)[k]? = some r
  fails : ∃ (os : List (Outcome ρ ν)) (s₁ : σ), os.map Outcome.record = (host.records s).take k ∧
    Accepts host kind function os s s₁ ∧
      StopsAtRecord host kind function r s₁ (.ok { f with revision := 0 }) t

variable {host : ScriptHost σ ρ ν η ε} {kind : RuleKind} {function : ν} {r : ρ} {s t : σ} {k : Nat}
  {f : Failure}

/-- The advice on a value of the wrong shape has the name that the failure has. -/
theorem StopsAtRecord.advice (h : StopsAtRecord host kind function r s (.ok f) t)
    {name actualType : String} (named : f.recordId = some name)
    (typed : f.actualType = some actualType) :
    f.description = some (kind.shapeAdvice actualType name) := by
  cases h with
  | violation =>
    cases named
    cases typed
    rfl
  | raised => cases typed

theorem FailsAt.named (h : FailsAt host kind function s k r f t) :
    ∃ name, host.recordId r t = .ok name t ∧ f.recordId = some name ∧
      ∀ actualType, f.actualType = some actualType →
        f.description = some (kind.shapeAdvice actualType name) := by
  obtain ⟨_, _, _, _, _, stops⟩ := h
  obtain ⟨⟨name, called, named⟩, _⟩ := stops.names
  exact ⟨name, called, named, fun _ typed => stops.advice named typed⟩

end Trial

/-- Every sample is an outcome at some place. -/
theorem Success.SampledAt.exists_outcome {places : List Nat} {success : Success ρ ν}
    (h : success.SampledAt places) {o : Outcome ρ ν} (sampled : o ∈ success.samples) :
    ∃ k : Nat, success.outcomes[k]? = some o := by
  have chosen : some o ∈ success.samples.map some := List.mem_map_of_mem sampled
  rw [← h] at chosen
  obtain ⟨k, -, found⟩ := List.mem_map.mp chosen
  exact ⟨k, found⟩

namespace Bench

variable {p : Bench} {host : ScriptHost σ ρ ν η ε} {a : Artifact} {function : ν} {g : Generator}
  {s : σ}

/-- A failure is about the first record that fails. -/
theorem failsAt_of_execute {f : Failure}
    (h : (p.execute host a function g s).1.result = .ok (.failure f)) :
    ∃ k r, Trial.FailsAt host p.kind function s k r f (p.execute host a function g s).2.2 := by
  have tried := Trial.testAll_cases host p.kind function (host.records s) s
  split at tried
  · next os t ended =>
    simp only [execute, Trial.run, ended] at h
    cases h
  · next stop t stopped =>
    obtain ⟨os, r, behind, s₁, records, accepted, stops⟩ := tried
    simp only [execute, Trial.run, stopped] at h ⊢
    cases ending : stop.failure p.kind with
    | error e =>
      simp only [ending] at h
      cases h
    | ok f₀ =>
      rw [ending] at stops
      simp only [ending] at h ⊢
      cases h
      have unrevised : { f₀ with revision := 0 } = f₀ := by cases stops <;> rfl
      refine ⟨os.length, r, by simp [records], os, s₁, by simp [records], accepted, ?_⟩
      exact unrevised.symm ▸ stops

/-- The outcomes of a success are about all records, and its samples are drawn from them. -/
theorem outcomes_of_execute {success : Success ρ ν}
    (h : (p.execute host a function g s).1.result = .ok (.success success)) :
    success.outcomes.map Outcome.record = host.records s ∧
      success.SampledAt (places success.outcomes.length p.settings.sampleSize g) := by
  have tried := Trial.testAll_cases host p.kind function (host.records s) s
  split at tried
  · next os t ended =>
    simp only [execute, Trial.run, ended] at h
    cases h
    exact ⟨tried.1, (drawSamples_eq os p.settings.sampleSize g).1⟩
  · next stop t stopped =>
    simp only [execute, Trial.run, stopped] at h
    cases ending : stop.failure p.kind <;> simp only [ending] at h <;> cases h

/-- A success with outcomes has samples if none of them is left out. -/
theorem exists_sample {success : Success ρ ν}
    (h : (p.execute host a function g s).1.result = .ok (.success success))
    (tested : success.outcomes ≠ []) (few : success.outcomes.length ≤ p.settings.sampleSize) :
    ∃ o, o ∈ success.samples := by
  have perm := Sampling.perm_of_places (places_perm few g) (outcomes_of_execute h).2
  obtain ⟨o, here⟩ := List.exists_mem_of_ne_nil _ tested
  exact ⟨o, perm.mem_iff.mpr here⟩

end Bench

namespace Execution

open CommandLine

/-! ### Stages that change -/

/-- A change of the stage, as what is done to a store. -/
def StageChange.step : StageChange → TraceStore.Step Trace
  | .comes t => .add t
  | .goes id => .remove id

/-- The plain traces that are on the stage after changes. -/
def stageAfter (changes : List StageChange) : TraceStore Trace :=
  .ofSteps Trace.id (changes.map StageChange.step)

namespace Scene

variable {s : Scene} {ts : List Trace}

/-- A trace that leaves takes its record along. -/
theorem Stages.withoutTrace (h : s.Stages ts) (id : String) :
    (s.withoutTrace id).Stages (ts.filter fun t => t.id != id) := by
  have entries : (s.withoutTrace id).store.entries = s.store.entries.filter (·.1 != id) := rfl
  unfold Stages at h ⊢
  rw [entries]
  generalize s.store.entries = es at h
  induction h with
  | nil => exact .nil
  | @cons t e _ _ here _ ih =>
    by_cases leaves : t.id = id
    · simpa [here.1, leaves] using ih
    · rw [List.filter_cons_of_pos (by simpa using leaves),
        List.filter_cons_of_pos (by simpa [here.1] using leaves)]
      exact .cons here ih

/-- A scene stages the traces that changes of its stage lead to. -/
theorem stages_staged {changes : List StageChange}
    (simple : ∀ t, .comes t ∈ changes → t.IsSimple) :
    (({} : Scene).staged changes).Stages (stageAfter changes).traces := by
  induction changes using List.reverseRecOn with
  | nil => exact .nil
  | append_singleton changes c ih =>
    have before := ih fun t inside => simple t (by simp [inside])
    rw [staged, List.foldl_append, stageAfter, List.map_append]
    cases c with
    | comes t =>
      have added := before.withTrace (simple t (by simp))
      rwa [List.map_singleton, StageChange.step, TraceStore.traces_ofSteps_add]
    | goes id =>
      have left := before.withoutTrace id
      rwa [List.map_singleton, StageChange.step, TraceStore.traces_ofSteps_remove]

/-- The records of a scene have the names that its traces give them. -/
theorem Stages.names_records {store : TraceStore Trace} (h : s.Stages store.traces) :
    s.records.map s.nameOf = store.records.map TraceRecord.id := by
  rw [h.names]
  simp [TraceStore.records, List.map_flatMap, TraceRecord.id, Function.comp_def]

end Scene

/-! ### What is printed -/

/-- Among the entries of what is printed there is this text. -/
def PrintsText (d : Data) (field text : String) : Prop :=
  ∃ es, d = Report.textEntries es ∧ es.lookup field = some (.str text)

theorem printsText_of_failure {f : Failure} {name : String} (named : f.recordId = some name)
    (kindName : String) (final : Scene) :
    PrintsText ((shownReport final (.failure f)).toData kindName) "record" name := by
  refine ⟨_, rfl, ?_⟩
  rw [named]
  rfl

theorem printsText_of_sample (o : Outcome LiveRecord Value) (final : Scene) :
    PrintsText (Report.sampleData (shownOutcome final o)) "span" (final.nameOf o.record) :=
  ⟨_, rfl, rfl⟩

open TraceRecord (Tells)

/-- A name tells its record up to those that can be confused with it. Whatever traces have come onto
the stage and left it, two records go by one name exactly if they are spans of one trace with one
identifier or their identifiers hold slashes at which the name can be split in two ways; without such
records all names differ. The records that scripts are run on have the same names, place by place. If
the script leaves these names alone, then the one in a failure, in the advice on it and in what is
printed for it tells the record that has failed, and the one that is printed for a sample tells the
record that was sampled. -/
theorem names_tell_records (changes : List StageChange) :
    let rs := (stageAfter changes).records
    (∀ a ∈ rs, ∀ b ∈ rs, a.id = b.id ↔ a.Confusable b) ∧
    ((rs.map TraceRecord.id).Nodup ↔ rs.Pairwise fun a b => ¬ a.Confusable b) ∧
    ((∀ t, .comes t ∈ changes → t.IsSimple) →
      let s := ({} : Scene).staged changes
      s.records.map s.nameOf = rs.map TraceRecord.id) ∧
    ∀ (p : Bench) (a : Artifact) (function : Value) (g : Generator) (loaded : Scene),
      let out := p.execute host a function g loaded
      let final := out.2.2
      loaded.records.map final.nameOf = rs.map TraceRecord.id →
        (∀ f, out.1.result = .ok (.failure f) → ∃ k r name,
          Trial.FailsAt host p.kind function loaded k r f final ∧ f.recordId = some name ∧
          (∀ actualType, f.actualType = some actualType →
            f.description = some (p.kind.shapeAdvice actualType name)) ∧
          PrintsText ((shownReport final (.failure f)).toData p.kind.key) "record" name ∧
          Tells rs name k) ∧
        ∀ success, out.1.result = .ok (.success success) → ∀ o ∈ success.samples, ∃ k name,
          success.outcomes[k]? = some o ∧ loaded.records[k]? = some o.record ∧
          PrintsText (Report.sampleData (shownOutcome final o)) "span" name ∧ Tells rs name k := by
  intro rs
  refine ⟨fun a ha b hb => TraceStore.id_eq_id_iff _ ha hb, TraceStore.nodup_ids_iff _,
    fun simple => (Scene.stages_staged simple).names_records, ?_⟩
  intro p a function g loaded out final kept
  have told : ∀ {k x}, loaded.records[k]? = some x → Tells rs (final.nameOf x) k := by
    intro k x here
    have name := congrArg (·[k]?) kept
    simp only [List.getElem?_map, here, Option.map_some] at name
    obtain ⟨r, there, same⟩ := Option.map_eq_some_iff.mp name.symm
    exact same ▸ TraceStore.tells_of_getElem? _ there
  refine ⟨fun f failed => ?_, fun success passed o sampled => ?_⟩
  · obtain ⟨k, r, fails⟩ := Bench.failsAt_of_execute failed
    obtain ⟨name, called, named, advised⟩ := fails.named
    have name_eq : final.nameOf r = name := by
      cases called
      rfl
    exact ⟨k, r, name, fails, named, advised, printsText_of_failure named _ _,
      name_eq ▸ told fails.place⟩
  · obtain ⟨records, drawn⟩ := Bench.outcomes_of_execute passed
    obtain ⟨k, here⟩ := drawn.exists_outcome sampled
    have place : loaded.records[k]? = some o.record := by
      rw [show loaded.records = _ from records.symm, List.getElem?_map, here, Option.map_some]
    exact ⟨k, _, here, place, printsText_of_sample o final, told place⟩

/-- A trace of spans that have little more than their identifiers. -/
def plainTrace (id : String) (spans : List String) : Trace :=
  ⟨id, .ofList (spans.map fun span =>
    ⟨span, id, "get", 1, 2, .ofList [], [], .ofList [], none, none, none⟩)⟩

theorem isSimple_plainTrace (id : String) (spans : List String) :
    (plainTrace id spans).IsSimple := by
  intro s inside
  obtain ⟨span, _, rfl⟩ := List.mem_map.mp inside
  exact ⟨nofun, nofun, nofun⟩

theorem ofData_plainTrace (id : String) (spans : List String) :
    Trace.ofData ((plainTrace id spans).dump .wire) = .ok (plainTrace id spans) := by
  refine Validation.Checked.titled_eq_ok.mpr (Trace.rule_dump .wire fun s inside => ?_)
  obtain ⟨span, _, rfl⟩ := List.mem_map.mp inside
  exact ⟨Mapping.Settled.nil, nofun, nofun⟩

/-- The function that a script for labels exports, and the scene that it is tested in. -/
def labelsOf (code : String) (s : Scene) : Option (Value × Scene) :=
  match exportedFunction host .spanLabeling code s with
  | .ok function loaded => some (function, loaded)
  | .error _ _ => none

theorem exported_of_labelsOf {code : String} {s : Scene} {x : Value × Scene}
    (h : labelsOf code s = some x) :
    exportedFunction host .spanLabeling code s = .ok x.1 x.2 := by
  unfold labelsOf at h
  split at h
  · next exported =>
    cases h
    exact exported
  · cases h

/-- Tests the function of a script. -/
def labelTest (code : String) (x : Value × Scene) :
    Conclusion LiveRecord Value Value × Generator × Scene :=
  Bench.execute ⟨.spanLabeling, {}⟩ host ⟨"", 0, code, code, []⟩ x.1 ⟨#[], 0⟩ x.2

/-- The name in the failure that a test comes to. -/
def failedName? (out : Conclusion LiveRecord Value Value × Generator × Scene) : Option String :=
  match out.1.result with
  | .ok (.failure f) => f.recordId
  | _ => none

theorem failure_of_failedName? {out : Conclusion LiveRecord Value Value × Generator × Scene}
    {name : String} (h : failedName? out = some name) :
    ∃ f, out.1.result = .ok (.failure f) ∧ f.recordId = some name := by
  unfold failedName? at h
  split at h
  · next f failed => exact ⟨f, failed, h⟩
  · cases h

/-- The number of outcomes of the success that a test comes to. -/
def passedCount? (out : Conclusion LiveRecord Value Value × Generator × Scene) : Option Nat :=
  match out.1.result with
  | .ok (.success success) => some success.outcomes.length
  | _ => none

theorem success_of_passedCount? {out : Conclusion LiveRecord Value Value × Generator × Scene}
    {count : Nat} (h : passedCount? out = some count) :
    ∃ success, out.1.result = .ok (.success success) ∧ success.outcomes.length = count := by
  unfold passedCount? at h
  split at h
  · next success passed => exact ⟨success, passed, Option.some.inj h⟩
  · cases h

/-- Slashes in identifiers give two records of this stage one name; the third one has its own. -/
def slashed : List StageChange := [.comes (plainTrace "a/b" ["c", "d"]),
  .comes (plainTrace "z" ["c"]), .comes (plainTrace "a" ["b/c"]), .goes "z"]

/-- A script that has a label for some spans only. -/
def someLabelsScript : String := "def makeLabel(s, t):\n    return 'x' if s.id == 'c' else 0\n"

/-- A script that has a label for every span. -/
def allLabelsScript : String := "def makeLabel(s, t):\n    return s.id\n"

/-- The name in the failure is that of one record only. The other two records can be confused, and
samples with their name are told up to that. -/
theorem slashed_names_tell :
    let rs := (stageAfter slashed).records
    let s := ({} : Scene).staged slashed
    rs.map TraceRecord.id = ["a/b/c", "a/b/d", "a/b/c"] ∧
    (∃ a ∈ rs, ∃ b ∈ rs, a.trace.id ≠ b.trace.id ∧ a.Confusable b) ∧
    s.records.map s.nameOf = rs.map TraceRecord.id ∧
    (∃ x f k r, labelsOf someLabelsScript s = some x ∧
      Trial.FailsAt host .spanLabeling x.1 x.2 k r f (labelTest someLabelsScript x).2.2 ∧
      f.recordId = some "a/b/d" ∧ Tells rs "a/b/d" k) ∧
    ∃ x success o k name, labelsOf allLabelsScript s = some x ∧
      (labelTest allLabelsScript x).1.result = .ok (.success success) ∧ o ∈ success.samples ∧
      success.outcomes[k]? = some o ∧ Tells rs name k := by
  intro rs s
  obtain ⟨alike, -, live, runs⟩ := names_tell_records slashed
  have names : rs.map TraceRecord.id = ["a/b/c", "a/b/d", "a/b/c"] := rfl
  have simple : ∀ t, .comes t ∈ slashed → t.IsSimple := by
    intro t inside
    simp only [slashed, List.mem_cons, StageChange.comes.injEq, reduceCtorEq, List.not_mem_nil,
      or_false] at inside
    rcases inside with rfl | rfl | rfl <;> exact isSimple_plainTrace _ _
  have fails : (labelsOf someLabelsScript (({} : Scene).staged slashed)).any (fun x =>
      let out := labelTest someLabelsScript x
      x.2.records.map out.2.2.nameOf == ["a/b/c", "a/b/d", "a/b/c"] &&
        failedName? out == some "a/b/d") = true := by
    decide +kernel
  have passes : (labelsOf allLabelsScript (({} : Scene).staged slashed)).any (fun x =>
      let out := labelTest allLabelsScript x
      x.2.records.map out.2.2.nameOf == ["a/b/c", "a/b/d", "a/b/c"] &&
        passedCount? out == some 3) = true := by
    decide +kernel
  refine ⟨names, ?_, live simple, ?_, ?_⟩
  · have first : rs[0]? = some ⟨_, plainTrace "a/b" ["c", "d"]⟩ := rfl
    have last : rs[2]? = some ⟨_, plainTrace "a" ["b/c"]⟩ := rfl
    have inside := List.mem_of_getElem? first
    have inside' := List.mem_of_getElem? last
    exact ⟨_, inside, _, inside', by decide, (alike _ inside _ inside').mp rfl⟩
  · obtain ⟨x, found, ended⟩ := (Option.any_eq_true _ _).mp fails
    simp only [Bool.and_eq_true, beq_iff_eq] at ended
    obtain ⟨f, failed, named⟩ := failure_of_failedName? ended.2
    obtain ⟨k, r, name, failsAt, named', _, _, tells⟩ :=
      (runs _ _ _ _ _ (ended.1.trans names.symm)).1 f failed
    cases named.symm.trans named'
    exact ⟨x, f, k, r, found, failsAt, named, tells⟩
  · obtain ⟨x, found, ended⟩ := (Option.any_eq_true _ _).mp passes
    simp only [Bool.and_eq_true, beq_iff_eq] at ended
    obtain ⟨success, passed, three⟩ := success_of_passedCount? ended.2
    have tested : success.outcomes ≠ [] := List.ne_nil_of_length_eq_add_one three
    obtain ⟨o, sampled⟩ := Bench.exists_sample passed tested (three.trans_le (by decide))
    obtain ⟨k, name, here, _, _, tells⟩ :=
      (runs _ _ _ _ _ (ended.1.trans names.symm)).2 success passed o sampled
    exact ⟨x, success, o, k, name, found, passed, sampled, here, tells⟩

/-- Three records of two valid traces that go by one name: the first trace has two spans of one
identifier, and there are slashes in identifiers. -/
def oneName : List StageChange :=
  [.comes (plainTrace "a/b" ["c", "c"]), .comes (plainTrace "a" ["b/c"])]

/-- A script that changes the identifier of a span and has no label for it. -/
def renamingScript : String := "def makeLabel(s, t):\n    object.__setattr__(s, 'id', 'd')\n"

/-- Records at different places of a stage may have one name, and a failure may have a name that no
record of the stage has had. -/
theorem names_not_unique :
    (¬ ∀ changes : List StageChange,
      (∀ t, .comes t ∈ changes → ∃ d, Trace.ofData d = .ok t) →
      let rs := (stageAfter changes).records
      ∀ (i j : Nat) (a b : TraceRecord), i ≠ j → rs[i]? = some a → rs[j]? = some b →
        a.id ≠ b.id) ∧
    ¬ ∀ changes : List StageChange,
      (∀ t, .comes t ∈ changes → ∃ d, Trace.ofData d = .ok t) →
      ∀ (p : Bench) (a : Artifact) (function : Value) (g : Generator) (loaded : Scene),
        exportedFunction host p.kind a.code (({} : Scene).staged changes) = .ok function loaded →
        ∀ f name, (p.execute host a function g loaded).1.result = .ok (.failure f) →
          f.recordId = some name → ∃ r ∈ (stageAfter changes).records, r.id = name := by
  constructor
  · intro differ
    refine differ oneName (fun t inside => ?_) 0 2 _ _ (by decide) rfl rfl rfl
    simp only [oneName, List.mem_cons, StageChange.comes.injEq, List.not_mem_nil, or_false] at inside
    rcases inside with rfl | rfl <;> exact ⟨_, ofData_plainTrace _ _⟩
  · intro named
    let changes : List StageChange := [.comes (plainTrace "a" ["c"])]
    have fails : (labelsOf renamingScript (({} : Scene).staged changes)).any
        (fun x => failedName? (labelTest renamingScript x) == some "a/d") = true := by
      decide +kernel
    obtain ⟨x, found, ended⟩ := (Option.any_eq_true _ _).mp fails
    obtain ⟨f, failed, renamed⟩ := failure_of_failedName? (beq_iff_eq.mp ended)
    have valid : ∀ t, .comes t ∈ changes → ∃ d, Trace.ofData d = .ok t := by
      intro t inside
      simp only [changes, List.mem_singleton, StageChange.comes.injEq] at inside
      exact ⟨_, inside ▸ ofData_plainTrace "a" ["c"]⟩
    obtain ⟨r, inside, same⟩ :=
      named changes valid ⟨.spanLabeling, {}⟩ ⟨"", 0, renamingScript, renamingScript, []⟩ x.1
        ⟨#[], 0⟩ x.2 (exported_of_labelsOf found) f _ failed renamed
    have only : ∀ r ∈ (stageAfter changes).records, r.id = "a/c" := by decide +kernel
    exact absurd ((only r inside).symm.trans same) (by decide)

end Execution

end RuleBench
