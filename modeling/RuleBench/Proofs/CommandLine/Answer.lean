import RuleBench.CommandLine.Test
import RuleBench.Proofs.Bench.Sequence
import RuleBench.Proofs.Execution.Stage

/-!
# Answers of the command line

What is printed for a test, traced back to the run. The traces of a file come onto the stage once for
every identifier, the run tests each of their spans, and as many outcomes as are asked for are
printed, at different places. All that is printed of an outcome is looked up when the run is over:
texts cannot have changed by then, whereas the items of a list can.
-/

namespace RuleBench

open Script (lower)

/-! ### Values that nothing can change -/

namespace Execution

/-- Texts, and tuples of such values. -/
inductive Value.Fixed : Value → Prop
  | text (s : String) : Fixed (.str s)
  | tuple {vs : List Value} (items : ∀ v ∈ vs, Fixed v) : Fixed (.tuple vs)

theorem snapshotWithin_of_fixed {v : Value} (h : v.Fixed) (fuel : Nat) (w w' : World) :
    snapshotWithin fuel w v = snapshotWithin fuel w' v := by
  induction h generalizing fuel with
  | text s => cases fuel <;> rfl
  | tuple _ ih =>
    cases fuel with
    | zero => rfl
    | succ fuel => exact congrArg Data.tuple (List.map_congr_left fun v inside => ih v inside fuel)

/-- Such a value is the same data in every world. -/
theorem snapshot_of_fixed {v : Value} (h : v.Fixed) (w w' : World) : snapshot w v = snapshot w' v :=
  snapshotWithin_of_fixed h _ w w'

end Execution

/-! ### Places of samples -/

/-- As many places as are asked for, or else all there are, and none twice. -/
theorem Bench.places_distinct (count size : Nat) (g : Generator) :
    (places count size g).Nodup ∧ (places count size g).length = min size count := by
  unfold places drawSamples Sampling.select
  have chosen := Sampling.ensures_choose Generator.greatestDraws (List.range count) size g
  rw [List.length_range] at chosen
  split
  · next drawn ended =>
    rw [ended] at chosen
    obtain ⟨places, h, found⟩ := chosen
    have same : places.map some = drawn.1.map some := by
      rw [← found]
      exact List.map_congr_left fun i inside => by simp [h.inside i inside]
    rw [Option.getD_some, ← List.map_injective_iff.mpr (fun _ _ => Option.some.inj) same]
    exact ⟨h.distinct, h.length⟩
  · rw [Option.getD_none]
    exact ⟨(List.take_sublist _ _).nodup List.nodup_range, by simp⟩

namespace CommandLine

open Execution Validation

theorem mapError_eq_ok {ε δ α : Type} {x : Except ε α} {f : ε → δ} {a : α}
    (h : x.mapError f = .ok a) : x = .ok a := by
  cases x with
  | error e => cases h
  | ok b => exact congrArg Except.ok (Except.ok.inj h)

/-- The traces that a file holds are simple, and so are those of no file. -/
theorem isSimple_of_file {file? : Option String} {ts : List Trace}
    (read : file?.elim (.ok []) readTraces = .ok ts) : ∀ t ∈ ts, t.IsSimple := by
  cases file? with
  | none =>
    cases read
    exact fun _ inside => nomatch inside
  | some content =>
    change readTraces content = .ok ts at read
    unfold readTraces at read
    split at read
    · cases read
    · cases read
    · next found =>
      cases read
      exact Trace.isSimple_of_readAll found

namespace Inputs

variable {i : Inputs} {uri : String} {g : Generator} {final : Scene}

/-- The run of a test ends with a report and leaves a scene behind. -/
structure Ran (i : Inputs) (uri : String) (g : Generator) (report : Report LiveRecord Value)
    (final : Scene) : Prop where
  ended : (Bench.run ⟨i.kind, i.settings⟩ Execution.host (.insert {} uri i.scriptText) uri g
    (.ofTraces i.traces)).1.result = .ok report
  left : (Bench.run ⟨i.kind, i.settings⟩ Execution.host (.insert {} uri i.scriptText) uri g
    (.ofTraces i.traces)).2.2 = final

/-- A test that comes to an end prints what its run came to. -/
theorem ran_of_test {seed : Int} {r : TestResult} (done : i.test uri seed = .ok r) :
    ∃ report final text, i.Ran uri (.ofSeed (i.settings.seed.getD seed)) report final ∧
      (shownReport final report).output i.kind.key = .ok text ∧
      r.exitCode = report.exitCode ∧ r.output = final.world.printed ++ text ++ "\n" := by
  unfold Inputs.test at done
  dsimp only at done
  split at done
  · cases done
  · cases done
  · next report ended =>
    cases summed : ((shownReport _ report).summary.mapError TestFault.unwritable) with
    | error f =>
      rw [summed] at done
      cases done
    | ok lines =>
      rw [summed] at done
      cases printed : ((shownReport _ report).output i.kind.key).mapError TestFault.unwritable with
      | error f =>
        rw [printed] at done
        cases done
      | ok text =>
        rw [printed] at done
        cases done
        exact ⟨report, _, text, ⟨ended, rfl⟩, mapError_eq_ok printed, rfl, rfl⟩

/-- How a test passed: the function that was tested, the scene once the code had been loaded and the
one at the end, the outcomes between them, and what is shown of it all. -/
structure Passed (i : Inputs) (function : Value) (loaded final : Scene)
    (os : List (Outcome LiveRecord Value)) (shown : Success ShownRecord Data) : Prop where
  exported : ∃ code, lower i.scriptText = .ok code ∧
    Exports Execution.host i.kind code (.ofTraces i.traces) function loaded
  /-- The outcomes are what the function has returned, and all of it was accepted. -/
  accepted : Trial.Accepts Execution.host i.kind function os loaded final
  records : loaded.records = os.map Outcome.record
  outcomes : shown.outcomes = os.map (shownOutcome final)
  /-- As many outcomes as are asked for are printed, or else all there are, and none twice. -/
  samples : ∃ places : List Nat, places.Nodup ∧
    places.length = min i.settings.sampleSize os.length ∧ shown.SampledAt places

/-- A test passes if all that the function returns is accepted, whatever samples are drawn. -/
theorem passed_of_accepts {code : String} {function : Value} {loaded : Scene}
    {os : List (Outcome LiveRecord Value)} (lowered : lower i.scriptText = .ok code)
    (exported : Exports Execution.host i.kind code (.ofTraces i.traces) function loaded)
    (records : loaded.records = os.map Outcome.record)
    (accepted : Trial.Accepts Execution.host i.kind function os loaded final) (a : Artifact)
    (g : Generator) (revision : Nat) : i.Passed function loaded final os
      ⟨a, snapshot final.world function, os.map (shownOutcome final),
        (Bench.drawSamples os i.settings.sampleSize g).1.map (shownOutcome final), revision⟩ := by
  obtain ⟨distinct, length⟩ := Bench.places_distinct os.length i.settings.sampleSize g
  refine ⟨⟨code, lowered, exported⟩, accepted, records, rfl, _, distinct, length, ?_⟩
  have drawn := (Bench.drawSamples_eq os i.settings.sampleSize g).1
  have shown := congrArg (List.map (Option.map (shownOutcome final))) drawn
  simpa [Success.SampledAt, Function.comp_def] using shown

theorem Ran.passed {s : Success LiveRecord Value} (h : i.Ran uri g (.success s) final) :
    ∃ loaded os, i.Passed s.function loaded final os
      ⟨s.artifact, snapshot final.world s.function, s.outcomes.map (shownOutcome final),
        s.samples.map (shownOutcome final), s.revision⟩ := by
  have found : (Buffers.insert {} uri i.scriptText).get? uri = some ⟨i.scriptText, 0⟩ :=
    (Buffers.get?_insert ..).trans (if_pos rfl)
  obtain ⟨ended, left⟩ := h
  obtain ⟨result, same, course⟩ := Bench.exists_course found ⟨i.kind, i.settings⟩ Execution.host g
    (.ofTraces i.traces)
  have passed := mapError_eq_ok (same.symm.trans ended)
  rw [left] at course
  subst passed
  generalize (Bench.run _ _ _ _ _ _).1.states = states, (Bench.run _ _ _ _ _ _).2.1 = g' at course
  cases course with
  | tested lowered exported records accepted =>
    exact ⟨_, _, passed_of_accepts lowered exported records accepted _ g _⟩

/-- What is printed for a test is what its run came to. The exit code is 1 exactly for a failure. Else
the function has been called for all records that there were once the code had been loaded, and has
returned an accepted value for each; the test counts as untested exactly if there were none, and there
is one record for each span of the traces, of those that share an identifier the first alone, unless
the code took to changing the stage while it was loaded. As many samples as are asked for are printed,
for different records, with the identifier of the record and with the value. Both are looked up when
the run is over. For texts and tuples of texts, that is what the function has returned. -/
theorem test_answers {file? : Option String} (read : file?.elim (.ok []) readTraces = .ok i.traces)
    {seed : Int} {r : TestResult} (done : i.test uri seed = .ok r) :
    ∃ (report : Report ShownRecord Data) (printed text : String),
      r.output = printed ++ text ++ "\n" ∧
      Json.write (.indented 2) (report.toData i.kind.key) = .ok text ∧
      (r.exitCode = 1 ↔ report.status = .failure) ∧
      ∀ shown, report = .success shown → ∃ function loaded final os,
        i.Passed function loaded final os shown ∧
        report.toData i.kind.key = Report.textEntries [
          ("status", .str (if os = [] then Status.untested else .success).name),
          ("kind", .str i.kind.key),
          ("tested", .int os.length), ("samples", .list (shown.samples.map Report.sampleData))] ∧
        (loaded.records.length = (Scene.ofTraces i.traces).records.length →
          os.length = Trace.spanCount i.traces) ∧
        ∀ o ∈ os, (shownOutcome final o).record.id = final.nameOf o.record ∧
          (o.value.Fixed → ∀ w, (shownOutcome final o).value = snapshot w o.value) := by
  obtain ⟨report, final, text, ran, written, exitCode, output⟩ := ran_of_test done
  refine ⟨shownReport final report, final.world.printed, text, output, written, ?_, fun shown => ?_⟩
  · rw [exitCode]
    cases report with
    | failure f => exact ⟨fun _ => rfl, fun _ => rfl⟩
    | success s =>
      by_cases empty : s.outcomes = [] <;>
        simp [Report.exitCode, Report.status, shownReport, Success.isEmpty, empty]
  · rintro success
    cases report with
    | failure f => cases success
    | success s =>
      obtain ⟨loaded, os, passed⟩ := ran.passed
      cases success
      refine ⟨s.function, loaded, final, os, passed, ?_, fun same => ?_, fun o _ =>
        ⟨rfl, fun fixed w => snapshot_of_fixed fixed final.world w⟩⟩
      · have outcomes : s.outcomes.map (shownOutcome final) = os.map (shownOutcome final) :=
          passed.outcomes
        cases os <;> simp [shownReport, Report.toData, Report.status, Success.isEmpty, outcomes]
      · have records := congrArg List.length passed.records
        rw [List.length_map, same, Scene.length_records_ofTraces (isSimple_of_file read)] at records
        exact records.symm

/-- One trace of one span, as an export has it. -/
def singleSpan : String :=
  "\x7b\"id\": \"t1\", \"spans\": [\x7b\"id\": \"s1\", \"traceId\": \"t1\", \"operationName\": \"get\", " ++
    "\"startTime\": 1, \"finishTime\": 2\x7d]\x7d"

/-- A test of one span of which no sample is asked for. -/
def unsampled : Inputs where
  kind := .spanLabeling
  settings := { sampleSize := 0 }
  traces := (readTraces singleSpan).toOption.getD []
  scriptPath := "rule.py"
  scriptText := "def makeLabel(span, trace):\n    return span.id\n"
  notes := []

/-- A test that passes is answered by its run. -/
theorem unsampled_answered : ∃ r, unsampled.test "file:///rule.py" 0 = .ok r ∧
    ∃ (report : Report ShownRecord Data) (printed text : String),
      r.output = printed ++ text ++ "\n" ∧
      Json.write (.indented 2) (report.toData unsampled.kind.key) = .ok text ∧
      (r.exitCode = 1 ↔ report.status = .failure) := by
  have ends : (unsampled.test "file:///rule.py" 0).toOption.isSome = true := by decide +kernel
  have reads : (readTraces singleSpan).toOption.isSome = true := by decide +kernel
  cases done : unsampled.test "file:///rule.py" 0 with
  | error f =>
    rw [done] at ends
    cases ends
  | ok r =>
    have read : (some singleSpan).elim (.ok []) readTraces = .ok unsampled.traces := by
      rw [Option.elim_some, unsampled]
      cases found : readTraces singleSpan with
      | error f =>
        rw [found] at reads
        cases reads
      | ok ts => rfl
    obtain ⟨report, printed, text, output, written, exitCode, _⟩ :=
      test_answers read done
    exact ⟨r, rfl, report, printed, text, output, written, exitCode⟩

/-- A rule that returns one list for all spans and writes into it, on two spans. -/
def sharing : Inputs where
  kind := .spanGrouping
  settings := {}
  traces := (Trace.sample (.str "t") [.str "get", .str "put"]).toOption.toList
  scriptPath := "rule.py"
  scriptText :=
    "p = ['', '']\ndef groupBy(s, t):\n    p[0] = s.id\n    return p\n"
  notes := []

/-- The texts in a list. -/
def textsOf : Data → List String
  | .list ds => ds.filterMap fun d => match d with
    | .str s => some s
    | _ => none
  | _ => []

/-- The texts that the function of a test returns for the first record, and those that are shown of it
when all records have been tested, if no record is left out. -/
def firstTexts (i : Inputs) : List (List String) :=
  match lower i.scriptText with
  | .error _ => []
  | .ok code => match exportedFunction Execution.host i.kind code (.ofTraces i.traces) with
    | .error _ _ => []
    | .ok function loaded => match Trial.run Execution.host i.kind function loaded with
      | .error _ _ => []
      | .ok [] _ => []
      | .ok (o :: os) final => match (Execution.host).call function o.record loaded with
        | .error _ _ => []
        | .ok _ after =>
          if (o :: os).length ≤ i.settings.sampleSize then
            [textsOf (snapshot after.world o.value), textsOf (shownOutcome final o).value]
          else []

theorem printed_of_firstTexts {i : Inputs} {returned printed : List String}
    (h : i.firstTexts = [returned, printed]) : ∃ (function : Value) (loaded final after : Scene)
    (o : Outcome LiveRecord Value) (os : List (Outcome LiveRecord Value))
    (shown : Success ShownRecord Data), i.Passed function loaded final (o :: os) shown ∧
      (Execution.host).call function o.record loaded = .ok o.value after ∧
      textsOf (snapshot after.world o.value) = returned ∧ shownOutcome final o ∈ shown.samples ∧
      textsOf (shownOutcome final o).value = printed := by
  unfold firstTexts at h
  split at h
  · cases h
  next code lowered =>
  have exports := exportedFunction_cases Execution.host i.kind code (.ofTraces i.traces)
  split at h
  · cases h
  next function loaded exported =>
  rw [exported] at exports
  have tried := Trial.testAll_cases Execution.host i.kind function loaded.records loaded
  split at h
  · cases h
  · cases h
  next o os final tested =>
  have tested : Trial.testAll Execution.host i.kind function loaded.records loaded =
    .ok (o :: os) final := tested
  rw [tested] at tried
  obtain ⟨records, accepted⟩ := tried
  have passed := passed_of_accepts lowered exports records.symm accepted
    (.ofText "" 0 i.scriptText) ⟨#[], 0⟩ 0
  cases accepted with
  | cons called _ _ =>
    rw [called] at h
    dsimp only at h
    split at h
    · next few =>
      obtain ⟨rfl, rest⟩ := List.cons.inj h
      obtain ⟨rfl, _⟩ := List.cons.inj rest
      have all := Sampling.perm_of_places (Bench.places_perm few ⟨#[], 0⟩)
        (Bench.drawSamples_eq (o :: os) i.settings.sampleSize ⟨#[], 0⟩).1
      have drawn := List.mem_map_of_mem (f := shownOutcome final) (all.mem_iff.mpr (.head os))
      exact ⟨function, loaded, final, _, o, os, _, passed, called, rfl, drawn, rfl⟩
    · cases h

/-- What is printed for a record is not always what the function has returned for it: a later call may
have changed the list that it is. -/
theorem sharing_printed_late : ∃ (function : Value) (loaded final after : Scene)
    (o : Outcome LiveRecord Value) (os : List (Outcome LiveRecord Value))
    (shown : Success ShownRecord Data), sharing.Passed function loaded final (o :: os) shown ∧
      (Execution.host).call function o.record loaded = .ok o.value after ∧
      textsOf (snapshot after.world o.value) = ["t-0", ""] ∧ shownOutcome final o ∈ shown.samples ∧
      textsOf (shownOutcome final o).value = ["t-1", ""] :=
  printed_of_firstTexts (by decide +kernel)

end Inputs

end CommandLine

end RuleBench
