import RuleBench.Buffers
import RuleBench.Settings
import RuleBench.Sampling.Choice
import RuleBench.Rule.Export

/-!
# Test runs

A run goes from the artifact of a buffer to a report: failures that the script causes are reports
too. Only an error that passes through leaves a run without one. Samples are drawn for a success and
for nothing else, so that failing runs leave the generator alone.
-/

namespace RuleBench

/-- How far a test has got. -/
inductive RunState where
  | idle
  | compiling
  | compileFailed
  | synthesizing
  | synthesisFailed
  | executing
  | executionFailed
  | tested
deriving Repr, DecidableEq

namespace RunState

def name : RunState → String
  | idle => "idle"
  | compiling => "compiling"
  | compileFailed => "compile-failed"
  | synthesizing => "synthesizing"
  | synthesisFailed => "synthesis-failed"
  | executing => "executing"
  | executionFailed => "execution-failed"
  | tested => "tested"

end RunState

/-- What a run needs besides the world of scripts: the kind of rule and how many outcomes are
shown. -/
structure Bench where
  kind : RuleKind
  settings : Settings := {}

/-- How a run ends. -/
structure Conclusion (ρ ν ε : Type) where
  /-- The states gone through, the last one last. -/
  states : List RunState
  notes : List LogRecord
  /-- The report, or the error that passed through. -/
  result : Except ε (Report ρ ν)

/-- Why a run ends without a report. -/
inductive RunError (ε : Type) where
  | notRegistered (cause : NotRegistered)
  | escaped (error : ε)

namespace Bench

variable {σ ρ ν η ε : Type}

/-- The generator of samples at the start. Without a seed any start will do. -/
def generator (p : Bench) : Generator := .ofSeed (p.settings.seed.getD 0)

/-- Draws at most `size` outcomes to be shown. -/
def drawSamples {α : Type} (outcomes : List α) (size : Nat) (g : Generator) :
    List α × Generator :=
  (Sampling.select outcomes size g).getD (outcomes.take size, g)

def exportFailedNote (uri message : String) : LogRecord :=
  ⟨.info, .runs, "Synthesis of " ++ uri ++ " failed: " ++ message⟩

def executionFailedNote (uri message : String) : LogRecord :=
  ⟨.info, .runs, "Execution of " ++ uri ++ " failed: " ++ message⟩

def passedNote (uri : String) (count : Nat) : LogRecord :=
  ⟨.info, .runs, "Test of " ++ uri ++ " passed on " ++ toString count ++ " span(s)"⟩

/-- Tests a function and reports; the last part of a run. -/
def execute (p : Bench) (host : ScriptHost σ ρ ν η ε) (a : Artifact) (function : ν)
    (g : Generator)
    (s : σ) : Conclusion ρ ν ε × Generator × σ :=
  let start := Trial.startNote p.kind (host.records s).length
  match Trial.run host p.kind function s with
  | .ok outcomes s =>
    let (samples, g) := drawSamples outcomes p.settings.sampleSize g
    let success : Success ρ ν := ⟨a, function, outcomes, samples, a.revision⟩
    (⟨[.executing, .tested], [start, passedNote a.uri outcomes.length], .ok (.success success)⟩,
      g, s)
  | .error stop s =>
    let notes := start :: stop.notes host p.kind s
    match stop.failure p.kind with
    | .error e => (⟨[.executing], notes, .error e⟩, g, s)
    | .ok f =>
      (⟨[.executing, .executionFailed], notes ++ [executionFailedNote a.uri f.message],
        .ok (.failure { f with revision := a.revision })⟩, g, s)

/-- Puts what came earlier in a run in front. -/
def Conclusion.after (states : List RunState) (notes : List LogRecord)
    (c : Conclusion ρ ν ε × Generator × σ) : Conclusion ρ ν ε × Generator × σ :=
  ({ c.1 with states := states ++ c.1.states, notes := notes ++ c.1.notes }, c.2)

/-- Goes from an artifact to a report. -/
def conclude (p : Bench) (host : ScriptHost σ ρ ν η ε) (a : Artifact) (g : Generator) (s : σ) :
    Conclusion ρ ν ε × Generator × σ :=
  if !a.ok then (⟨[.compileFailed], [], .ok (.failure (.ofArtifact a))⟩, g, s)
  else match exportedFunction host p.kind a.code s with
    | .ok function s =>
      Conclusion.after [.synthesizing] [exportNote p.kind] (p.execute host a function g s)
    | .error stop s =>
      match stop.failure p.kind with
      | .error e => (⟨[.synthesizing], stop.notes, .error e⟩, g, s)
      | .ok f =>
        (⟨[.synthesizing, .synthesisFailed], stop.notes ++ [exportFailedNote a.uri f.message],
          .ok (.failure { f with revision := a.revision })⟩, g, s)

/-- Tests the current text of a buffer. -/
def run (p : Bench) (host : ScriptHost σ ρ ν η ε) (buffers : Buffers) (uri : String)
    (g : Generator) (s : σ) : Conclusion ρ ν (RunError ε) × Generator × σ :=
  match buffers.start uri with
  | .error cause => (⟨[.compiling], [], .error (.notRegistered cause)⟩, g, s)
  | .ok job =>
    let a := job.finish
    let (c, g, s) := p.conclude host a g s
    let notes := job.startNote :: Buffers.finishNotes a ++ c.notes
    (⟨.compiling :: c.states, notes, c.result.mapError .escaped⟩, g, s)

end Bench

end RuleBench
