import RuleBench.Script.Lowering

/-!
# Reports

What a test of a rule ends with: the kind of failure with its wording, or the outcome for every
record. Records, values and functions are left open, so that reports speak of live values and of
data alike.
-/

namespace RuleBench

/-- A defect of a source text, with its place where it has one. -/
structure Diagnostic where
  message : String
  line : Option Int := none
  column : Option Int := none
deriving Repr, DecidableEq

namespace Diagnostic

/-- A column counts only behind a line. -/
def text (d : Diagnostic) : String :=
  match d.line, d.column with
  | none, _ => d.message
  | some l, none => "line " ++ toString l ++ ": " ++ d.message
  | some l, some c => "line " ++ toString l ++ ", column " ++ toString c ++ ": " ++ d.message

def ofLoweringError (e : Script.LoweringError) : Diagnostic :=
  ⟨e.message, e.place?.map fun p => (p.1 : Int), e.place?.map fun p => (p.2 : Int)⟩

end Diagnostic

/-- What one compilation of a buffer made of its text. -/
structure Artifact where
  uri : String
  revision : Nat
  source : String
  code : String
  diagnostics : List Diagnostic := []
deriving Repr, DecidableEq

namespace Artifact

/-- Code without diagnostics can run. -/
def ok (a : Artifact) : Bool := a.diagnostics.isEmpty

/-- The artifact of a text. -/
def ofText (uri : String) (revision : Nat) (text : String) : Artifact :=
  match Script.lower text with
  | .ok code => ⟨uri, revision, text, code, []⟩
  | .error e => ⟨uri, revision, text, "", [.ofLoweringError e]⟩

@[simp] theorem uri_ofText (uri : String) (revision : Nat) (text : String) :
    (ofText uri revision text).uri = uri := by
  unfold ofText
  split <;> rfl

@[simp] theorem source_ofText (uri : String) (revision : Nat) (text : String) :
    (ofText uri revision text).source = text := by
  unfold ofText
  split <;> rfl

@[simp] theorem revision_ofText (uri : String) (revision : Nat) (text : String) :
    (ofText uri revision text).revision = revision := by
  unfold ofText
  split <;> rfl

end Artifact

inductive FailureKind where
  | compileDiagnostics
  | missingSymbol
  | notCallable
  | evaluationError
  | contractViolation
deriving Repr, DecidableEq

namespace FailureKind

def name : FailureKind → String
  | compileDiagnostics => "compile-diagnostics"
  | missingSymbol => "missing-symbol"
  | notCallable => "not-callable"
  | evaluationError => "evaluation-error"
  | contractViolation => "contract-violation"

def all : List FailureKind :=
  [compileDiagnostics, missingSymbol, notCallable, evaluationError, contractViolation]

def find? (name : String) : Option FailureKind := all.find? fun k => k.name == name

end FailureKind

/-- The result of a test that did not pass, worded as it is shown. -/
structure Failure where
  kind : FailureKind
  message : String
  description : Option String := none
  revision : Nat := 0
  diagnostics : List Diagnostic := []
  recordId : Option String := none
  actualType : Option String := none
deriving Repr, DecidableEq

/-- The failure of an artifact that cannot run. -/
def Failure.ofArtifact (a : Artifact) : Failure where
  kind := .compileDiagnostics
  message := "Compilation failed"
  description := some ("\n".intercalate (a.diagnostics.map Diagnostic.text))
  revision := a.revision
  diagnostics := a.diagnostics

/-- What a rule function returned for a record. -/
structure Outcome (ρ ν : Type) where
  record : ρ
  value : ν
deriving Repr, DecidableEq

/-- The result of a test that passed. -/
structure Success (ρ ν : Type) where
  artifact : Artifact
  function : ν
  outcomes : List (Outcome ρ ν)
  samples : List (Outcome ρ ν) := []
  revision : Nat := 0

namespace Success

variable {ρ ν : Type}

/-- There was no span to try the rule on. -/
def isEmpty (s : Success ρ ν) : Bool := s.outcomes.isEmpty

end Success

/-- The result of a test. -/
inductive Report (ρ ν : Type) where
  | failure (failure : Failure)
  | success (success : Success ρ ν)

namespace Report

variable {ρ ν : Type}

def revision : Report ρ ν → Nat
  | failure f => f.revision
  | success s => s.revision

end Report

end RuleBench
