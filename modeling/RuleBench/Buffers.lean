import RuleBench.Log
import RuleBench.Report

/-!
# Buffers

Source buffers by their identifiers. Every edit raises the revision of a buffer, so that an artifact
tells whether it still matches the text.
-/

namespace RuleBench

/-- A source text with the number of edits it has seen. -/
structure Buffer where
  text : String
  revision : Nat := 0
deriving Repr, DecidableEq

/-- All registered buffers, no identifier twice. -/
structure Buffers where
  entries : List (String × Buffer) := []
deriving Repr

/-- A buffer was used that is not registered. -/
structure NotRegistered where
  uri : String
deriving Repr, DecidableEq

def NotRegistered.message (e : NotRegistered) : String :=
  "Script '" ++ e.uri ++ "' is not registered with the compiler"

namespace Buffers

instance : Inhabited Buffers := ⟨{}⟩

def get? (bs : Buffers) (uri : String) : Option Buffer := bs.entries.lookup uri

def contains (bs : Buffers) (uri : String) : Bool := (bs.get? uri).isSome

def get (bs : Buffers) (uri : String) : Except NotRegistered Buffer :=
  match bs.get? uri with
  | some b => .ok b
  | none => .error ⟨uri⟩

/-- Puts a buffer under an identifier: in the place of the one that is there, else at the end. -/
def put (uri : String) (b : Buffer) : List (String × Buffer) → List (String × Buffer)
  | [] => [(uri, b)]
  | (u, old) :: rest => if u == uri then (u, b) :: rest else (u, old) :: put uri b rest

/-- Registers a text at revision zero, in place of any text under the same identifier. -/
def insert (bs : Buffers) (uri text : String) : Buffers := ⟨put uri ⟨text, 0⟩ bs.entries⟩

/-- Replaces the text of a buffer and raises its revision. -/
def edit (bs : Buffers) (uri text : String) : Except NotRegistered Buffers := do
  let b ← bs.get uri
  return ⟨put uri ⟨text, b.revision + 1⟩ bs.entries⟩

def erase (bs : Buffers) (uri : String) : Buffers := ⟨bs.entries.filter (·.1 != uri)⟩

/-- The text and revision that a compilation works on: those at the moment it is asked for. -/
structure Job where
  uri : String
  buffer : Buffer
deriving Repr, DecidableEq

def start (bs : Buffers) (uri : String) : Except NotRegistered Job :=
  (bs.get uri).map fun b => ⟨uri, b⟩

/-- The artifact of a job, whatever has happened to the buffer meanwhile. -/
def Job.finish (j : Job) : Artifact := .ofText j.uri j.buffer.revision j.buffer.text

/-- The artifact of the current text. -/
def artifact (bs : Buffers) (uri : String) : Except NotRegistered Artifact :=
  (bs.start uri).map Job.finish

theorem lookup_put (uri : String) (b : Buffer) (bs : List (String × Buffer)) (u : String) :
    (put uri b bs).lookup u = if u = uri then some b else bs.lookup u := by
  induction bs with
  | nil =>
    by_cases h : u = uri
    · simp [put, h]
    · simp [put, List.lookup_cons, beq_false_of_ne h, h]
  | cons e rest ih =>
    obtain ⟨k, old⟩ := e
    by_cases hk : k = uri
    · subst hk
      by_cases h : u = k
      · simp [put, h]
      · simp [put, List.lookup_cons, beq_false_of_ne h, h]
    · by_cases h : u = k
      · subst h
        simp [put, hk]
      · simp [put, List.lookup_cons, hk, beq_false_of_ne h, ih]

/-! ### What is noted -/

def insertNote (uri : String) : LogRecord := ⟨.debug, .buffers, "Registered script " ++ uri⟩

def eraseNote (uri : String) : LogRecord := ⟨.debug, .buffers, "Unregistered script " ++ uri⟩

def Job.startNote (j : Job) : LogRecord := ⟨.info, .buffers,
  "Compiling script " ++ j.uri ++ " (revision " ++ toString j.buffer.revision ++ ")"⟩

def finishNotes (a : Artifact) : List LogRecord :=
  if a.ok then []
  else [⟨.info, .buffers, "Compilation of " ++ a.uri ++ " produced " ++
    toString a.diagnostics.length ++ " diagnostic(s)"⟩]

end Buffers

end RuleBench
