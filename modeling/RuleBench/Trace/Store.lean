import RuleBench.Log

/-!
# Stores of traces

The traces loaded for inspection, in the order in which they were added, each under an identifier of
its own.
-/

namespace RuleBench

/-- Traces under their identifiers, no identifier twice. -/
structure TraceStore (τ : Type) where
  entries : List (String × τ) := []
  nodup : (entries.map (·.1)).Nodup := by simp

namespace TraceStore

variable {τ : Type}

instance : Inhabited (TraceStore τ) := ⟨{}⟩

def ids (s : TraceStore τ) : List String := s.entries.map (·.1)

def contains (s : TraceStore τ) (id : String) : Bool := s.ids.contains id

def get? (s : TraceStore τ) (id : String) : Option τ := s.entries.lookup id

def traces (s : TraceStore τ) : List τ := s.entries.map (·.2)

theorem not_mem_ids {s : TraceStore τ} {id : String} (h : s.contains id = false) : id ∉ s.ids := by
  simpa [contains] using h

/-- Adds a trace at the end; one whose identifier is taken changes nothing. -/
def add (s : TraceStore τ) (id : String) (trace : τ) : TraceStore τ :=
  if h : s.contains id then s
  else
    { entries := s.entries ++ [(id, trace)]
      nodup := by
        have fresh := not_mem_ids (Bool.eq_false_iff.mpr h)
        rw [List.map_append, List.nodup_append]
        refine ⟨s.nodup, by simp, ?_⟩
        intro a ha b hb
        simp only [List.map_cons, List.map_nil, List.mem_singleton] at hb
        intro eq
        exact fresh (by rw [← hb, ← eq]; exact ha) }

/-- Removes the trace with an identifier, if there is one. -/
def remove (s : TraceStore τ) (id : String) : TraceStore τ where
  entries := s.entries.filter (·.1 != id)
  nodup := (List.filter_sublist.map _).nodup s.nodup

/-- What is noted when a trace is added. -/
def addNotes (s : TraceStore τ) (id : String) : List LogRecord :=
  if s.contains id then [⟨.debug, .traces, "Trace " ++ id ++ " is already on the stage"⟩] else []

/-- What is noted when traces with these identifiers are added to an empty store. -/
def repetitionNotes (ids : List String) : List LogRecord :=
  (ids.foldl (fun (s, notes) id => (add s id (), notes ++ addNotes s id))
    (({}, []) : TraceStore Unit × List LogRecord)).2

@[simp] theorem entries_add_of_not_mem {s : TraceStore τ} {id : String} {trace : τ}
    (h : s.contains id = false) : (s.add id trace).entries = s.entries ++ [(id, trace)] := by
  simp [add, h]

@[simp] theorem add_of_mem {s : TraceStore τ} {id : String} {trace : τ} (h : s.contains id = true) :
    s.add id trace = s := by
  simp [add, h]

@[simp] theorem entries_remove (s : TraceStore τ) (id : String) :
    (s.remove id).entries = s.entries.filter (·.1 != id) := rfl

end TraceStore

end RuleBench
