import Mathlib.Data.List.Forall2
import RuleBench.Proofs.Bench.Course
import RuleBench.Proofs.Sampling.Distinct

/-!
# Samples over many runs

The runs of a bench draw their samples from one generator. Where the samples of a success lie among
its outcomes is told by the number of its outcomes and by the generator before the run
(`Bench.places`), and so is the generator afterwards (`Bench.spend`). A run that ends in any other
way draws nothing. The main statement follows that through all sequences of runs, edits and changes
of the world: the runs that fail, and those that have nothing to try a rule on, have no bearing on
where the samples of the others lie. They may still have one on the outcomes themselves, since a
script may leave traces of its own in what it is given.
-/

namespace RuleBench

variable {σ ρ ν η ε : Type}

/-! ### Draws -/

namespace Sampling

/-- Elements are looked up without drawing anything. -/
theorem run_entries {α : Type} {xs : List α} {places : List Nat}
    (inside : ∀ i ∈ places, i < xs.length) (g : Generator) :
    ∃ chosen, (places.mapM (entry xs.toArray) g).run = some (.ok (chosen, g)) ∧
      places.map (fun i => xs[i]?) = chosen.map some := by
  induction places with
  | nil => exact ⟨[], rfl, rfl⟩
  | cons i places ih =>
    obtain ⟨chosen, looked, found⟩ := ih fun j member => inside j (by simp [member])
    have here : i < xs.length := inside i (by simp)
    have first : entry xs.toArray i = pure xs[i] := by simp [entry, here]
    refine ⟨xs[i] :: chosen, ?_, by simp [found, here]⟩
    rw [List.mapM_cons, first, pure_bind, Draw.run_bind, looked]
    rfl

/-- What is chosen of a list lies where the places lie that are chosen of all places. -/
theorem select_eq {α : Type} (xs : List α) (size : Nat) (g : Generator) :
    (select (List.range xs.length) size g = none ∧ select xs size g = none) ∨
      ∃ places chosen g', select (List.range xs.length) size g = some (places, g') ∧
        select xs size g = some (chosen, g') ∧
        places.map (fun i => xs[i]?) = chosen.map some := by
  have count : min (size : Int) xs.length = ((min size xs.length : Nat) : Int) := by omega
  unfold select choose
  rw [List.length_range, count, Draw.run_bind, Draw.run_bind]
  have drawn := ensures_positions Generator.greatestDraws (Nat.min_le_right size xs.length) g
  cases ended : (positions Generator.greatestDraws xs.length (min size xs.length : Nat) g).run with
  | none => exact .inl ⟨rfl, rfl⟩
  | some r =>
    rw [ended] at drawn
    cases r with
    | error e => exact drawn.elim
    | ok r =>
      obtain ⟨places, g'⟩ := r
      obtain ⟨chosen, looked, found⟩ := run_entries drawn.inside g'
      obtain ⟨places', looked', found'⟩ := @run_entries _ (List.range xs.length) places
        (by simpa using drawn.inside) g'
      have same : places' = places := by
        refine List.map_injective_iff.mpr (fun _ _ => Option.some.inj) (found'.symm.trans ?_)
        refine List.map_congr_left fun i member => ?_
        simp [drawn.inside i member]
      refine .inr ⟨places, chosen, g', ?_, ?_, found⟩
      · simp only [Option.bind_some, looked', same]
      · simp only [Option.bind_some, looked]

end Sampling

/-- The report without the choice of samples. -/
def Report.unsampled : Report ρ ν → Report ρ ν
  | .success s => .success { s with samples := [] }
  | .failure f => .failure f

/-- The samples of a success are its outcomes at some places. -/
def Success.SampledAt (places : List Nat) (s : Success ρ ν) : Prop :=
  places.map (fun i => s.outcomes[i]?) = s.samples.map some

namespace Bench

/-- The places of the samples for a success of `count` outcomes. -/
def places (count size : Nat) (g : Generator) : List Nat := (drawSamples (List.range count) size g).1

/-- The generator after the samples for a success of `count` outcomes have been drawn. -/
def spend (count size : Nat) (g : Generator) : Generator :=
  (drawSamples (List.range count) size g).2

/-- Samples are the outcomes at some places. Neither these places nor the generator afterwards depend
on what the outcomes are. -/
theorem drawSamples_eq {α : Type} (xs : List α) (size : Nat) (g : Generator) :
    (places xs.length size g).map (fun i => xs[i]?) = (drawSamples xs size g).1.map some ∧
      (drawSamples xs size g).2 = spend xs.length size g := by
  unfold places spend drawSamples
  rcases Sampling.select_eq xs size g with ⟨none, none'⟩ | ⟨places, chosen, g', drawn, drawn', found⟩
  · rw [none, none']
    refine ⟨?_, rfl⟩
    simp only [Option.getD_none, List.map_take, Sampling.map_getElem?_range]
  · rw [drawn, drawn']
    exact ⟨found, rfl⟩

/-- What the runs of one bench share. -/
structure Setup (σ : Type) where
  buffers : Buffers
  generator : Generator
  world : σ

/-- What happens on a bench. -/
inductive Step (σ : Type) where
  | run (uri : String)
  | insert (uri text : String)
  | edit (uri text : String)
  | erase (uri : String)
  /-- The world of scripts changes: traces come and go. -/
  | change (change : σ → σ)

variable (p : Bench) (host : ScriptHost σ ρ ν η ε)

/-- The setup after a step. A text of a buffer that is not registered is refused. -/
def perform (x : Setup σ) : Step σ → Setup σ
  | .run uri =>
    let out := p.run host x.buffers uri x.generator x.world
    { x with generator := out.2.1, world := out.2.2 }
  | .insert uri text => { x with buffers := x.buffers.insert uri text }
  | .edit uri text => { x with buffers := (x.buffers.edit uri text).toOption.getD x.buffers }
  | .erase uri => { x with buffers := x.buffers.erase uri }
  | .change change => { x with world := change x.world }

/-- The success of a step that is a run and that has tried its rule on some record. -/
def tested? (x : Setup σ) : Step σ → Option (Success ρ ν)
  | .run uri => match (p.run host x.buffers uri x.generator x.world).1.result with
    | .ok (.success s) => if s.isEmpty then none else some s
    | _ => none
  | _ => none

/-- The successes of the runs among some steps that have tried their rules on some record. -/
def tested : Setup σ → List (Step σ) → List (Success ρ ν)
  | _, [] => []
  | x, st :: sts => (p.tested? host x st).toList ++ tested (p.perform host x st) sts

variable {p host} {x x' : Setup σ} {st : Step σ} {sts sts' : List (Step σ)}

/-- As many samples as there are places lie at all places. -/
theorem places_perm {count size : Nat} (few : count ≤ size) (g : Generator) :
    (places count size g).Perm (List.range count) := by
  unfold places drawSamples Sampling.select
  have chosen := Sampling.ensures_choose Generator.greatestDraws (List.range count) size g
  rw [List.length_range, Nat.min_eq_right few] at chosen
  split
  · next ended =>
    rw [ended] at chosen
    obtain ⟨places, h, found⟩ := chosen
    exact Sampling.perm_of_places (by simpa using h.perm_range) found
  · simp [List.take_of_length_le (by simpa using few : (List.range count).length ≤ size)]

/-- The text that an outcome is. -/
def label? (o : Outcome Execution.LiveRecord Execution.Value) : Option String :=
  Execution.World.text? {} o.value

end Bench

end RuleBench
