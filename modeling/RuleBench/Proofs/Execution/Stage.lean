import Mathlib.Data.List.Induction
import RuleBench.Proofs.Execution.Follows
import RuleBench.Proofs.Execution.Shape
import RuleBench.Proofs.Trace.Read

/-!
# The traces on the stage

Simple data becomes values without an error, and only by putting objects on the heap, so that what
was there before stays as it was (`Action.Adds`). A scene that is made of traces therefore holds the
first trace of every identifier, in the order in which they come, with a record for every span.
-/

namespace RuleBench

/-- The traces without those whose identifier has come before. -/
def Trace.firsts : List Trace → List Trace
  | [] => []
  | t :: ts => t :: (firsts ts).filter fun u => u.id ≠ t.id

/-- How many spans the traces have that are kept. -/
def Trace.spanCount (ts : List Trace) : Nat := ((firsts ts).flatMap fun t => t.spans.items).length

theorem Trace.firsts_concat (ts : List Trace) (t : Trace) : firsts (ts ++ [t]) =
    if t.id ∈ (firsts ts).map Trace.id then firsts ts else firsts ts ++ [t] := by
  induction ts with
  | nil => rfl
  | cons u ts ih =>
    rw [List.cons_append, firsts, ih, firsts]
    by_cases same : t.id = u.id
    · split <;> simp [same]
    · by_cases inside : t.id ∈ (firsts ts).map Trace.id
      · have inside' := inside
        rw [List.mem_map] at inside'
        obtain ⟨first, there, id⟩ := inside'
        have kept : first.id ≠ u.id := id ▸ same
        rw [if_pos inside, if_pos]
        exact List.mem_map.mpr ⟨first, List.mem_cons_of_mem _ (by simp [there, kept]), id⟩
      · rw [if_neg inside, if_neg, List.filter_append]
        · simp [same]
        · rw [List.map_cons, List.mem_cons, not_or]
          exact ⟨same, fun h => inside ((List.filter_sublist.map Trace.id).subset h)⟩

namespace Execution

/-! ### Heaps that grow -/

/-- Everything on the heap of the first world is on that of the second one, unchanged. -/
def World.Grows (w w' : World) : Prop := ∀ ⦃a o⦄, w.get? a = some o → w'.get? a = some o

theorem World.Grows.trans {u v w : World} (h : u.Grows v) (h' : v.Grows w) : u.Grows w :=
  fun _ _ found => h' (h found)

theorem World.grows_push (w : World) (o : Obj) : w.Grows (w.push o) := fun a o' found => by
  have old : a ≠ w.heap.size := by
    rintro rfl
    simp [World.get?] at found
  rw [World.get?_push_of_ne old, found]

section

variable {α β : Type} {w : World} {P Q : α → World → Prop}

/-- An action ends with a value of which something holds then, and leaves all objects as they are. -/
def Action.Adds (m : Action α) (w : World) (P : α → World → Prop) : Prop :=
  ∃ a w', m w = .done a w' ∧ w.Grows w' ∧ P a w'

/-- What holds of a value in a world goes on to hold when the heap grows. -/
def Lasts (P : α → World → Prop) : Prop := ∀ ⦃a w w'⦄, w.Grows w' → P a w → P a w'

namespace Action

theorem adds_pure {a : α} (h : P a w) : (pure a : Action α).Adds w P :=
  ⟨a, w, rfl, fun _ _ => id, h⟩

theorem Adds.bind {m : Action α} {f : α → Action β} {Q : β → World → Prop} (first : m.Adds w P)
    (next : ∀ a w', w.Grows w' → P a w' → (f a).Adds w' Q) : (m >>= f).Adds w Q := by
  obtain ⟨a, w₁, ended, grows, held⟩ := first
  obtain ⟨b, w₂, ended', grows', held'⟩ := next a w₁ grows held
  exact ⟨b, w₂, (bind_of_done ended).trans ended', grows.trans grows', held'⟩

theorem Adds.imp {m : Action α} (h : m.Adds w P) (weaker : ∀ a w', P a w' → Q a w') : m.Adds w Q := by
  obtain ⟨a, w', ended, grows, held⟩ := h
  exact ⟨a, w', ended, grows, weaker a w' held⟩

/-- A new object lies where the value refers to. -/
theorem adds_new (o : Obj) (w : World) :
    (new o).Adds w fun v w' => ∃ a, v = .ref a ∧ w'.get? a = some o :=
  ⟨.ref w.heap.size, w.push o, rfl, w.grows_push o, _, rfl, World.get?_push_size⟩

theorem adds_mapM {f : β → Action α} {R : β → α → World → Prop} {bs : List β}
    (lasts : ∀ b, Lasts (R b)) (each : ∀ b ∈ bs, ∀ w, (f b).Adds w (R b)) (w : World) :
    (bs.mapM f).Adds w fun as w' => List.Forall₂ (fun b a => R b a w') bs as := by
  induction bs generalizing w with
  | nil => exact adds_pure .nil
  | cons b bs ih =>
    rw [List.mapM_cons]
    refine (each b (by simp) w).bind fun a w₁ _ first => ?_
    refine (ih (fun c inside => each c (by simp [inside])) w₁).bind fun as w₂ grows rest => ?_
    exact adds_pure (.cons (lasts b grows first) rest)

end Action

end

open RuleBench.Execution.Action

/-! ### Data -/

/-- A value that nothing is said of. -/
def Any {α : Type} : α → World → Prop := fun _ _ => True

theorem Any.lasts {α : Type} : Lasts (Any (α := α)) := fun _ _ _ _ => id

mutual

theorem adds_ofData : ∀ (d : Data), d.isSimple → ∀ w, (ofData d).Adds w Any
  | .none, _, _ => adds_pure trivial
  | .bool _, _, _ => adds_pure trivial
  | .int _, _, _ => adds_pure trivial
  | .float _, _, _ => adds_pure trivial
  | .str _, _, _ => adds_pure trivial
  | .bytes _, _, _ => adds_pure trivial
  | .list xs, h, w => (adds_ofItems xs h w).bind fun _ w' _ _ => (adds_new _ w').imp fun _ _ _ => trivial
  | .tuple xs, h, w => (adds_ofItems xs h w).bind fun _ _ _ _ => adds_pure trivial
  | .set xs, h, w => (adds_ofItems xs h w).bind fun _ w' _ _ => (adds_new _ w').imp fun _ _ _ => trivial
  | .dict es, h, w =>
    (adds_ofEntries es h w).bind fun _ w' _ _ => (adds_new _ w').imp fun _ _ _ => trivial
  | .sub .., h, _ => nomatch h
  | .object _, h, _ => nomatch h
  | .classObject _, h, _ => nomatch h
  | .other _, h, _ => nomatch h

theorem adds_ofItems : ∀ (xs : List Data), Data.areSimple xs → ∀ w, (ofItems xs).Adds w Any
  | [], _, _ => adds_pure trivial
  | x :: xs, h, w => by
    simp only [Data.areSimple, Bool.and_eq_true] at h
    exact (adds_ofData x h.1 w).bind fun _ w' _ _ =>
      (adds_ofItems xs h.2 w').bind fun _ _ _ _ => adds_pure trivial

theorem adds_ofEntries : ∀ (es : List (Data × Data)), Data.areSimpleEntries es →
    ∀ w, (ofEntries es).Adds w Any
  | [], _, _ => adds_pure trivial
  | (k, v) :: es, h, w => by
    simp only [Data.areSimpleEntries, Bool.and_eq_true] at h
    exact (adds_ofData k h.1.1 w).bind fun _ w₁ _ _ => (adds_ofData v h.1.2 w₁).bind fun _ w₂ _ _ =>
      (adds_ofEntries es h.2 w₂).bind fun _ _ _ _ => adds_pure trivial

end

theorem adds_ofMapping {m : Mapping} (simple : m.IsSimple) (w : World) :
    (ofMapping m).Adds w Any := by
  refine (adds_mapM (fun _ => Any.lasts) (fun e inside w => ?_) w).bind fun _ w' _ _ =>
    (adds_new _ w').imp fun _ _ _ => trivial
  exact (adds_ofData e.2 (simple e inside) w).bind fun _ _ _ _ => adds_pure trivial

theorem adds_ofOption {α : Type} {f : α → Action Value} {o : Option α}
    (each : ∀ a ∈ o, ∀ w, (f a).Adds w Any) (w : World) : (ofOption f o).Adds w Any := by
  cases o with
  | none => exact adds_pure trivial
  | some a => exact each a rfl w

/-! ### Records -/

/-- A value contains items: as a tuple, or as a list on the heap. -/
def World.Lists (w : World) (v : Value) (vs : List Value) : Prop :=
  v = .tuple vs ∨ ∃ a, v = .ref a ∧ w.get? a = some (.list vs.toArray)

theorem World.Lists.itemsNow {w : World} {v : Value} {vs : List Value} (h : w.Lists v vs) :
    w.itemsNow v = vs := by
  rcases h with rfl | ⟨a, rfl, found⟩
  · rfl
  · have here : w.get a = .list vs.toArray := by
      unfold World.get? at found
      simp [World.get, found]
    simp [World.itemsNow, World.content, World.obj?, here, found]

theorem World.Lists.grows {w w' : World} (grows : w.Grows w') {v : Value} {vs : List Value}
    (h : w.Lists v vs) : w'.Lists v vs :=
  h.imp_right fun ⟨a, ref, found⟩ => ⟨a, ref, grows found⟩

theorem adds_ofSequence {α : Type} {f : α → Action Value} {R : α → Value → World → Prop}
    {s : Validation.Items α} (lasts : ∀ a, Lasts (R a)) (each : ∀ a ∈ s.items, ∀ w, (f a).Adds w (R a))
    (w : World) : (ofSequence s f).Adds w fun v w' =>
      ∃ vs, w'.Lists v vs ∧ List.Forall₂ (fun a x => R a x w') s.items vs := by
  refine (adds_mapM lasts each w).bind fun vs w₁ _ held => ?_
  cases s.form with
  | list =>
    obtain ⟨v, w₂, ended, grows, a, ref, found⟩ := adds_new (.list vs.toArray) w₁
    exact ⟨v, w₂, ended, grows, vs, .inr ⟨a, ref, found⟩, held.imp fun a x => lasts a grows⟩
  | tuple => exact adds_pure ⟨vs, .inl rfl, held⟩

/-- A value is a record of a span. -/
def World.ShowsSpan (s : Span) (v : Value) (w : World) : Prop :=
  ∃ a fields, v = .ref a ∧ w.get? a = some (.record "Span" fields []) ∧
    fields.lookup "id" = some (.str s.id)

theorem World.ShowsSpan.lasts (s : Span) : Lasts (ShowsSpan s) :=
  fun _ _ _ grows ⟨a, fields, ref, found, id⟩ => ⟨a, fields, ref, grows found, id⟩

theorem World.ShowsSpan.identifier {s : Span} {v : Value} {w : World} (h : w.ShowsSpan s v) :
    w.identifier v = s.id := by
  obtain ⟨a, fields, rfl, found, id⟩ := h
  simp [World.identifier, World.obj?, found, id]

theorem adds_ofSpan {s : Span} (simple : s.IsSimple) (w : World) :
    (ofSpan s).Adds w fun v w' => w'.ShowsSpan s v := by
  have anything {α : Type} (_ : α) : Lasts (Any (α := Value)) := Any.lasts
  refine (adds_ofSequence anything (fun r _ w => (adds_new _ w).imp fun _ _ _ => trivial) w).bind
    fun references w₁ _ _ => (adds_ofMapping simple.tags w₁).bind fun tags w₂ _ _ => ?_
  refine (adds_ofSequence anything (fun l inside w => ?_) w₂).bind fun logs w₃ _ _ => ?_
  · exact (adds_ofMapping (simple.logs l inside) w).bind fun _ w' _ _ =>
      (adds_new _ w').imp fun _ _ _ => trivial
  refine (adds_ofOption (fun p inside w => ?_) w₃).bind fun process w₄ _ _ => ?_
  · exact (adds_ofMapping (simple.process p inside) w).bind fun _ w' _ _ =>
      (adds_new _ w').imp fun _ _ _ => trivial
  have ofEndpoint (e : Endpoint) (w : World) : (ofEndpoint e).Adds w Any :=
    (adds_new _ w).imp fun _ _ _ => trivial
  refine (adds_ofOption (fun e _ => ofEndpoint e) w₄).bind fun own w₅ _ _ =>
    (adds_ofOption (fun e _ => ofEndpoint e) w₅).bind fun remote w₆ _ _ => ?_
  exact (adds_new _ w₆).imp fun v w' ⟨a, ref, found⟩ => ⟨a, _, ref, found, rfl⟩

/-- A value is a record of a trace, with a record for each of its spans. -/
def World.ShowsTrace (t : Trace) (v : Value) (w : World) : Prop :=
  ∃ a spans vs, v = .ref a ∧
    w.get? a = some (.record "Trace" [("id", .str t.id), ("spans", spans)] []) ∧
    w.Lists spans vs ∧ List.Forall₂ (fun s x => w.ShowsSpan s x) t.spans.items vs

theorem World.ShowsTrace.lasts (t : Trace) : Lasts (ShowsTrace t) :=
  fun _ _ _ grows ⟨a, spans, vs, ref, found, lists, shown⟩ => ⟨a, spans, vs, ref, grows found,
    lists.grows grows, shown.imp fun s _ => ShowsSpan.lasts s grows⟩

theorem adds_ofTrace {t : Trace} (simple : t.IsSimple) (w : World) :
    (ofTrace t).Adds w fun v w' => w'.ShowsTrace t v := by
  refine (adds_ofSequence World.ShowsSpan.lasts (fun s inside => adds_ofSpan (simple s inside)) w).bind
    fun spans w₁ _ ⟨vs, lists, shown⟩ => ?_
  obtain ⟨v, w₂, ended, grows, a, ref, found⟩ := adds_new
    (.record "Trace" [("id", .str t.id), ("spans", spans)] []) w₁
  exact ⟨v, w₂, ended, grows, a, spans, vs, ref, found, lists.grows grows,
    shown.imp fun s _ => World.ShowsSpan.lasts s grows⟩

/-! ### Scenes -/

namespace Scene

/-- What a record is called. -/
def nameOf (s : Scene) (r : LiveRecord) : String :=
  s.memory.world.identifier r.trace ++ "/" ++ s.memory.world.identifier r.span

/-- The store holds these traces, each under its identifier. -/
def Stages (s : Scene) (ts : List Trace) : Prop :=
  List.Forall₂ (fun t e => e.1 = t.id ∧ s.memory.world.ShowsTrace t e.2) ts s.store.entries

variable {s : Scene} {ts : List Trace}

theorem Stages.ids (h : s.Stages ts) : s.store.ids = ts.map Trace.id := by
  unfold Stages at h
  unfold TraceStore.ids
  generalize s.store.entries = es at h
  induction h with
  | nil => rfl
  | cons here _ ih => exact congrArg₂ List.cons here.1 ih

/-- A trace whose identifier is new is put behind the others. -/
theorem Stages.withTrace (h : s.Stages ts) {t : Trace} (simple : t.IsSimple) :
    (s.withTrace t).Stages (if t.id ∈ ts.map Trace.id then ts else ts ++ [t]) := by
  unfold Scene.withTrace
  by_cases taken : t.id ∈ ts.map Trace.id
  · have known : s.store.contains t.id = true := by simpa [TraceStore.contains, h.ids] using taken
    simpa only [known, if_pos taken, if_true] using h
  · have fresh : s.store.contains t.id = false := by simpa [TraceStore.contains, h.ids] using taken
    obtain ⟨v, w, ended, grows, shown⟩ := adds_ofTrace simple s.memory.world.atRest
    have performed : Scene.perform (ofTrace t) s =
        .ok v { s with memory := ⟨w, s.memory.waiting, s.memory.notes⟩ } := by
      simp only [Scene.perform, Memory.perform_of_done ended]
    simp only [fresh, if_neg taken, Bool.false_eq_true, if_false, performed]
    unfold Stages
    rw [TraceStore.entries_add_of_not_mem fresh]
    refine List.rel_append (h.imp fun u e here => ⟨here.1, ?_⟩) (.cons ⟨rfl, shown⟩ .nil)
    exact World.ShowsTrace.lasts u grows here.2

/-- A scene holds the first of the traces that share an identifier. -/
theorem stages_ofTraces (simple : ∀ t ∈ ts, t.IsSimple) : (ofTraces ts).Stages (Trace.firsts ts) := by
  induction ts using List.reverseRecOn with
  | nil => exact .nil
  | append_singleton ts t ih =>
    have before := ih fun u inside => simple u (by simp [inside])
    have added := before.withTrace (simple t (by simp))
    rwa [Trace.firsts_concat, ofTraces, List.foldl_append]

/-- The records of a scene are those of its traces, in order. -/
theorem Stages.names (h : s.Stages ts) : s.records.map s.nameOf =
    ts.flatMap fun t => t.spans.items.map fun sp => t.id ++ "/" ++ sp.id := by
  unfold Stages at h
  unfold records TraceStore.traces
  generalize s.store.entries = es at h
  induction h with
  | nil => rfl
  | @cons t e ts es here _ ih =>
    obtain ⟨a, spans, vs, ref, found, lists, shown⟩ := here.2
    have record : s.memory.world.obj? e.2 =
        some (.record "Trace" [("id", .str t.id), ("spans", spans)] []) := by rw [ref]; exact found
    have id : s.memory.world.identifier e.2 = t.id := by
      simp [World.identifier, record]
    have field : List.lookup "spans" [("id", Value.str t.id), ("spans", spans)] = some spans := rfl
    rw [List.map_cons, List.flatMap_cons, List.flatMap_cons, List.map_append, ih]
    refine congrArg (· ++ _) ?_
    simp only [record, field, Option.getD_some, lists.itemsNow, List.map_map]
    clear lists
    generalize t.spans.items = sps at shown
    induction shown with
    | nil => rfl
    | @cons sp x _ _ first _ ih =>
      refine congrArg₂ List.cons ?_ ih
      simp only [Function.comp_apply, nameOf, id, first.identifier]

/-- A scene has one record for each span of the traces that are kept. -/
theorem length_records_ofTraces (simple : ∀ t ∈ ts, t.IsSimple) :
    (ofTraces ts).records.length = Trace.spanCount ts := by
  have names := congrArg List.length (stages_ofTraces simple).names
  simpa [Trace.spanCount, List.length_flatMap] using names

end Scene

end Execution

end RuleBench
