import RuleBench.Proofs.Script.Resolution
import RuleBench.Proofs.Script.Silenced

/-!
# Blocks that do not tell what is annotated

That a name is annotated matters while a script is read: it must not be declared to belong elsewhere
afterwards. Apart from that the name is assigned to like any other. So a silenced script that can be
read at all leaves the blocks that its lowered form leaves, but for this remark, and their names are
resolved alike.
-/

namespace RuleBench.Script

/-- An annotated name is an assigned one. -/
def Touch.unremarked : Touch → Touch
  | .annotated => .assigned
  | t => t

/-- What a block does with a name, without the remark that the name is annotated there. -/
def Usage.unremarked (u : Usage) : Usage := { u with annotated := false }

namespace Usage

variable (u : Usage)

@[simp] theorem parameter_unremarked : u.unremarked.parameter = u.parameter := rfl
@[simp] theorem assigned_unremarked : u.unremarked.assigned = u.assigned := rfl
@[simp] theorem used_unremarked : u.unremarked.used = u.used := rfl
@[simp] theorem annotated_unremarked : u.unremarked.annotated = false := rfl
@[simp] theorem global_unremarked : u.unremarked.global = u.global := rfl
@[simp] theorem nonlocal_unremarked : u.unremarked.nonlocal = u.nonlocal := rfl
@[simp] theorem iterated_unremarked : u.unremarked.iterated = u.iterated := rfl

end Usage

/-- A change of what is known that does the same without remarks. -/
def Unremarkable (f g : Usage → Usage) : Prop := ∀ u, (f u).unremarked = g u.unremarked

theorem unremarkable_touch (t : Touch) : Unremarkable (·.touch t) (·.touch t.unremarked) := fun u => by
  cases t <;> rfl

theorem unremarkable_declare (d : Declaration) : Unremarkable (·.declare d) (·.declare d) := fun u => by
  cases d <;> rfl

namespace NameTable

def unremarked (t : NameTable) : NameTable := t.map fun (n, u) => (n, u.unremarked)

@[simp] theorem get_unremarked (t : NameTable) (n : String) :
    t.unremarked.get n = (t.get n).unremarked := by
  induction t with
  | nil => rfl
  | cons x t ih =>
    obtain ⟨k, u⟩ := x
    simp only [get, unremarked, List.map_cons, List.lookup_cons] at ih ⊢
    cases n == k
    · exact ih
    · rfl

theorem unremarked_alter (t : NameTable) (n : String) {f g : Usage → Usage}
    (same : Unremarkable f g) : (t.alter n f).unremarked = t.unremarked.alter n g := by
  induction t with
  | nil => exact congrArg (fun u => [(n, u)]) (same .none)
  | cons x t ih =>
    obtain ⟨k, u⟩ := x
    simp only [alter, unremarked, List.map_cons] at ih ⊢
    cases k == n
    · exact congrArg ((k, u.unremarked) :: ·) ih
    · exact congrArg (fun v => (k, v) :: t.map fun (n, u) => (n, u.unremarked)) (same u)

end NameTable

mutual

def Block.unremarked : Block → Block
  | .mk kind names declarations inner =>
    .mk kind names.unremarked declarations (allUnremarked inner)

def allUnremarked : List Block → List Block
  | [] => []
  | b :: bs => b.unremarked :: allUnremarked bs

end

theorem allUnremarked_eq (bs : List Block) : allUnremarked bs = bs.map Block.unremarked := by
  induction bs with
  | nil => rfl
  | cons b bs ih => exact congrArg (b.unremarked :: ·) ih

namespace OpenBlock

def unremarked (b : OpenBlock) : OpenBlock :=
  { b with names := b.names.unremarked, inner := allUnremarked b.inner }

variable (b : OpenBlock)

@[simp] theorem kind_unremarked : b.unremarked.kind = b.kind := rfl
@[simp] theorem className_unremarked : b.unremarked.className = b.className := rfl
@[simp] theorem sources_unremarked : b.unremarked.sources = b.sources := rfl
@[simp] theorem names_unremarked : b.unremarked.names = b.names.unremarked := rfl

@[simp] theorem unremarked_start (kind : BlockKind) (className : Option String) (sources : Nat) :
    (start kind className sources).unremarked = start kind className sources := rfl

@[simp] theorem usage_unremarked (id : String) :
    b.unremarked.usage id = (b.usage id).unremarked := b.names.get_unremarked _

theorem unremarked_close : b.close.unremarked = b.unremarked.close := by
  simp only [close, unremarked, Block.unremarked, allUnremarked_eq, List.map_reverse]

theorem unremarked_enter (id : String) {f g : Usage → Usage} (same : Unremarkable f g) :
    (b.enter id f).unremarked = b.unremarked.enter id g := by
  have noted : (b.noted id f).unremarked = b.unremarked.noted id g := by
    simp only [OpenBlock.noted, usage_unremarked, ← same (b.usage id)]
    show _ = if b.inTarget then _ else _
    cases b.inTarget <;> rfl
  have names := b.names.unremarked_alter (privateName b.className id)
    (f := fun _ => b.noted id f) (g := fun _ => b.unremarked.noted id g) fun _ => noted
  simp only [enter, unremarked, names]

end OpenBlock

namespace OpenBlocks

def unremarked (s : OpenBlocks) : OpenBlocks :=
  ⟨s.current.unremarked, s.around.map OpenBlock.unremarked⟩

variable {s t : OpenBlocks} {later : Bool}

@[simp] theorem current_unremarked (s : OpenBlocks) : s.unremarked.current = s.current.unremarked := rfl

@[simp] theorem around_unremarked (s : OpenBlocks) :
    s.unremarked.around = s.around.map OpenBlock.unremarked := rfl

theorem unremarked_update (s : OpenBlocks) {f g : OpenBlock → OpenBlock}
    (same : (f s.current).unremarked = g s.current.unremarked) :
    (s.update f).unremarked = s.unremarked.update g := by
  simp only [update, unremarked, same]

theorem unremarked_of_touch {id : String} {u : Touch} {loc : Region}
    (ok : s.touch id u loc = .ok t) :
    t.unremarked = s.unremarked.update (·.enter id (·.touch u.unremarked)) := by
  obtain ⟨-, rfl⟩ := touch_eq_ok.mp ok
  exact s.unremarked_update (s.current.unremarked_enter id (unremarkable_touch u))

theorem unremarked_noteGlobal (n : String) (s : OpenBlocks) :
    (s.noteGlobal n).unremarked = s.unremarked.noteGlobal n := by
  obtain ⟨b, bs⟩ := s
  have noted (c : OpenBlock) : (c.names.alter n (·.declare .global)).unremarked =
      c.names.unremarked.alter n (·.declare .global) :=
    c.names.unremarked_alter n (unremarkable_declare .global)
  rcases List.eq_nil_or_concat bs with rfl | ⟨bs, outermost, rfl⟩
  · simp only [noteGlobal_nil, unremarked, OpenBlock.unremarked, noted, List.map_nil]
  · rw [List.concat_eq_append]
    simp only [noteGlobal_concat, unremarked, OpenBlock.unremarked, noted, List.map_append,
      List.map_cons, List.map_nil]

theorem unremarked_declared (s : OpenBlocks) (d : Declaration) (id : String) :
    (s.declared d id).unremarked = s.unremarked.declared d id := by
  have after : (s.update (·.enter id (·.declare d))).unremarked =
      s.unremarked.update (·.enter id (·.declare d)) :=
    s.unremarked_update (s.current.unremarked_enter id (unremarkable_declare d))
  simp only [declared]
  split
  · rw [unremarked_noteGlobal, after]
    rfl
  · exact after

theorem rebindDepth_unremarked (id : String) (loc : Region) (bs : List OpenBlock) :
    rebindDepth id loc (bs.map OpenBlock.unremarked) = rebindDepth id loc bs := by
  induction bs with
  | nil => rfl
  | cons b bs ih =>
    simp only [List.map_cons, rebindDepth, OpenBlock.kind_unremarked, OpenBlock.names_unremarked,
      NameTable.get_unremarked, Usage.iterated_unremarked, Usage.assigned_unremarked, ih]

theorem rebindDeclaration_unremarked (b : OpenBlock) (id : String) :
    rebindDeclaration b.unremarked id = rebindDeclaration b id := by
  simp only [rebindDeclaration, OpenBlock.kind_unremarked, OpenBlock.names_unremarked,
    NameTable.get_unremarked, Usage.global_unremarked]

theorem unremarked_reboundBlock (n : String) (b : OpenBlock) :
    (reboundBlock n b).unremarked = reboundBlock n b.unremarked := by
  have noted := b.names.unremarked_alter n (unremarkable_touch .assigned)
  unfold reboundBlock
  by_cases module : (b.kind == .module) = true
  · rw [if_pos module, if_pos (show (b.unremarked.kind == .module) = true from module)]
  · rw [if_neg module, if_neg (show ¬(b.unremarked.kind == .module) = true from module)]
    simp only [OpenBlock.unremarked, noted]
    rfl

theorem unremarked_sentOut (s : OpenBlocks) (depth : Nat) (target : OpenBlock) (id : String)
    (loc : Region) :
    (s.sentOut depth target id loc).unremarked =
      s.unremarked.sentOut depth target.unremarked id loc := by
  have modified (n : String) (i : Nat) (bs : List OpenBlock) :
      (bs.modify i (reboundBlock n)).map OpenBlock.unremarked =
        (bs.map OpenBlock.unremarked).modify i (reboundBlock n) := by
    induction bs generalizing i with
    | nil => cases i <;> rfl
    | cons b bs ih => cases i <;> simp [ih, unremarked_reboundBlock]
  simp only [sentOut, rebindDeclaration_unremarked, ← unremarked_declared]
  exact congrArg (OpenBlocks.mk _) (modified _ _ _)

theorem unremarked_of_rebindOutside {id : String} {loc : Region}
    (ok : s.rebindOutside id loc = .ok t) : ∃ depth,
      rebindDepth id loc (s.unremarked.current :: s.unremarked.around) = .ok depth ∧
        ((s.unremarked.around[depth - 1]? = none ∧ t.unremarked = s.unremarked) ∨
          ∃ target, s.unremarked.around[depth - 1]? = some target ∧
            t.unremarked = s.unremarked.sentOut depth target id loc) := by
  obtain ⟨depth, reached, found⟩ := rebindOutside_eq_ok.mp ok
  refine ⟨depth, (rebindDepth_unremarked id loc (s.current :: s.around)).trans reached, ?_⟩
  rw [around_unremarked, List.getElem?_map]
  rcases found with ⟨none, rfl⟩ | ⟨target, found, -, rfl⟩
  · exact .inl ⟨by rw [none]; rfl, rfl⟩
  · exact .inr ⟨target.unremarked, by rw [found]; rfl, unremarked_sentOut ..⟩

theorem unremarked_opened (kind : BlockKind) (s : OpenBlocks) :
    (s.opened kind).unremarked = s.unremarked.opened kind := by
  cases kind <;> rfl

theorem unremarked_closed (kind : BlockKind) (s : OpenBlocks) :
    (s.closed kind).unremarked = s.unremarked.closed kind := by
  obtain ⟨b, _ | ⟨outer, rest⟩⟩ := s
  · rfl
  · simp only [closed, unremarked, List.map_cons, OpenBlock.unremarked]
    split
    · rfl
    · simp only [allUnremarked, b.unremarked_close]
      rfl

theorem unremarked_rebindOutside {s' t' : OpenBlocks} (same : s.unremarked = s'.unremarked)
    {id : String} {loc : Region} (ok : s.rebindOutside id loc = .ok t)
    (ok' : s'.rebindOutside id loc = .ok t') : t.unremarked = t'.unremarked := by
  obtain ⟨depth, reached, found⟩ := unremarked_of_rebindOutside ok
  obtain ⟨depth', reached', found'⟩ := unremarked_of_rebindOutside ok'
  rw [← same] at reached' found'
  obtain rfl : depth = depth' := Except.ok.inj (reached.symm.trans reached')
  rcases found with ⟨none, after⟩ | ⟨target, found, after⟩ <;>
    rcases found' with ⟨none', after'⟩ | ⟨target', found', after'⟩
  · rw [after, after']
  · cases none.symm.trans found'
  · cases none'.symm.trans found
  · obtain rfl : target = target' := Option.some.inj (found.symm.trans found')
    rw [after, after']

theorem unremarked_of_declare {d : Declaration} {id : String} {loc : Region}
    (ok : s.step later (.declare d id loc) = .ok t) :
    t.unremarked = (s.unremarked.declared d id).update (·.record
      (privateName (s.unremarked.declared d id).current.className id) loc) := by
  simp only [step, bind, Except.bind] at ok
  split at ok
  · cases ok
  · split at ok
    · cases ok
    · next v declared =>
      obtain ⟨-, rfl⟩ := declare_eq_ok.mp declared
      cases ok
      rw [← unremarked_declared]
      rfl

theorem unremarked_updates {s s' : OpenBlocks} (same : s.unremarked = s'.unremarked)
    {f : OpenBlock → OpenBlock} (steady : ∀ b : OpenBlock, (f b).unremarked = f b.unremarked) :
    (s.update f).unremarked = (s'.update f).unremarked := by
  rw [s.unremarked_update (steady _), s'.unremarked_update (steady _), same]

theorem step_name_eq_ok {id : String} {u : Touch} {loc : Region} :
    s.step later (.name id u loc) = .ok t ↔ ∃ v, s.touch id u loc = .ok v ∧
      (if id == "super" && u == .used then
        match v.current.kind with
        | .function | .comprehension _ => v.touch "__class__" .used loc
        | _ => .ok v
      else .ok v) = .ok t := by
  simp only [step, bind, Except.bind]
  cases s.touch id u loc with
  | error e => simp
  | ok v =>
    simp only [Except.ok.injEq, exists_eq_left']
    rfl

/-- The same mention, or that of an annotated name and that of an assigned one. -/
inductive SameMention : Mention → Mention → Prop
  | refl (m : Mention) : SameMention m m
  | annotated (id : String) (simple : Bool) (loc whole : Region) :
    SameMention (.annotate id simple true loc whole) (.name id .assigned loc)

/-- What two readings have come to that differ in remarks differs in remarks. -/
theorem unremarked_step {s' t' : OpenBlocks} {m m' : Mention} (like : SameMention m m')
    (same : s.unremarked = s'.unremarked) (ok : s.step later m = .ok t)
    (ok' : s'.step later m' = .ok t') : t.unremarked = t'.unremarked := by
  have kind : s.current.kind = s'.current.kind := congrArg (·.current.kind) same
  cases like with
  | annotated id simple loc whole =>
    obtain ⟨-, after⟩ := step_annotate_eq_ok.mp ok
    rw [step_name_of_ne_used (by decide)] at ok'
    rw [unremarked_of_touch ok', ← same]
    cases simple with
    | true => exact unremarked_of_touch (u := .annotated) after
    | false => exact unremarked_of_touch (u := .assigned) after
  | refl m =>
    cases m with
    | enter kind =>
      by_cases opens : Opens later kind
      · rw [step_enter opens] at ok ok'
        cases ok
        cases ok'
        rw [unremarked_opened, unremarked_opened, same]
      · obtain ⟨rfl, rfl⟩ : kind = .hint ∧ later = false := by simpa [Opens] using opens
        cases ok
        cases ok'
        exact same
    | leave kind =>
      by_cases opens : Opens later kind
      · rw [step_leave opens] at ok ok'
        cases ok
        cases ok'
        rw [unremarked_closed, unremarked_closed, same]
      · obtain ⟨rfl, rfl⟩ : kind = .hint ∧ later = false := by simpa [Opens] using opens
        cases ok
        cases ok'
        exact same
    | name id u loc =>
      obtain ⟨v, first, ok⟩ := step_name_eq_ok.mp ok
      obtain ⟨v', first', ok'⟩ := step_name_eq_ok.mp ok'
      have between : v.unremarked = v'.unremarked := by
        rw [unremarked_of_touch first, unremarked_of_touch first', same]
      have kind : v.current.kind = v'.current.kind := congrArg (·.current.kind) between
      rw [← kind] at ok'
      by_cases super : (id == "super" && u == .used) = true
      · simp only [super, if_true] at ok ok'
        cases form : v.current.kind <;> simp only [form] at ok ok' <;> first
          | rw [unremarked_of_touch ok, unremarked_of_touch ok', between]
          | (cases ok; cases ok'; exact between)
      · rw [if_neg super] at ok ok'
        cases ok
        cases ok'
        exact between
    | declare d id loc => rw [unremarked_of_declare ok, unremarked_of_declare ok', same]
    | annotate id simple hasValue loc whole =>
      obtain ⟨-, after⟩ := step_annotate_eq_ok.mp ok
      obtain ⟨-, after'⟩ := step_annotate_eq_ok.mp ok'
      cases simple with
      | true =>
        rw [unremarked_of_touch (u := .annotated) after,
          unremarked_of_touch (u := .annotated) after', same]
      | false =>
        cases hasValue with
        | true =>
          rw [unremarked_of_touch (u := .assigned) after,
            unremarked_of_touch (u := .assigned) after', same]
        | false =>
          obtain rfl : t = s := after
          obtain rfl : t' = s' := after'
          exact same
    | rebind id loc whole =>
      simp only [step, rebind] at ok ok'
      rw [← kind] at ok'
      split at ok
      · cases ok
      · split at ok'
        · cases ok'
        · cases form : s.current.kind <;> simp only [form] at ok ok' <;> first
            | exact unremarked_rebindOutside same ok ok'
            | (cases ok; cases ok'; exact same)
    | importAll loc | bareOnly what loc | yields loc =>
      simp only [step] at ok ok'
      split at ok <;> split at ok' <;> first
        | cases ok; done
        | cases ok'; done
        | (cases ok; cases ok'; exact same)
    | enterSource | leaveSource | enterTarget | leaveTarget =>
      cases ok
      cases ok'
      exact unremarked_updates same fun _ => rfl
    | suspends =>
      cases ok
      cases ok'
      exact same

/-- The block of an annotation that says nothing leaves no trace. -/
theorem read_hint (s : OpenBlocks) (ms : List Mention) :
    s.read later (.enter .hint :: .leave .hint :: ms) = s.read later ms := by
  cases later <;> rfl

theorem unremarked_read {s' t' : OpenBlocks} {ms ms' : List Mention} (h : Silenced ms ms')
    (same : s.unremarked = s'.unremarked) (ok : s.read later ms = .ok t)
    (ok' : s'.read later ms' = .ok t') : t.unremarked = t'.unremarked := by
  induction h generalizing s s' with
  | nil =>
    cases ok
    cases ok'
    exact same
  | same m _ ih =>
    obtain ⟨u, head, ok⟩ := read_cons_eq_ok.mp ok
    obtain ⟨u', head', ok'⟩ := read_cons_eq_ok.mp ok'
    exact ih (unremarked_step (.refl m) same head head') ok ok'
  | annotated id simple loc whole _ ih =>
    obtain ⟨u, head, ok⟩ := read_cons_eq_ok.mp ok
    obtain ⟨u', head', ok'⟩ := read_cons_eq_ok.mp ok'
    exact ih (unremarked_step (.annotated id simple loc whole) same head head') ok ok'
  | hint _ ih =>
    rw [read_hint] at ok
    exact ih same ok ok'

end OpenBlocks

namespace Block

theorem resolveNames_unremarked (bound : Option (List String)) (places : List (String × Region))
    (names : NameTable) :
    resolveNames bound places names.unremarked = resolveNames bound places names := by
  induction names with
  | nil => rfl
  | cons x names ih =>
    simp only [resolveNames, NameTable.unremarked, List.map_cons, List.mapM_cons] at ih ⊢
    rw [ih]
    rfl

mutual

/-- Names are resolved without regard to what is annotated. -/
theorem resolve_unremarked (bound : Option (List String)) : ∀ b : Block,
    b.unremarked.resolve bound = b.resolve bound
  | .mk kind names places inner => by
    simp only [Block.unremarked, resolve_eq, resolveNames_unremarked]
    congr 1
    funext resolved
    rw [resolveAll_unremarked _ inner]

theorem resolveAll_unremarked (bound : List String) : ∀ bs : List Block,
    resolveAll bound (allUnremarked bs) = resolveAll bound bs
  | [] => rfl
  | b :: bs => by
    simp only [allUnremarked, resolveAll, resolve_unremarked _ b, resolveAll_unremarked bound bs]

end

end Block

end RuleBench.Script
