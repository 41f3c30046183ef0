import RuleBench.Trace.Span

/-!
# Simple data

Data of which no part has a class of its own: numbers, texts and octets, and the containers of them.
Everything that is read from a JSON text is of this kind. Dumps leave it as it is.
-/

namespace RuleBench.Data

mutual

/-- No part of a value belongs to a declared class or is known by its type alone. -/
def isSimple : Data → Bool
  | list xs => areSimple xs
  | tuple xs => areSimple xs
  | set xs => areSimple xs
  | dict es => areSimpleEntries es
  | sub .. => false
  | object _ => false
  | classObject _ => false
  | other _ => false
  | _ => true

def areSimple : List Data → Bool
  | [] => true
  | x :: xs => isSimple x && areSimple xs

def areSimpleEntries : List (Data × Data) → Bool
  | [] => true
  | (k, v) :: es => isSimple k && isSimple v && areSimpleEntries es

end

theorem areSimple_iff {xs : List Data} : areSimple xs ↔ ∀ x ∈ xs, x.isSimple := by
  induction xs with
  | nil => simp [areSimple]
  | cons x xs ih => simp [areSimple, ih]

theorem areSimpleEntries_iff {es : List (Data × Data)} :
    areSimpleEntries es ↔ ∀ e ∈ es, e.1.isSimple ∧ e.2.isSimple := by
  induction es with
  | nil => simp [areSimpleEntries]
  | cons e es ih => simp [areSimpleEntries, ih]

/-- A simple value is its own content. -/
theorem content_of_isSimple {d : Data} (h : d.isSimple) : d.content = d := by
  cases d with
  | sub => simp [isSimple] at h
  | _ => rfl

/-! ### Dumps -/

theorem plainItems_eq (xs : List Data) : plainItems xs = xs.map plain := by
  induction xs with
  | nil => rfl
  | cons x xs ih => simp [plainItems, ih]

theorem plainEntries_eq (es : List (Data × Data)) :
    plainEntries es = es.map fun e => (plain e.1, plain e.2) := by
  induction es with
  | nil => rfl
  | cons e es ih => simp [plainEntries, ih]

@[simp] theorem plain_str (s : String) : (str s).plain = str s := by rw [plain] <;> simp

@[simp] theorem plain_dict (es : List (Data × Data)) :
    (dict es).plain = dict (es.map fun e => (e.1.plain, e.2.plain)) := by
  rw [plain, plainEntries_eq]

mutual

theorem plain_of_isSimple : ∀ d : Data, d.isSimple → d.plain = d
  | list xs, h => congrArg list (plainItems_of_areSimple xs h)
  | tuple xs, h => congrArg tuple (plainItems_of_areSimple xs h)
  | set xs, h => congrArg set (plainItems_of_areSimple xs h)
  | dict es, h => congrArg dict (plainEntries_of_areSimple es h)
  | sub .., h => by simp [isSimple] at h
  | none, _ => rfl
  | bool _, _ => rfl
  | int _, _ => rfl
  | float _, _ => rfl
  | str _, _ => rfl
  | bytes _, _ => rfl
  | object _, _ => rfl
  | classObject _, _ => rfl
  | other _, _ => rfl

theorem plainItems_of_areSimple : ∀ xs : List Data, areSimple xs → plainItems xs = xs
  | [], _ => rfl
  | x :: xs, h => by
    simp only [areSimple, Bool.and_eq_true] at h
    rw [plainItems, plain_of_isSimple x h.1, plainItems_of_areSimple xs h.2]

theorem plainEntries_of_areSimple : ∀ es : List (Data × Data), areSimpleEntries es →
    plainEntries es = es
  | [], _ => rfl
  | (k, v) :: es, h => by
    simp only [areSimpleEntries, Bool.and_eq_true] at h
    rw [plainEntries, plain_of_isSimple k h.1.1, plain_of_isSimple v h.1.2,
      plainEntries_of_areSimple es h.2]

end

end RuleBench.Data
