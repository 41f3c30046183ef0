import RuleBench.Data
import RuleBench.Execution.Kind

/-!
# Values as data

What a value of a script is at one moment, without what makes it live. Values that are no data are
known by their class alone.
-/

namespace RuleBench.Execution

/-- Texts, lists and tuples of a declared class keep the name of their class. -/
def keepsContent : Data → Bool
  | .str _ => true
  | .list _ => true
  | .tuple _ => true
  | _ => false

/-- A value as data, for as many levels as the fuel. -/
def snapshotWithin : Nat → World → Value → Data
  | 0, w, v => .other (w.typeName v)
  | fuel + 1, w, v =>
    let inner := snapshotWithin fuel w
    match v with
    | .none => .none
    | .bool b => .bool b
    | .int n => .int n
    | .float x => .float x
    | .str s => .str s
    | .bytes b => .bytes b
    | .tuple xs => .tuple (xs.map inner)
    | .ref a => match w.get a with
      | .list xs => .list (xs.toList.map inner)
      | .dict es => .dict (es.toList.map fun e => (inner e.1, inner e.2))
      | .set xs false => .set (xs.toList.map inner)
      | .instance _ _ (some c) =>
        if w.isError v then .other (w.typeName v)
        else
          let d := inner c
          if keepsContent d then .sub (w.typeName v) d .inherited else .other (w.typeName v)
      | _ => .other (w.typeName v)
    | v => .other (w.typeName v)

/-- How deep data is followed. -/
def greatestSnapshot : Nat := 1000

def snapshot (w : World) (v : Value) : Data := snapshotWithin greatestSnapshot w v

end RuleBench.Execution
