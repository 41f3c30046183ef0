import RuleBench.Data
import RuleBench.Rule.Kind

/-!
# Shapes of answers

Whether data has the shape a rule kind asks for, and how its type is described where it has not.
-/

namespace RuleBench.Data

def isText (d : Data) : Bool := d.text?.isSome

/-- Whether a value is a list or tuple that claims two items and holds only texts. Asking for the
length may raise an error of the value's own. -/
def isTextPair (d : Data) : Except ErrorSpec Bool :=
  match d.items? with
  | Option.none => .ok false
  | some xs => d.length.map fun n => n == 2 && xs.all isText

/-- The type of a value, for lists and tuples with the types of the items. -/
def typeText (d : Data) : String :=
  match d.items? with
  | some xs => d.typeName ++ bracketed "[" "]" (xs.map typeName)
  | Option.none => d.typeName

/-- Whether data has a shape. -/
def hasShape (d : Data) : AnswerShape → Except ErrorSpec Bool
  | .textPair => d.isTextPair
  | .text => .ok d.isText

end RuleBench.Data
