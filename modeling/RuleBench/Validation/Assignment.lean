import RuleBench.Validation

/-!
# Assignment to fields

Most records are frozen: only names that start with an underscore, which no field has, can be set on
them. Records that are not frozen take any value for a field and have no other names.
-/

namespace RuleBench.Validation

inductive AssignmentError where
  | refused (refusal : Refusal)
  | noField (recordName name : String)

def AssignmentError.noFieldMessage (recordName name : String) : String :=
  "\"" ++ recordName ++ "\" object has no field \"" ++ name ++ "\""

/-- Names that belong to no field of any record. -/
def isPrivateName (name : String) : Bool := name.startsWith "_"

/-- Sets a name on a record that is frozen. -/
def assignFrozen (recordName name : String) : Except AssignmentError Unit :=
  if isPrivateName name then .ok ()
  else .error (.refused ⟨recordName, [⟨[.key name], .frozen⟩]⟩)

/-- Sets a name on a record with these fields. -/
def assignOpen (recordName : String) (fields : List FieldName) (name : String) :
    Except AssignmentError Unit :=
  if isPrivateName name || fields.any (·.name == name) then .ok ()
  else .error (.noField recordName name)

end RuleBench.Validation
