/-!
Records of repairs in the form in which they are handed on: a short name, a description, and the tag
concerned if there is one.
-/

namespace JsxFragment

/-- The record of a repair. -/
structure RepairRecord where
  label : String
  description : String
  tag : Option String := none
  deriving DecidableEq, Repr

/-- Why the record of a repair cannot be made. -/
inductive RepairFault where
  | emptyLabel
  | emptyDescription
  deriving DecidableEq, Repr

/-- The fault in words. -/
def RepairFault.message : RepairFault → String
  | .emptyLabel => "Repair type cannot be empty"
  | .emptyDescription => "Repair description cannot be empty"

/-- The record, if it has a name and a description. -/
def RepairRecord.check (record : RepairRecord) : Except RepairFault RepairRecord :=
  if record.label = "" then .error .emptyLabel
  else if record.description = "" then .error .emptyDescription
  else .ok record

end JsxFragment
