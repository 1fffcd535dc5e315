import JsxFragment.Number.Amount

/-!
JSON values. Whole numbers and floating-point numbers are told apart, and the members of an object
keep the order in which their names first came.
-/

namespace JsxFragment

open Number

/-- A JSON value. -/
inductive Json where
  | null
  | bool (value : Bool)
  | whole (value : Int)
  | real (value : Binary64)
  | string (value : String)
  | array (items : List Json)
  | object (members : List (String × Json))
  deriving Repr, Inhabited

namespace Json

/-- The members with one more. A name that is there already keeps its place and takes the value. -/
def put (members : List (String × Json)) (name : String) (value : Json) : List (String × Json) :=
  if members.any (·.1 = name) then
    members.map fun member => if member.1 = name then (name, value) else member
  else members ++ [(name, value)]

/-- The members with those of another object put in one after another. -/
def merge (members others : List (String × Json)) : List (String × Json) :=
  others.foldl (fun merged member => put merged member.1 member.2) members

/-- The member of an object by this name. -/
def get? (name : String) : Json → Option Json
  | .object members => members.lookup name
  | _ => none

/-- The name of the kind of a value, as messages tell it. -/
def kindName : Json → String
  | .null => "NoneType"
  | .bool _ => "bool"
  | .whole _ => "int"
  | .real _ => "float"
  | .string _ => "str"
  | .array _ => "list"
  | .object _ => "dict"

/-- Whether a value counts as a yes: all do but null, false, zero and what is empty. -/
def isTruthy : Json → Bool
  | .null => false
  | .bool value => value
  | .whole value => value ≠ 0
  | .real value => !value.isZero
  | .string value => value ≠ ""
  | .array items => !items.isEmpty
  | .object members => !members.isEmpty

/-- The number that a value is, if it counts as one. -/
def amount? : Json → Option Amount
  | .bool value => some (.truth value)
  | .whole value => some (.whole value)
  | .real value => some (.real value)
  | _ => none

/-- An amount as a value. -/
def ofAmount : Amount → Json
  | .whole value => .whole value
  | .real value => .real value
  | .truth value => .bool value

/-- A count as a value. -/
def ofNat (n : Nat) : Json :=
  .whole n

/-- A string as a value, or null. -/
def ofString? (s : Option String) : Json :=
  match s with
  | none => .null
  | some value => .string value

theorem amount?_ofAmount (amount : Amount) : (ofAmount amount).amount? = some amount := by
  cases amount <;> rfl

end Json

end JsxFragment
