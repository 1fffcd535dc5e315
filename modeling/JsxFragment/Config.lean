import JsxFragment.Json

/-!
The configuration of a conversion: limits on what is read, and the layout of what is written. Values
are kept in the form in which they were given, once they are known to be usable.
-/

namespace JsxFragment

open Number

/-- Limits on the text that is read. -/
structure Limits where
  maxNestingDepth : Amount := .whole 10000
  /-- No limit at all if there is none. -/
  maxInputLength : Option Amount := none
  deriving DecidableEq, Repr

/-- The layout of the JSX that is written. -/
structure LayoutOptions where
  indentSize : Amount := .whole 2
  /-- Any value; what counts as a yes asks for tabs. -/
  useTabs : Json := .bool false
  /-- Any value; what counts as a yes keeps comments. -/
  preserveComments : Json := .bool true
  deriving Repr

/-- A configuration. -/
structure Config where
  limits : Limits := {}
  layout : LayoutOptions := {}
  deriving Repr

/-- The greatest number of spaces that an indentation may have. -/
def maxIndentSize : Nat :=
  16

/-- An indentation cannot be a fraction of a space. -/
structure FractionalIndent where
  deriving DecidableEq, Repr

/-- The fault in words. -/
def FractionalIndent.message : FractionalIndent → String
  | _ => "can't multiply sequence by non-int of type 'float'"

/-- The blanks that one step of indentation takes. A floating-point size has no blanks, even where
it is a whole number. -/
def LayoutOptions.indentUnit (options : LayoutOptions) : Except FractionalIndent String :=
  if options.useTabs.isTruthy then .ok "\t"
  else
    match options.indentSize with
    | .whole n => .ok (String.ofList (List.replicate n.toNat ' '))
    | .truth b => .ok (if b then " " else "")
    | .real _ => .error {}

/-- Whether comments are kept. -/
def LayoutOptions.keepsComments (options : LayoutOptions) : Bool :=
  options.preserveComments.isTruthy

/-! ## As JSON -/

/-- The limits as members of an object. -/
def Limits.toMembers (limits : Limits) : List (String × Json) :=
  [("max_nesting_depth", .ofAmount limits.maxNestingDepth),
   ("max_input_length", (limits.maxInputLength.map Json.ofAmount).getD .null)]

/-- The layout as members of an object. -/
def LayoutOptions.toMembers (options : LayoutOptions) : List (String × Json) :=
  [("indent_size", .ofAmount options.indentSize),
   ("use_tabs", options.useTabs),
   ("preserve_comments", options.preserveComments)]

/-- The configuration as a JSON object. -/
def Config.toJson (config : Config) : Json :=
  .object
    [("parser", .object config.limits.toMembers), ("renderer", .object config.layout.toMembers)]

end JsxFragment
