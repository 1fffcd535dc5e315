import JsxFragment.Text.Split

/-!
Paths of files, in the form in which they are used and shown: without empty steps and without steps
that stay where they are.
-/

namespace JsxFragment.CommandLine

/-- A path: the slashes of its root, if it has one, and its steps. -/
structure Path where
  root : String
  steps : List String
  deriving DecidableEq, Repr

namespace Path

/-- The root that a text begins with; two slashes, and no more, are a root of their own. -/
def rootOf : List Char → String
  | '/' :: '/' :: '/' :: _ => "/"
  | '/' :: '/' :: _ => "//"
  | '/' :: _ => "/"
  | _ => ""

/-- The path that a text names. -/
def ofString (s : String) : Path :=
  let steps := (Text.splitOn '/' s.toList).map String.ofList
  { root := rootOf s.toList, steps := steps.filter fun step => step ≠ "" && step ≠ "." }

/-- The text of a path; a path without a single step is the place itself. -/
def text (path : Path) : String :=
  if path.root = "" && path.steps.isEmpty then "."
  else path.root ++ "/".intercalate path.steps

/-- A path that no file can have, since it holds the character that ends paths. -/
def isUnusable (path : Path) : Bool :=
  path.text.toList.contains '\x00'

end Path

end JsxFragment.CommandLine
