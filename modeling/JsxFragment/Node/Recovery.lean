import JsxFragment.Node
import JsxFragment.Position

/-!
What had to be put right to nest the tags of a text.
-/

namespace JsxFragment

/-- The faults of a sequence of tags that still has a reading. -/
inductive RecoveryCause where
  /-- An attribute that the tag has already. -/
  | duplicateAttribute (name tag : String)
  /-- An end tag for an element that never has content. -/
  | voidEndTag (tag : String)
  /-- An end tag for an element that is not open. -/
  | unmatchedEndTag (tag : String)
  /-- An open element that the end tag of another one closes. -/
  | implicitlyClosed (tag endTag : String)
  /-- An element that is open at the end of the text. -/
  | unclosedElement (tag : String)
  deriving DecidableEq, Repr

namespace RecoveryCause

/-- The short name of the fault. -/
def label : RecoveryCause → String
  | .duplicateAttribute _ _ => "duplicate_attribute"
  | .voidEndTag _ => "void_end_tag"
  | .unmatchedEndTag _ => "unmatched_end_tag"
  | .implicitlyClosed _ _ => "implicitly_closed"
  | .unclosedElement _ => "unclosed_element"

/-- The tag at fault. -/
def tag : RecoveryCause → String
  | .duplicateAttribute _ tag => tag
  | .voidEndTag tag => tag
  | .unmatchedEndTag tag => tag
  | .implicitlyClosed tag _ => tag
  | .unclosedElement tag => tag

/-- The recovery in words. -/
def description : RecoveryCause → String
  | .duplicateAttribute name tag =>
    "Dropped repeated attribute '" ++ name ++ "' on <" ++ tag ++ ">"
  | .voidEndTag tag => "Ignored end tag for void element </" ++ tag ++ ">"
  | .unmatchedEndTag tag => "Ignored end tag </" ++ tag ++ "> with no open element"
  | .implicitlyClosed tag endTag => "Closed <" ++ tag ++ "> implicitly at </" ++ endTag ++ ">"
  | .unclosedElement tag => "Closed <" ++ tag ++ "> at end of input"

end RecoveryCause

/-- A recovery, and the place of the tag at fault. -/
structure Recovery where
  cause : RecoveryCause
  position : Position
  deriving DecidableEq, Repr

/-- What the reading of a fragment has to tell: a recovery, or a document type that was left out. -/
inductive Note where
  | recovered (recovery : Recovery)
  | doctypeDropped (doctype : String) (position : Position)
  deriving DecidableEq, Repr

/-- The recovery that a note tells of, if it does. -/
def Note.recovery? : Note → Option Recovery
  | .recovered recovery => some recovery
  | .doctypeDropped _ _ => none

end JsxFragment
