import JsxFragment.Position
import JsxFragment.TagName

/-!
What had to be put right to cut a malformed text into tokens.
-/

namespace JsxFragment

/-- The faults of a text that still has a reading, with the text concerned. -/
inductive TokenRepairCause where
  /-- `</>`, which names no element. -/
  | emptyEndTag
  /-- A comment closed right after it was opened; `closing` is what closed it. -/
  | abruptComment (closing : String)
  /-- A tag cut off by the end of the text. -/
  | unterminatedTag (source : String)
  | unterminatedComment (content : String)
  | unterminatedCdata (content : String)
  | unterminatedRawText (element : RawElement) (content : String)
  deriving DecidableEq, Repr

namespace TokenRepairCause

/-- The short name of the fault. -/
def label : TokenRepairCause → String
  | .emptyEndTag => "empty_end_tag"
  | .abruptComment _ => "abrupt_comment"
  | .unterminatedTag _ => "unterminated_tag"
  | .unterminatedComment _ => "unterminated_comment"
  | .unterminatedCdata _ => "unterminated_cdata"
  | .unterminatedRawText _ _ => "unterminated_raw_text"

/-- The repair in words. -/
def description : TokenRepairCause → String
  | .emptyEndTag => "Dropped end tag without a name"
  | .abruptComment _ => "Closed abruptly terminated empty comment"
  | .unterminatedTag _ => "Tag cut off by end of input kept as literal text"
  | .unterminatedComment _ => "Comment closed at end of input"
  | .unterminatedCdata _ => "CDATA section closed at end of input"
  | .unterminatedRawText element _ => "<" ++ element.name ++ "> content runs to end of input"

/-- The text as it was found. -/
def found : TokenRepairCause → String
  | .emptyEndTag => "</>"
  | .abruptComment closing => "<!--" ++ closing
  | .unterminatedTag source => source
  | .unterminatedComment content => content
  | .unterminatedCdata content => content
  | .unterminatedRawText _ content => content

/-- The text as it was read. -/
def repaired : TokenRepairCause → String
  | .emptyEndTag => ""
  | .abruptComment _ => "<!---->"
  | .unterminatedTag source => source
  | .unterminatedComment content => content
  | .unterminatedCdata content => content
  | .unterminatedRawText _ content => content

end TokenRepairCause

/-- A repair, and the place where the markup concerned begins. -/
structure TokenRepair where
  cause : TokenRepairCause
  position : Position
  deriving DecidableEq, Repr

end JsxFragment
