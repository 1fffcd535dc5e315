import JsxFragment.Proofs.Token.Phrase
import JsxFragment.Token.Lexer
import Mathlib.Data.List.Forall2

/-!
# Constructs

The grammar of markup text. A construct is a stretch of text that is read as a whole; it has a
source, the characters that it takes up, and phrases, the tokens that it becomes. Here are only the
definitions: how each construct is spelled, and in which order constructs may follow one another.
-/

namespace JsxFragment

open Text

/-! ## Names and gaps -/

/-- A character that does not end the name of a tag. -/
def isTagNameChar (c : Char) : Bool :=
  !(isBlank c || c = '/' || c = '>')

/-- A tag name: a letter of ASCII, and then all up to a blank, a slash or a `>`. -/
structure IsTagName (name : List Char) : Prop where
  starts : ∃ first rest, name = first :: rest ∧ isAsciiLetter first = true
  closed : ∀ c ∈ name, isTagNameChar c = true

/-- An attribute name: like the rest of a tag name, and only its first character may be `=`. -/
structure IsAttributeName (name : List Char) : Prop where
  nonempty : name ≠ []
  closed : ∀ c ∈ name, isTagNameChar c = true
  unassigned : ∀ c ∈ name.tail, c ≠ '='

/-- A character that may stand between the parts of a start tag. -/
def isGapChar (c : Char) : Bool :=
  isBlank c || c = '/'

/-! ## Attributes -/

/-- How the value of an attribute is spelled. -/
inductive ValueSpelling where
  | quoted (quote : Char) (content : List Char)
  | unquoted (content : List Char)
  /-- No value at all, where the tag ends right after the `=`. -/
  | missing

namespace ValueSpelling

/-- The characters of the value. -/
def content : ValueSpelling → List Char
  | quoted _ content => content
  | unquoted content => content
  | missing => []

/-- The characters that the value takes up in the text. -/
def source : ValueSpelling → List Char
  | quoted quote content => quote :: (content ++ [quote])
  | unquoted content => content
  | missing => []

/-- A quoted value holds anything but its own quote. An unquoted one goes on to the next blank or
`>`, and does not begin with a quote. -/
def IsSpelled : ValueSpelling → Prop
  | quoted quote content =>
      (quote = '"' ∨ quote = '\'') ∧ quote ∉ content
  | unquoted content =>
      content ≠ [] ∧
        (∀ c ∈ content, isBlank c = false ∧ c ≠ '>') ∧
        content.head? ≠ some '"' ∧ content.head? ≠ some '\''
  | missing => True

end ValueSpelling

/-- The `=` of an attribute with the blanks around it, and the value. -/
structure Assignment where
  before : List Char
  after : List Char
  value : ValueSpelling

namespace Assignment

/-- The characters from the end of the name to the end of the value. -/
def source (assignment : Assignment) : List Char :=
  assignment.before ++ '=' :: (assignment.after ++ assignment.value.source)

/-- Only blanks stand around the `=`. -/
structure IsSpelled (assignment : Assignment) : Prop where
  before : ∀ c ∈ assignment.before, isBlank c = true
  after : ∀ c ∈ assignment.after, isBlank c = true
  value : assignment.value.IsSpelled

end Assignment

/-- An attribute of a start tag, with the gap before it. -/
structure AttributeSpelling where
  gap : List Char
  name : List Char
  assignment : Option Assignment

namespace AttributeSpelling

/-- The attribute that is spelled. -/
def given (spelling : AttributeSpelling) : Attribute :=
  { name := String.ofList spelling.name
    value := spelling.assignment.map fun assignment => String.ofList assignment.value.content }

/-- The characters that the attribute takes up in the text, its gap included. -/
def source (spelling : AttributeSpelling) : List Char :=
  spelling.gap ++ spelling.name ++ (spelling.assignment.map Assignment.source).getD []

end AttributeSpelling

/-! ## Start tags -/

/-- What stands before a gap of a start tag, as far as it bears on what the gap may be. -/
inductive Edge where
  | tagName
  | bareName
  | quotedValue
  | unquotedValue
  | missingValue
  deriving DecidableEq

namespace Edge

/-- The gaps that may follow. A name goes on until a gap comes, an unquoted value until a blank
comes, and a missing value means that the tag ends. -/
def AllowsGap (edge : Edge) (gap : List Char) : Prop :=
  (∀ c ∈ gap, isGapChar c = true) ∧
    match edge with
    | tagName | bareName => gap ≠ []
    | quotedValue => True
    | unquotedValue => ∃ first rest, gap = first :: rest ∧ isBlank first = true
    | missingValue => False

/-- The gaps that may come between the edge and the name of an attribute. Without a slash between
them, a `=` belongs to the name before it. -/
def AllowsName (edge : Edge) (gap name : List Char) : Prop :=
  edge.AllowsGap gap ∧ (edge = bareName → name.head? = some '=' → '/' ∈ gap)

/-- The gaps that may come between the edge and the `>` of the tag. -/
def AllowsEnd (edge : Edge) (gap : List Char) : Prop :=
  gap = [] ∨ edge.AllowsGap gap

end Edge

/-- The edge at the end of an attribute. -/
def AttributeSpelling.edge (spelling : AttributeSpelling) : Edge :=
  match spelling.assignment with
  | none => .bareName
  | some assignment =>
      match assignment.value with
      | .quoted _ _ => .quotedValue
      | .unquoted _ => .unquotedValue
      | .missing => .missingValue

/-- An attribute is spelled as it has to be after the edge. -/
structure AttributeSpelling.Follows (spelling : AttributeSpelling) (edge : Edge) : Prop where
  gap : edge.AllowsName spelling.gap spelling.name
  name : IsAttributeName spelling.name
  assignment : ∀ assignment ∈ spelling.assignment, assignment.IsSpelled

/-- Each attribute of the list is spelled as it has to be after the one before it. -/
def AttributesFollow : Edge → List AttributeSpelling → Prop
  | _, [] => True
  | edge, spelling :: rest =>
      spelling.Follows edge ∧ AttributesFollow spelling.edge rest

/-- The edge at the end of a list of attributes. -/
def lastEdge : Edge → List AttributeSpelling → Edge
  | edge, [] => edge
  | _, spelling :: rest => lastEdge spelling.edge rest

/-- A start tag without its end: the name and the attributes. -/
structure TagHead where
  name : List Char
  attributes : List AttributeSpelling

namespace TagHead

/-- The characters of the tag so far. -/
def source (head : TagHead) : List Char :=
  '<' :: (head.name ++ head.attributes.flatMap AttributeSpelling.source)

/-- The lexemes of the tag so far. -/
def lexemes (head : TagHead) : List Lexeme :=
  ⟨.tagStart, "<"⟩ :: ⟨.tagName, String.ofList head.name⟩ ::
    head.attributes.flatMap fun spelling => spelling.given.lexemes

/-- The edge at the end of what there is of the tag. -/
def edge (head : TagHead) : Edge :=
  lastEdge .tagName head.attributes

/-- The parts of the tag are spelled as they have to be. -/
structure IsSpelled (head : TagHead) : Prop where
  name : IsTagName head.name
  attributes : AttributesFollow .tagName head.attributes

end TagHead

/-- A whole start tag. It is self-closing if the gap before its `>` ends with a slash. -/
structure StartTag where
  head : TagHead
  gap : List Char

namespace StartTag

/-- Whether the tag is closed by `/>`. -/
def selfClosing (tag : StartTag) : Bool :=
  tag.gap.getLast? = some '/'

/-- The characters of the tag. -/
def source (tag : StartTag) : List Char :=
  tag.head.source ++ tag.gap ++ ['>']

/-- The tag as a phrase. -/
def phrase (tag : StartTag) : Phrase :=
  .startTag (String.ofList tag.head.name)
    (tag.head.attributes.map AttributeSpelling.given) tag.selfClosing

/-- The element whose raw text follows the tag, if it opens one. -/
def opensRaw (tag : StartTag) : Option RawElement :=
  if tag.selfClosing then none else RawElement.ofTag? (String.ofList tag.head.name)

/-- The tag is spelled as it has to be. -/
structure IsSpelled (tag : StartTag) : Prop where
  head : tag.head.IsSpelled
  gap : tag.head.edge.AllowsEnd tag.gap

end StartTag

/-! ## End tags -/

/-- An end tag; all between its name and its `>` is ignored. -/
structure EndTag where
  name : List Char
  ignored : List Char

namespace EndTag

/-- The characters of the tag. -/
def source (tag : EndTag) : List Char :=
  '<' :: '/' :: (tag.name ++ tag.ignored ++ ['>'])

/-- The tag as a phrase. -/
def phrase (tag : EndTag) : Phrase :=
  .endTag (String.ofList tag.name)

/-- What is ignored begins where the name ends, and goes on to the first `>`. -/
structure IsSpelled (tag : EndTag) : Prop where
  name : IsTagName tag.name
  ignored : ∀ first rest, tag.ignored = first :: rest → isGapChar first = true
  closed : '>' ∉ tag.ignored

/-- The tag ends the raw text of the element: its name is the element's in some spelling, and
beside the name it has no more than blanks, as many as are looked at. -/
structure Closes (tag : EndTag) (element : RawElement) : Prop where
  name : List.Forall₂ (fun letter c => RawElement.spells letter c = true)
    element.name.toList tag.name
  ignored : ∀ c ∈ tag.ignored, isBlank c = true
  slack : tag.ignored.length + "</>".length ≤ RawElement.endTagSlack

end EndTag

/-! ## Constructs -/

/-- The mark after the `<` of a comment that is spelled without its hyphens. -/
inductive BogusMark where
  | exclamation
  | question
  deriving DecidableEq

/-- The character of the mark. -/
def BogusMark.char : BogusMark → Char
  | exclamation => '!'
  | question => '?'

/-- The part of the source of a bogus comment that is its content: all after `<!`, and all after
the `<` of `<?`. -/
def BogusMark.content (mark : BogusMark) (after : List Char) : List Char :=
  match mark with
  | exclamation => after
  | question => '?' :: after

/-- What ends a comment right after it was opened. -/
inductive AbruptEnd where
  | angle
  | hyphenAngle
  deriving DecidableEq

/-- The characters of the end. -/
def AbruptEnd.source : AbruptEnd → List Char
  | angle => ['>']
  | hyphenAngle => ['-', '>']

/-- What a CDATA section has after its `<!`. -/
def cdataWord : List Char :=
  ['[', 'C', 'D', 'A', 'T', 'A', '[']

/-- What a document type has after its `<!`, in capitals. -/
def doctypeWord : List Char :=
  ['D', 'O', 'C', 'T', 'Y', 'P', 'E']

/-- A stretch of markup text that is read as a whole. Where `closed` is false, the end of the text
comes before the end of the construct. -/
inductive Construct where
  | text (content : List Char)
  | startTag (tag : StartTag)
  | endTag (tag : EndTag)
  /-- An end tag without a name. -/
  | namelessEndTag
  | comment (content : List Char) (closed : Bool)
  | abruptComment (ending : AbruptEnd)
  | bogusComment (mark : BogusMark) (after : List Char) (closed : Bool)
  | doctype (keyword content : List Char) (closed : Bool)
  | cdata (content : List Char) (closed : Bool)
  /-- The raw text of an element with the end tag, if the raw text has one. -/
  | rawText (element : RawElement) (content : List Char) (ending : Option EndTag)
  /-- A tag that the end of the text cuts off. -/
  | cutTag (source : List Char)

namespace Construct

/-- The characters of the construct. -/
def source : Construct → List Char
  | text content => content
  | startTag tag => tag.source
  | endTag tag => tag.source
  | namelessEndTag => ['<', '/', '>']
  | comment content closed =>
      ['<', '!', '-', '-'] ++ content ++ if closed then ['-', '-', '>'] else []
  | abruptComment ending => ['<', '!', '-', '-'] ++ ending.source
  | bogusComment mark after closed =>
      '<' :: mark.char :: (after ++ if closed then ['>'] else [])
  | doctype keyword content closed =>
      ['<', '!'] ++ keyword ++ content ++ if closed then ['>'] else []
  | cdata content closed =>
      ['<', '!'] ++ cdataWord ++ content ++ if closed then [']', ']', '>'] else []
  | rawText _ content ending => content ++ (ending.map EndTag.source).getD []
  | cutTag source => source

/-- The phrases that the construct becomes. -/
def phrases : Construct → List Phrase
  | text content => [.text (String.ofList content)]
  | startTag tag => [tag.phrase]
  | endTag tag => [tag.phrase]
  | namelessEndTag => []
  | comment content _ => [.comment (String.ofList content)]
  | abruptComment _ => [.comment ""]
  | bogusComment mark after _ => [.comment (String.ofList (mark.content after))]
  | doctype _ content _ => [.doctype (String.ofList (trim content))]
  | cdata content _ => [.cdata (String.ofList content)]
  | rawText _ content ending =>
      (if content.isEmpty then [] else [.text (String.ofList content)]) ++
        (ending.map EndTag.phrase).toList
  | cutTag source => [.text (String.ofList source)]

/-- The lexemes of the phrases of the construct. -/
def lexemes (construct : Construct) : List Lexeme :=
  construct.phrases.flatMap Phrase.lexemes

/-- What had to be put right to read the construct. -/
def repairs : Construct → List TokenRepairCause
  | namelessEndTag => [.emptyEndTag]
  | abruptComment ending => [.abruptComment (String.ofList ending.source)]
  | comment content false => [.unterminatedComment (String.ofList content)]
  | bogusComment mark after false =>
      [.unterminatedComment (String.ofList (mark.content after))]
  | cdata content false => [.unterminatedCdata (String.ofList content)]
  | rawText element content none =>
      [.unterminatedRawText element (String.ofList content)]
  | cutTag source => [.unterminatedTag (String.ofList source)]
  | _ => []

/-- The element whose raw text has to come after the construct, if there is one. -/
def opensRaw : Construct → Option RawElement
  | startTag tag => tag.opensRaw
  | _ => none

end Construct

/-! ## Well-formed readings -/

/-- What stands after a `<` makes it the beginning of markup. -/
def beginsMarkup : List Char → Bool
  | '!' :: _ => true
  | '?' :: _ => true
  | '/' :: c :: _ => isAsciiLetter c || c = '>'
  | c :: _ => isAsciiLetter c
  | [] => false

/-- Text has no `<` but as its first character, and goes on to the next `<`. -/
structure IsText (content rest : List Char) : Prop where
  nonempty : content ≠ []
  plain : '<' ∉ content.tail
  literal : ∀ after, content = '<' :: after → beginsMarkup (after ++ rest) = false
  maximal : ∀ c ∈ rest.head?, c = '<'

/-- The content of a comment: it holds no `-->` and does not begin with the end of an abrupt one. -/
structure IsCommentContent (content : List Char) : Prop where
  closed : ¬ ['-', '-', '>'] <:+: content
  notAngle : ¬ ['>'] <+: content
  notHyphenAngle : ¬ ['-', '>'] <+: content

/-- What comes after `<!` begins a comment, a CDATA section or a document type. -/
def OpensSection (after : List Char) : Prop :=
  ['-', '-'] <+: after ∨ cdataWord <+: after ∨
    doctypeWord <+: after.map Char.toUpper

/-- A tag cut off by the end of the text: the beginning of a tag, but not all of it. -/
structure IsCutTag (source : List Char) : Prop where
  nonempty : source ≠ []
  completes : ∃ completion, completion ≠ [] ∧
    ((∃ tag : StartTag, tag.IsSpelled ∧ tag.source = source ++ completion) ∨
      ∃ tag : EndTag, tag.IsSpelled ∧ tag.source = source ++ completion)

/-- Raw text without an end tag of its element. -/
def LacksEndTag (element : RawElement) (content : List Char) : Prop :=
  ¬ ∃ (before after : List Char) (tag : EndTag),
    tag.Closes element ∧ content = before ++ tag.source ++ after

/-- The construct can stand with `rest` after it, where no raw text is due. Only what is not closed
has to stand at the end. -/
def Construct.FitsMarkup (construct : Construct) (rest : List Char) : Prop :=
  match construct with
  | text content => IsText content rest
  | startTag tag => tag.IsSpelled
  | endTag tag => tag.IsSpelled
  | namelessEndTag => True
  | comment content closed => IsCommentContent content ∧ (closed = false → rest = [])
  | abruptComment _ => True
  | bogusComment mark after closed =>
      '>' ∉ after ∧ (mark = .exclamation → ¬ OpensSection after) ∧ (closed = false → rest = [])
  | doctype keyword content closed =>
      keyword.map Char.toUpper = doctypeWord ∧ '>' ∉ content ∧ (closed = false → rest = [])
  | cdata content closed => ¬ [']', ']', '>'] <:+: content ∧ (closed = false → rest = [])
  | rawText _ _ _ => False
  | cutTag source => IsCutTag source ∧ rest = []

/-- The construct can stand with `rest` after it, where the raw text of the element is due. -/
def Construct.FitsRaw (construct : Construct) (due : RawElement) (rest : List Char) : Prop :=
  match construct with
  | rawText element content ending =>
      element = due ∧ LacksEndTag element content ∧
        match ending with
        | some tag => tag.Closes element
        | none => content ≠ [] ∧ rest = []
  | _ => False

/-- The construct can stand where the raw text of `raw` is due, or where none is, with `rest` after
it. -/
def Construct.Fits (raw : Option RawElement) (construct : Construct) (rest : List Char) : Prop :=
  match raw with
  | none => construct.FitsMarkup rest
  | some due => construct.FitsRaw due rest

/-- The source of a list of constructs. -/
def sourceOf (constructs : List Construct) : List Char :=
  constructs.flatMap Construct.source

/-- The lexemes of a list of constructs. -/
def lexemesOf (constructs : List Construct) : List Lexeme :=
  constructs.flatMap Construct.lexemes

/-- Each construct of the list fits where it stands, with `rest` after the last one. -/
def WellPlaced : Option RawElement → List Construct → List Char → Prop
  | _, [], _ => True
  | raw, construct :: others, rest =>
      construct.Fits raw (sourceOf others ++ rest) ∧ WellPlaced construct.opensRaw others rest

/-- The element whose raw text is due after the constructs, if there is one. -/
def rawAfter : Option RawElement → List Construct → Option RawElement
  | raw, [] => raw
  | _, construct :: others => rawAfter construct.opensRaw others

end JsxFragment
