import JsxFragment.Node
import JsxFragment.Token

/-!
# Phrases

Tokens without their places, and the groups in which they come: one token of character data, a
comment or a document type alone, or all the tokens of one tag. Whatever the text, its tokens are a
sequence of such groups, and nesting them depends on the groups alone.
-/

namespace JsxFragment

/-- A token without its place. -/
structure Lexeme where
  kind : TokenKind
  value : String
  deriving DecidableEq, Repr

/-- What is left of a token when its place is forgotten. -/
def Token.lexeme (token : Token) : Lexeme :=
  ⟨token.kind, token.value⟩

theorem Token.lexeme_eq_iff {token : Token} {kind : TokenKind} {value : String} :
    token.lexeme = ⟨kind, value⟩ ↔ token.kind = kind ∧ token.value = value := by
  simp [lexeme]

/-- The lexemes of an attribute in a start tag. -/
def Attribute.lexemes (given : Attribute) : List Lexeme :=
  ⟨.attributeName, given.name⟩ ::
    match given.value with
    | none => []
    | some value => [⟨.attributeValue, value⟩]

/-- Lexemes that stand together for one part of a fragment. -/
inductive Phrase where
  | text (content : String)
  | cdata (content : String)
  | comment (content : String)
  | doctype (content : String)
  | startTag (name : String) (attributes : List Attribute) (selfClosing : Bool)
  | endTag (name : String)
  deriving DecidableEq, Repr

namespace Phrase

/-- The lexemes of a phrase. -/
def lexemes : Phrase → List Lexeme
  | text content => [⟨.text, content⟩]
  | cdata content => [⟨.cdata, content⟩]
  | comment content => [⟨.comment, content⟩]
  | doctype content => [⟨.doctype, content⟩]
  | startTag name attributes selfClosing =>
      ⟨.tagStart, "<"⟩ :: ⟨.tagName, name⟩ ::
        (attributes.flatMap Attribute.lexemes ++
          [⟨.tagEnd, if selfClosing then "/>" else ">"⟩])
  | endTag name =>
      [⟨.tagStart, "</"⟩, ⟨.tagName, name⟩, ⟨.tagEnd, ">"⟩]

/-- A phrase that is a tag names its element. -/
def IsNamed : Phrase → Prop
  | startTag name _ _ => name ≠ ""
  | endTag name => name ≠ ""
  | _ => True

end Phrase

end JsxFragment
