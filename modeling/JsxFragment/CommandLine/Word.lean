import JsxFragment.CommandLine.Flag
import JsxFragment.Text.Split
import JsxFragment.Text.WordChar

/-!
The words of a command line, each looked at by itself. A long name may be cut short as long as it
stays unique, short names may be joined, and a value may be attached to a name. What looks like a
negative number or holds a space is a plain word, and so is every word after a double dash.
-/

namespace JsxFragment.CommandLine

/-- The kinds of names that a flag has. -/
inductive NameKind where
  | long
  | short
  deriving DecidableEq, Repr

/-- What a word stands for. -/
inductive Word where
  | plain (text : String)
  /-- The double dash: all words after it are plain. -/
  | separator
  /-- A flag, the kind of name it is called by, and what is attached to the name. -/
  | named (flag : Flag) (kind : NameKind) (attached : Option String)
  /-- A flag by a name that none has. -/
  | unknown (text : String)
  deriving DecidableEq, Repr

/-- A word that begins like several flags. -/
structure Ambiguity where
  word : String
  candidates : List Flag
  deriving DecidableEq, Repr

namespace Word

/-- Digits only, and at least one. -/
def isDigits (text : List Char) : Bool :=
  !text.isEmpty && text.all Text.isDecimalDigit

/-- A number without its sign, whole or with digits after a point. -/
def isUnsignedNumber (text : List Char) : Bool :=
  match Text.cutAt '.' text with
  | (whole, none) => isDigits whole
  | (whole, some fraction) => whole.all Text.isDecimalDigit && isDigits fraction

/-- Whether the text after a dash makes the word a number. A line end after the number does no
harm. -/
def looksNumeric (text : List Char) : Bool :=
  isUnsignedNumber (if text.getLast? = some '\n' then text.dropLast else text)

/-- A word that no flag begins: a plain word if it looks like a number or holds a space. -/
def withoutFlag (text : String) : Word :=
  if looksNumeric (text.toList.drop 1) || text.toList.contains ' ' then .plain text
  else .unknown text

/-- A word of one dash and some letters. -/
def ofLetters (text : String) (letter : Char) (rest : List Char) : Word :=
  match Flag.ofLetter? letter with
  | none => withoutFlag text
  | some flag =>
    match rest with
    | [] => .named flag .short none
    | '=' :: value => .named flag .short (some (String.ofList value))
    | _ => .named flag .short (some (String.ofList rest))

/-- A word of two dashes and a name, which may be cut short. -/
def ofName (text : String) : Except Ambiguity Word :=
  let (name, value) := Text.cutAt '=' text.toList
  let name := String.ofList name
  let value := value.map String.ofList
  match Flag.ofLongName? name with
  | some flag => .ok (.named flag .long value)
  | none =>
    match Flag.withPrefix name with
    | [] => .ok (withoutFlag text)
    | [flag] => .ok (.named flag .long value)
    | candidates => .error { word := text, candidates }

/-- What a word before any double dash stands for. -/
def ofString (text : String) : Except Ambiguity Word :=
  match text.toList with
  | ['-', '-'] => .ok .separator
  | '-' :: '-' :: _ => ofName text
  | '-' :: letter :: rest => .ok (ofLetters text letter rest)
  | _ => .ok (.plain text)

/-- What the words of a command line stand for. The first ambiguous word is an error, whatever
stands before it. -/
def ofStrings : List String → Except Ambiguity (List Word)
  | [] => .ok []
  | text :: rest =>
    match ofString text with
    | .error ambiguity => .error ambiguity
    | .ok .separator => .ok (.separator :: rest.map .plain)
    | .ok word =>
      match ofStrings rest with
      | .error ambiguity => .error ambiguity
      | .ok words => .ok (word :: words)

end Word

end JsxFragment.CommandLine
