/-!
Blank characters, and the operations on text that depend on them: trimming, and the collapse of
every run of blanks to one space.
-/

namespace JsxFragment.Text

/-- The blank characters of Unicode: the separators, and the controls that move the cursor. -/
def isBlank (c : Char) : Bool :=
  let n := c.toNat
  (0x09 ≤ n && n ≤ 0x0D) || (0x1C ≤ n && n ≤ 0x20) || n == 0x85 || n == 0xA0 || n == 0x1680
    || (0x2000 ≤ n && n ≤ 0x200A) || n == 0x2028 || n == 0x2029 || n == 0x202F || n == 0x205F
    || n == 0x3000

/-- Every blank of ASCII's own class is a blank. -/
theorem isBlank_of_isWhitespace {c : Char} (h : c.isWhitespace = true) : isBlank c = true := by
  simp only [Char.isWhitespace, Bool.or_eq_true, decide_eq_true_eq] at h
  rcases h with ((rfl | rfl) | rfl) | rfl <;> rfl

/-- The text without its leading blanks. -/
def trimStart (text : List Char) : List Char :=
  text.dropWhile isBlank

/-- The text without its trailing blanks. -/
def trimEnd (text : List Char) : List Char :=
  (text.reverse.dropWhile isBlank).reverse

/-- The text without the blanks at either end. -/
def trim (text : List Char) : List Char :=
  trimEnd (trimStart text)

/-- The blanks at the beginning of the text. -/
def leadingBlanks (text : List Char) : List Char :=
  text.takeWhile isBlank

/-- The blanks at the end of the text. -/
def trailingBlanks (text : List Char) : List Char :=
  (text.reverse.takeWhile isBlank).reverse

/-- The text with each maximal run of blanks replaced by one space. -/
def collapseBlanks (text : List Char) : List Char :=
  text.foldr
    (fun c rest =>
      if isBlank c then
        if rest.head? = some ' ' then rest else ' ' :: rest
      else c :: rest)
    []

/-- The string without the blanks at either end. -/
def trimmed (s : String) : String :=
  String.ofList (trim s.toList)

/-- A string without a character that is not blank; the empty string is one. -/
def isAllBlank (s : String) : Bool :=
  s.toList.all isBlank

end JsxFragment.Text
