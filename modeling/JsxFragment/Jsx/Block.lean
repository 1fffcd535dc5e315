/-!
The layout of JSX, before it is indented: lines, and elements that hold further lines one step
deeper.
-/

namespace JsxFragment.Jsx

/-- A piece of JSX that has lines of its own. A nest is an element with content on lines of its
own, or the outer fragment if its tag is empty. -/
inductive Block where
  | line (text : String)
  | nest (tag attributes : String) (content : List Block)
  deriving Repr

/-- The line that opens an element. -/
def openingLine (tag attributes : String) : String :=
  "<" ++ tag ++ attributes ++ ">"

/-- The line that closes an element. -/
def closingLine (tag : String) : String :=
  "</" ++ tag ++ ">"

/-- An element without content. -/
def emptyElement (tag attributes : String) : String :=
  "<" ++ tag ++ attributes ++ " />"

mutual

/-- Adds the lines of a block, with their depth, to those before; the last line comes first. -/
def Block.linesOnto (depth : Nat) (before : List (Nat × String)) : Block → List (Nat × String)
  | .line text => (depth, text) :: before
  | .nest tag attributes content =>
    (depth, closingLine tag)
      :: Block.allLinesOnto (depth + 1) ((depth, openingLine tag attributes) :: before) content

/-- Adds the lines of several blocks, one after another. -/
def Block.allLinesOnto (depth : Nat) (before : List (Nat × String)) :
    List Block → List (Nat × String)
  | [] => before
  | block :: rest => Block.allLinesOnto depth (Block.linesOnto depth before block) rest

end

/-- The lines of a list of blocks, each with its depth. -/
def lines (blocks : List Block) : List (Nat × String) :=
  (Block.allLinesOnto 0 [] blocks).reverse

/-- A line behind as many indentations as it is deep. -/
def indentLine (unit : String) (line : Nat × String) : String :=
  String.join (List.replicate line.1 unit) ++ line.2

/-- The text of a list of lines. -/
def indent (unit : String) (lines : List (Nat × String)) : String :=
  "\n".intercalate (lines.map (indentLine unit))

end JsxFragment.Jsx
