/-!
Line ends. A file may end its lines with a line feed, with a carriage return, or with both.
-/

namespace JsxFragment.Text

/-- Reads one more character: a line feed directly after a carriage return has been read with it.
The text read so far has its last character first. -/
def readLineEnd (read : List Char × Bool) (c : Char) : List Char × Bool :=
  if c = '\r' then ('\n' :: read.1, true)
  else if c = '\n' && read.2 then (read.1, false)
  else (c :: read.1, false)

/-- The text with every carriage return, and a line feed directly after it, read as one line feed. -/
def unifyLineEnds (text : List Char) : List Char :=
  (text.foldl readLineEnd ([], false)).1.reverse

end JsxFragment.Text
