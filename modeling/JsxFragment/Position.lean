/-!
Places in a text: the line and the column, both counted from one, and the number of characters
before. Only a line feed begins a new line.
-/

namespace JsxFragment

/-- A place in a text. -/
structure Position where
  line : Nat
  column : Nat
  offset : Nat
  one_le_line : 1 ≤ line := by omega
  one_le_column : 1 ≤ column := by omega
  deriving DecidableEq, Repr

/-- Why three numbers are not a place in a text. -/
inductive PositionFault where
  | line
  | column
  | offset
  deriving DecidableEq, Repr

/-- The fault in words. -/
def PositionFault.message : PositionFault → String
  | .line => "Line number must be >= 1"
  | .column => "Column number must be >= 1"
  | .offset => "Offset must be >= 0"

namespace Position

/-- The beginning of a text. -/
def first : Position :=
  { line := 1, column := 1, offset := 0 }

/-- The place after a character. -/
def advance (position : Position) (c : Char) : Position :=
  if c = '\n' then
    { line := position.line + 1, column := 1, offset := position.offset + 1 }
  else
    { line := position.line, column := position.column + 1, offset := position.offset + 1,
      one_le_line := position.one_le_line }

/-- The place with these numbers, or the first of them that no place has. -/
def ofInts (line column offset : Int) : Except PositionFault Position :=
  if hline : line < 1 then .error .line
  else if hcolumn : column < 1 then .error .column
  else if offset < 0 then .error .offset
  else .ok { line := line.toNat, column := column.toNat, offset := offset.toNat }

@[simp] theorem offset_advance (position : Position) (c : Char) :
    (position.advance c).offset = position.offset + 1 := by
  unfold advance
  split <;> rfl

/-- The place of a known position is found again from its numbers. -/
theorem ofInts_ofNat (position : Position) :
    ofInts position.line position.column position.offset = .ok position := by
  obtain ⟨line, column, offset, hline, hcolumn⟩ := position
  have h₁ : ¬ (line : Int) < 1 := by omega
  have h₂ : ¬ (column : Int) < 1 := by omega
  have h₃ : ¬ (offset : Int) < 0 := by omega
  simp [ofInts, h₁, h₂, h₃]

end Position

end JsxFragment
