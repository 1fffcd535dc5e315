import JsxFragment.Position
import Mathlib.Data.List.Induction

/-!
# Places in a text

The place after a text is found by advancing over its characters, and it can be counted: lines by
line feeds, columns by the characters of the last line, and the offset by all characters.
-/

namespace JsxFragment

namespace Position

@[ext]
theorem ext {first second : Position} (line : first.line = second.line)
    (column : first.column = second.column) (offset : first.offset = second.offset) :
    first = second := by
  cases first
  cases second
  simp_all

/-- The place after the characters, counted from the beginning of the text. -/
def after (text : List Char) : Position :=
  text.foldl advance first

@[simp]
theorem after_nil : after [] = first :=
  rfl

theorem after_append (before text : List Char) :
    after (before ++ text) = text.foldl advance (after before) := by
  rw [after, List.foldl_append]
  rfl

@[simp]
theorem after_concat (before : List Char) (c : Char) :
    after (before ++ [c]) = (after before).advance c :=
  after_append before [c]

theorem advance_newline (position : Position) :
    position.advance '\n' =
      { line := position.line + 1
        column := 1
        offset := position.offset + 1
        one_le_line := Nat.le_add_left 1 _
        one_le_column := Nat.le_refl 1 } :=
  rfl

theorem advance_of_ne {c : Char} (other : c ≠ '\n') (position : Position) :
    position.advance c =
      { line := position.line
        column := position.column + 1
        offset := position.offset + 1
        one_le_line := position.one_le_line
        one_le_column := Nat.le_add_left 1 _ } :=
  if_neg other

/-! ## Counting -/

@[simp]
theorem offset_after (text : List Char) : (after text).offset = text.length := by
  induction text using List.reverseRecOn with
  | nil => rfl
  | append_singleton before c inductionHypothesis =>
      rw [after_concat, offset_advance, inductionHypothesis, List.length_append]
      rfl

theorem line_after (text : List Char) : (after text).line = 1 + text.count '\n' := by
  induction text using List.reverseRecOn with
  | nil => rfl
  | append_singleton before c inductionHypothesis =>
      rw [after_concat, List.count_append, List.count_singleton]
      by_cases newline : c = '\n'
      · subst newline
        simp [advance_newline, inductionHypothesis, Nat.add_assoc]
      · simp [advance_of_ne newline, inductionHypothesis, newline]

/-- The characters of the last line of a text, the last one first. -/
def lastLine (text : List Char) : List Char :=
  text.reverse.takeWhile (· ≠ '\n')

theorem column_after (text : List Char) : (after text).column = 1 + (lastLine text).length := by
  induction text using List.reverseRecOn with
  | nil => rfl
  | append_singleton before c inductionHypothesis =>
      rw [after_concat, lastLine, List.reverse_concat]
      by_cases newline : c = '\n'
      · subst newline
        rfl
      · rw [List.takeWhile_cons_of_pos (by simpa using newline), advance_of_ne newline]
        rw [List.length_cons]
        exact congrArg Nat.succ inductionHypothesis

/-- The position is the place of a character of the text. -/
structure Within (text : List Char) (position : Position) : Prop where
  offset_lt : position.offset < text.length
  line_eq : position.line = 1 + (text.take position.offset).count '\n'
  column_eq : position.column = 1 + (lastLine (text.take position.offset)).length

theorem within_after {before rest : List Char} (nonempty : rest ≠ []) :
    (after before).Within (before ++ rest) := by
  have taken : (before ++ rest).take (after before).offset = before := by
    rw [offset_after, List.take_left]
  refine ⟨?_, ?_, ?_⟩
  · have positive := List.length_pos_iff.mpr nonempty
    rw [offset_after, List.length_append]
    omega
  · rw [taken, line_after]
  · rw [taken, column_after]

theorem Within.append {text : List Char} {position : Position} (within : position.Within text)
    (more : List Char) : position.Within (text ++ more) := by
  have taken : (text ++ more).take position.offset = text.take position.offset :=
    List.take_append_of_le_length (Nat.le_of_lt within.offset_lt)
  refine ⟨?_, taken ▸ within.line_eq, taken ▸ within.column_eq⟩
  rw [List.length_append]
  exact Nat.lt_of_lt_of_le within.offset_lt (Nat.le_add_right _ _)

/-! ## A text behind another -/

/-- Where a place of a text comes to stand when other characters stand before the text. -/
def behind (before : List Char) (position : Position) : Position :=
  { line := position.line + before.count '\n'
    column :=
      if position.line = 1 then position.column + ((after before).column - 1) else position.column
    offset := position.offset + before.length
    one_le_line := Nat.le_trans position.one_le_line (Nat.le_add_right _ _)
    one_le_column := by
      have columnPositive := position.one_le_column
      split <;> omega }

theorem behind_first (before : List Char) : first.behind before = after before := by
  have columnPositive := (after before).one_le_column
  apply Position.ext
  · exact (line_after before).symm
  · change 1 + ((after before).column - 1) = (after before).column
    omega
  · rw [offset_after]
    exact Nat.zero_add _

theorem behind_advance (before : List Char) (position : Position) (c : Char) :
    (position.advance c).behind before = (position.behind before).advance c := by
  have linePositive := position.one_le_line
  by_cases newline : c = '\n'
  · subst newline
    rw [advance_newline, advance_newline]
    apply Position.ext
    · exact Nat.add_right_comm _ _ _
    · exact if_neg (by dsimp only; omega)
    · exact Nat.add_right_comm _ _ _
  · rw [advance_of_ne newline, advance_of_ne newline]
    apply Position.ext
    · rfl
    · dsimp only [behind]
      split
      · exact Nat.add_right_comm _ _ _
      · rfl
    · exact Nat.add_right_comm _ _ _

end Position

end JsxFragment
