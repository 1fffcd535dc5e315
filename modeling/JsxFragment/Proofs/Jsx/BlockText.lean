import JsxFragment.Jsx.Block

/-!
# The text of blocks

The indented lines of a block are its text at that depth: its own lines and, for what it holds, the
text of each block behind a line break.
-/

namespace JsxFragment.Jsx

/-- The break before a line at this depth: a line end and the indentation. -/
def lineBreak (unit : String) (depth : Nat) : List Char :=
  '\n' :: (String.join (List.replicate depth unit)).toList

mutual

/-- The text of a block at this depth, without the break before its first line. -/
def Block.written (unit : String) (depth : Nat) : Block → List Char
  | .line text => text.toList
  | .nest tag attributes content =>
    (openingLine tag attributes).toList ++ Block.allWritten unit (depth + 1) content
      ++ lineBreak unit depth ++ (closingLine tag).toList

/-- The texts of several blocks at this depth, each behind a break. -/
def Block.allWritten (unit : String) (depth : Nat) : List Block → List Char
  | [] => []
  | block :: rest =>
    lineBreak unit depth ++ block.written unit depth ++ Block.allWritten unit depth rest

end

theorem Block.allWritten_eq_flatMap (unit : String) (depth : Nat) (blocks : List Block) :
    Block.allWritten unit depth blocks =
      blocks.flatMap fun block => lineBreak unit depth ++ block.written unit depth := by
  induction blocks with
  | nil => rfl
  | cons block rest inductionHypothesis =>
      rw [Block.allWritten, inductionHypothesis, List.flatMap_cons]

/-- The text of lines, each behind its break. -/
def brokenLines (unit : String) (lines : List (Nat × String)) : List Char :=
  lines.flatMap fun line => lineBreak unit line.1 ++ line.2.toList

theorem brokenLines_append (unit : String) (first second : List (Nat × String)) :
    brokenLines unit (first ++ second) = brokenLines unit first ++ brokenLines unit second :=
  List.flatMap_append

theorem brokenLines_singleton (unit : String) (depth : Nat) (text : String) :
    brokenLines unit [(depth, text)] = lineBreak unit depth ++ text.toList := by
  simp [brokenLines]

mutual

theorem brokenLines_linesOnto (unit : String) (depth : Nat) (before : List (Nat × String)) :
    ∀ block : Block, brokenLines unit (block.linesOnto depth before).reverse =
      brokenLines unit before.reverse ++ (lineBreak unit depth ++ block.written unit depth)
  | .line text => by
      rw [Block.linesOnto, List.reverse_cons, brokenLines_append, brokenLines_singleton,
        Block.written]
  | .nest tag attributes content => by
      rw [Block.linesOnto, List.reverse_cons, brokenLines_append, brokenLines_singleton,
        brokenLines_allLinesOnto unit (depth + 1) _ content, List.reverse_cons, brokenLines_append,
        brokenLines_singleton, Block.written]
      simp only [List.append_assoc]

theorem brokenLines_allLinesOnto (unit : String) (depth : Nat) (before : List (Nat × String)) :
    ∀ blocks : List Block, brokenLines unit (Block.allLinesOnto depth before blocks).reverse =
      brokenLines unit before.reverse ++ Block.allWritten unit depth blocks
  | [] => by
      rw [Block.allLinesOnto, Block.allWritten, List.append_nil]
  | block :: rest => by
      rw [Block.allLinesOnto, brokenLines_allLinesOnto unit depth _ rest,
        brokenLines_linesOnto unit depth before block, Block.allWritten, List.append_assoc]

end

theorem cons_indent_eq_brokenLines (unit : String) {lines : List (Nat × String)}
    (nonempty : lines ≠ []) : '\n' :: (indent unit lines).toList = brokenLines unit lines := by
  have indented (line : Nat × String) :
      '\n' :: (indentLine unit line).toList = lineBreak unit line.1 ++ line.2.toList := by
    simp [indentLine, lineBreak]
  rw [indent, String.toList_intercalate]
  induction lines with
  | nil => exact absurd rfl nonempty
  | cons line rest inductionHypothesis =>
      cases rest with
      | nil => simp [brokenLines, ← indented]
      | cons next others =>
          have following := inductionHypothesis (List.cons_ne_nil next others)
          rw [brokenLines, List.flatMap_cons, ← indented, ← brokenLines, ← following]
          simp

theorem indent_lines_singleton (unit : String) (block : Block) :
    (indent unit (lines [block])).toList = block.written unit 0 := by
  have broken := brokenLines_linesOnto unit 0 [] block
  have nonempty : (block.linesOnto 0 []).reverse ≠ [] := by
    intro empty
    rw [empty] at broken
    exact absurd broken (by simp [brokenLines, lineBreak])
  have whole := cons_indent_eq_brokenLines unit nonempty
  rw [broken] at whole
  simpa [lines, Block.allLinesOnto, lineBreak, brokenLines] using whole

theorem indent_lines_nil (unit : String) : indent unit (lines []) = "" := by
  simp [indent, lines, Block.allLinesOnto]

end JsxFragment.Jsx
