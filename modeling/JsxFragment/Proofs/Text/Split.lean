import JsxFragment.Text.Split

/-!
# Cutting texts

A text is its first piece and then each other piece behind a separator. What is cut at one separator
is cut on either side of it.
-/

namespace JsxFragment.Text

variable {separator : Char}

theorem splitOn_cons (separator c : Char) (text : List Char) :
    splitOn separator (c :: text) =
      if c = separator then [] :: splitOn separator text
      else
        match splitOn separator text with
        | [] => [[c]]
        | piece :: rest => (c :: piece) :: rest :=
  rfl

theorem exists_splitOn_eq (separator : Char) (text : List Char) :
    ∃ first others, splitOn separator text = first :: others ∧
      text = first ++ others.flatMap (separator :: ·) := by
  induction text with
  | nil => exact ⟨[], [], rfl, rfl⟩
  | cons c text inductionHypothesis =>
      obtain ⟨first, others, pieces, whole⟩ := inductionHypothesis
      rw [splitOn_cons, pieces]
      split
      · next isSeparator =>
          refine ⟨[], first :: others, rfl, ?_⟩
          rw [isSeparator, List.nil_append, List.flatMap_cons, List.cons_append, ← whole]
      · refine ⟨c :: first, others, rfl, ?_⟩
        rw [List.cons_append, ← whole]

theorem splitOn_of_not_mem {text : List Char} (absent : separator ∉ text) :
    splitOn separator text = [text] := by
  obtain ⟨first, others, pieces, whole⟩ := exists_splitOn_eq separator text
  cases others with
  | nil => rw [pieces, whole, List.flatMap_nil, List.append_nil]
  | cons second others => exact absurd (by simp [whole]) absent

theorem splitOn_append_cons (before after : List Char) :
    splitOn separator (before ++ separator :: after) =
      splitOn separator before ++ splitOn separator after := by
  induction before with
  | nil => rw [List.nil_append, splitOn_cons, if_pos rfl, splitOn_of_not_mem List.not_mem_nil,
      List.singleton_append]
  | cons c before inductionHypothesis =>
      obtain ⟨first, others, pieces, _⟩ := exists_splitOn_eq separator before
      rw [List.cons_append, splitOn_cons, splitOn_cons, inductionHypothesis, pieces]
      split
      · rfl
      · rfl

theorem intercalate_cons_eq (separator : Char) (first : List Char) (others : List (List Char)) :
    [separator].intercalate (first :: others) = first ++ others.flatMap (separator :: ·) := by
  induction others generalizing first with
  | nil => rw [List.intercalate_singleton, List.flatMap_nil, List.append_nil]
  | cons second others inductionHypothesis =>
      rw [List.intercalate_cons_cons, inductionHypothesis, List.flatMap_cons, List.append_assoc]
      rfl

/-- Pieces without the separator are what the text made of them is cut into. -/
theorem splitOn_append_flatMap {first : List Char} {others : List (List Char)}
    (absent : ∀ piece ∈ first :: others, separator ∉ piece) :
    splitOn separator (first ++ others.flatMap (separator :: ·)) = first :: others := by
  induction others generalizing first with
  | nil =>
      rw [List.flatMap_nil, List.append_nil]
      exact splitOn_of_not_mem (absent first List.mem_cons_self)
  | cons second others inductionHypothesis =>
      obtain ⟨inFirst, inOthers⟩ := List.forall_mem_cons.mp absent
      rw [List.flatMap_cons, List.cons_append, splitOn_append_cons, splitOn_of_not_mem inFirst,
        inductionHypothesis inOthers, List.singleton_append]

/-- A text without the separator begins the first piece of what it begins. -/
theorem exists_splitOn_append {text : List Char} (absent : separator ∉ text) (rest : List Char) :
    ∃ first others, splitOn separator (text ++ rest) = (text ++ first) :: others := by
  induction text with
  | nil =>
      obtain ⟨first, others, pieces, _⟩ := exists_splitOn_eq separator rest
      exact ⟨first, others, pieces⟩
  | cons c text inductionHypothesis =>
      obtain ⟨different, absentLater⟩ : separator ≠ c ∧ separator ∉ text := by
        simpa using absent
      obtain ⟨first, others, pieces⟩ := inductionHypothesis absentLater
      refine ⟨first, others, ?_⟩
      rw [List.cons_append, splitOn_cons, if_neg (Ne.symm different), pieces, List.cons_append]

/-- What is in the text made of pieces is the separator or is in a piece. -/
theorem eq_or_mem_of_mem_append_flatMap {c : Char} {first : List Char} {others : List (List Char)}
    (member : c ∈ first ++ others.flatMap (separator :: ·)) :
    c = separator ∨ ∃ piece ∈ first :: others, c ∈ piece := by
  rw [List.mem_append, List.mem_flatMap] at member
  rcases member with inFirst | ⟨piece, isPiece, inPiece⟩
  · exact Or.inr ⟨first, List.mem_cons_self, inFirst⟩
  · exact (List.mem_cons.mp inPiece).imp_right fun inside =>
      ⟨piece, List.mem_cons_of_mem _ isPiece, inside⟩

theorem eq_or_mem_of_mem (separator : Char) {c : Char} {text : List Char} (member : c ∈ text) :
    c = separator ∨ ∃ piece ∈ splitOn separator text, c ∈ piece := by
  obtain ⟨first, others, pieces, whole⟩ := exists_splitOn_eq separator text
  rw [whole] at member
  rw [pieces]
  exact eq_or_mem_of_mem_append_flatMap member

theorem mem_of_mem_splitOn {c : Char} {text piece : List Char}
    (isPiece : piece ∈ splitOn separator text) (inPiece : c ∈ piece) : c ∈ text := by
  obtain ⟨first, others, pieces, whole⟩ := exists_splitOn_eq separator text
  rw [pieces] at isPiece
  rw [whole, List.mem_append, List.mem_flatMap]
  rcases List.mem_cons.mp isPiece with rfl | later
  · exact Or.inl inPiece
  · exact Or.inr ⟨piece, later, List.mem_cons_of_mem _ inPiece⟩

theorem not_mem_of_mem_splitOn {text piece : List Char}
    (isPiece : piece ∈ splitOn separator text) : separator ∉ piece := by
  induction text generalizing piece with
  | nil =>
      rw [List.mem_singleton.mp isPiece]
      exact List.not_mem_nil
  | cons c text inductionHypothesis =>
      obtain ⟨first, others, pieces, _⟩ := exists_splitOn_eq separator text
      rw [pieces] at inductionHypothesis
      rw [splitOn_cons, pieces] at isPiece
      split at isPiece
      · rcases List.mem_cons.mp isPiece with rfl | later
        · exact List.not_mem_nil
        · exact inductionHypothesis later
      · next different =>
          rcases List.mem_cons.mp isPiece with rfl | later
          · intro member
            rcases List.mem_cons.mp member with rfl | inside
            · exact different rfl
            · exact inductionHypothesis List.mem_cons_self inside
          · exact inductionHypothesis (List.mem_cons_of_mem _ later)

theorem exists_append_of_mem_drop {text piece : List Char}
    (isPiece : piece ∈ (splitOn separator text).drop 1) :
    ∃ before after, text = before ++ separator :: (piece ++ after) := by
  obtain ⟨first, others, pieces, whole⟩ := exists_splitOn_eq separator text
  rw [pieces, List.drop_succ_cons, List.drop_zero] at isPiece
  obtain ⟨earlier, later, rfl⟩ := List.append_of_mem isPiece
  refine ⟨first ++ earlier.flatMap (separator :: ·), later.flatMap (separator :: ·), ?_⟩
  rw [whole, List.flatMap_append, List.flatMap_cons, List.append_assoc, List.cons_append]

theorem stops_cons {p : Char → Bool} {c : Char} (rest : List Char) (stops : p c = false) :
    ∀ d ∈ (c :: rest).head?, p d = false := by
  intro d head
  rw [List.head?_cons, Option.mem_def, Option.some.injEq] at head
  exact head ▸ stops

theorem takeWhile_append_of_stop {p : Char → Bool} {text rest : List Char}
    (taken : ∀ c ∈ text, p c = true) (stops : ∀ c ∈ rest.head?, p c = false) :
    (text ++ rest).takeWhile p = text := by
  rw [List.takeWhile_append_of_pos taken]
  cases rest with
  | nil => simp
  | cons c rest => simp [stops c rfl]

theorem cutAt_append_cons {before : List Char} (after : List Char) (absent : separator ∉ before) :
    cutAt separator (before ++ separator :: after) = (before, some after) := by
  have taken : (before ++ separator :: after).takeWhile (· ≠ separator) = before := by
    apply takeWhile_append_of_stop
    · intro c member
      have different : c ≠ separator := by
        rintro rfl
        exact absent member
      simpa using different
    · simp
  simp only [cutAt, taken, List.drop_left]

end JsxFragment.Text
