import Mathlib.Data.List.Basic

/-!
# Replacements

A text in which every occurrence of a pattern is replaced, read from left to right. Where a pattern
cannot overlap itself, each character of the text is decided by the one after it.
-/

namespace JsxFragment.Text

/-- The text with every occurrence of a pattern replaced. The search for the next one begins where
the last one ends. -/
def replaceEach (pattern replacement text : List Char) : List Char :=
  match text with
  | [] => []
  | c :: rest =>
    if pattern.isPrefixOf (c :: rest) then
      replacement ++ replaceEach pattern replacement (rest.drop (pattern.length - 1))
    else c :: replaceEach pattern replacement rest
termination_by text.length
decreasing_by all_goals simp only [List.length_drop, List.length_cons]; omega

theorem replaceEach_nil (pattern replacement : List Char) :
    replaceEach pattern replacement [] = [] := by
  rw [replaceEach]

/-- A character is replaced wherever it stands. -/
theorem replaceEach_singleton (a : Char) (replacement text : List Char) :
    replaceEach [a] replacement text = text.flatMap fun c => if c = a then replacement else [c] := by
  induction text with
  | nil => exact replaceEach_nil [a] replacement
  | cons c text inductionHypothesis =>
      rw [replaceEach, List.flatMap_cons]
      by_cases same : c = a
      · have found : [a].isPrefixOf (c :: text) = true := by simp [same]
        rw [if_pos found, if_pos same, List.length_singleton, Nat.sub_self, List.drop_zero,
          inductionHypothesis]
      · have absent : ¬[a].isPrefixOf (c :: text) = true := by simpa using Ne.symm same
        rw [if_neg absent, if_neg same, inductionHypothesis, List.singleton_append]

/-- A pair of different characters whose second one stays: the first is replaced wherever the second
follows it. -/
theorem replaceEach_pair_cons {a b : Char} (different : a ≠ b) (replacement : List Char) (c : Char)
    (text : List Char) :
    replaceEach [a, b] (replacement ++ [b]) (c :: text) =
      (if c = a ∧ text.head? = some b then replacement else [c])
        ++ replaceEach [a, b] (replacement ++ [b]) text := by
  rw [replaceEach]
  by_cases pair : c = a ∧ text.head? = some b
  · obtain ⟨rfl, head⟩ := pair
    obtain ⟨rest, rfl⟩ := List.head?_eq_some_iff.mp head
    have found : [c, b].isPrefixOf (c :: b :: rest) = true := by simp
    have kept : ¬[c, b].isPrefixOf (b :: rest) = true := by simp [different]
    rw [if_pos found, if_pos ⟨rfl, head⟩, replaceEach.eq_def [c, b] _ (b :: rest)]
    simp only [if_neg kept]
    simp
  · have absent : ¬[a, b].isPrefixOf (c :: text) = true := by
      rw [List.isPrefixOf_iff_prefix, List.cons_prefix_cons]
      rintro ⟨rfl, follows⟩
      obtain ⟨rest, rfl⟩ := follows
      exact pair ⟨rfl, rfl⟩
    rw [if_neg absent, if_neg pair, List.singleton_append]

end JsxFragment.Text
