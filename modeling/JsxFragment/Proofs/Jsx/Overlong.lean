import JsxFragment.Jsx.Reference
import JsxFragment.Proofs.Text.Split

/-!
# References with too many digits

A fragment has a reference too long to be read if and only if one stands in a text of a preformatted
element.
-/

namespace JsxFragment.Jsx

open Text

/-- Whether the text has a decimal reference with more digits than can be read. -/
def HasOverlongDecimal (text : List Char) : Prop :=
  ∃ before digits after, text = before ++ '&' :: '#' :: (digits ++ after) ∧
    (∀ c ∈ digits, c.isDigit = true) ∧ Number.maxDecimalDigits < digits.length

mutual

/-- The texts directly in the preformatted elements that a node is or holds, each joined with the
texts next to it. -/
def preformattedTextsIn (keepComments preformatted : Bool) : Node → List String
  | .element head children =>
    if head.isVoid || (RawElement.ofTag? head.tag).isSome then []
    else
      let within := preformatted || isPreformattedTag head.tag
      (if within then directTexts keepComments children else [])
        ++ preformattedTextsInAll keepComments within children
  | _ => []

/-- The texts directly in the preformatted elements among some nodes. -/
def preformattedTextsInAll (keepComments preformatted : Bool) : List Node → List String
  | [] => []
  | node :: rest =>
    preformattedTextsIn keepComments preformatted node
      ++ preformattedTextsInAll keepComments preformatted rest

end

/-- The texts directly in the preformatted elements of a fragment. -/
def preformattedTexts (keepComments : Bool) (nodes : List Node) : List String :=
  preformattedTextsInAll keepComments false nodes

theorem decimalDigitCount_of_digits {digits : List Char} (after : List Char)
    (isDigit : ∀ c ∈ digits, c.isDigit = true) :
    digits.length ≤ Entity.decimalDigitCount ('#' :: (digits ++ after)) := by
  rw [Entity.decimalDigitCount, List.takeWhile_append_of_pos isDigit, List.length_append]
  omega

theorem exists_digits_of_decimalDigitCount {piece : List Char}
    (counts : 0 < Entity.decimalDigitCount piece) :
    ∃ digits after, piece = '#' :: (digits ++ after) ∧ (∀ c ∈ digits, c.isDigit = true) ∧
      digits.length = Entity.decimalDigitCount piece := by
  unfold Entity.decimalDigitCount at counts ⊢
  split at counts
  · next rest =>
      refine ⟨rest.takeWhile Char.isDigit, rest.dropWhile Char.isDigit, ?_, ?_, rfl⟩
      · rw [List.takeWhile_append_dropWhile]
      · exact fun c member => List.all_eq_true.mp List.all_takeWhile c member
  · exact absurd counts (Nat.lt_irrefl 0)

theorem overlongDecimal?_eq_none_iff (text : List Char) :
    Entity.overlongDecimal? text = none ↔ ¬HasOverlongDecimal text := by
  have noneLonger : Entity.overlongDecimal? text = none ↔
      ∀ piece ∈ (splitOn '&' text).drop 1,
        Entity.decimalDigitCount piece ≤ Number.maxDecimalDigits := by
    simp only [Entity.overlongDecimal?, List.find?_eq_none, List.forall_mem_map,
      decide_eq_true_eq, Nat.not_lt]
  rw [noneLonger]
  constructor
  · intro noLonger holds
    obtain ⟨before, digits, after, rfl, isDigit, long⟩ := holds
    have noAmpersand : '&' ∉ '#' :: digits := by
      intro member
      rcases List.mem_cons.mp member with absurdity | inDigits
      · exact absurd absurdity (by decide)
      · exact absurd (isDigit '&' inDigits) (by decide)
    obtain ⟨first, others, pieces⟩ := exists_splitOn_append noAmpersand after
    obtain ⟨start, middle, earlier, _⟩ := exists_splitOn_eq '&' before
    have isPiece : '#' :: (digits ++ first) ∈
        (splitOn '&' (before ++ '&' :: '#' :: (digits ++ after))).drop 1 := by
      rw [splitOn_append_cons, earlier, ← List.cons_append, pieces]
      simp
    have short := noLonger _ isPiece
    have counted := decimalDigitCount_of_digits first isDigit
    omega
  · intro noOverlong piece isPiece
    refine Nat.not_lt.mp fun longer => ?_
    obtain ⟨before, after, whole⟩ := exists_append_of_mem_drop isPiece
    obtain ⟨digits, others, equality, isDigit, counted⟩ :=
      exists_digits_of_decimalDigitCount (Nat.zero_lt_of_lt longer)
    refine noOverlong ⟨before, digits, others ++ after, ?_, isDigit, by omega⟩
    rw [whole, equality, List.cons_append, List.append_assoc]

mutual

theorem overlongIn?_eq_none_iff (keepComments preformatted : Bool) :
    ∀ node, overlongIn? keepComments preformatted node = none ↔
      ∀ text ∈ preformattedTextsIn keepComments preformatted node, ¬HasOverlongDecimal text.toList
  | .text _ => by simp [overlongIn?, preformattedTextsIn]
  | .comment _ => by simp [overlongIn?, preformattedTextsIn]
  | .element head children => by
      have below := overlongInAll?_eq_none_iff keepComments
        (preformatted || isPreformattedTag head.tag) children
      have own : overlongAmong? keepComments children = none ↔
          ∀ text ∈ directTexts keepComments children, ¬HasOverlongDecimal text.toList := by
        simp only [overlongAmong?, List.findSome?_eq_none_iff, overlongDecimal?_eq_none_iff]
      unfold overlongIn? preformattedTextsIn
      dsimp only
      split
      · simp
      · rw [List.forall_mem_append, ← below]
        cases preformatted || isPreformattedTag head.tag with
        | false => simp
        | true =>
            rw [if_pos rfl, if_pos rfl, ← own]
            cases overlongAmong? keepComments children with
            | none => simp
            | some digitCount => simp

theorem overlongInAll?_eq_none_iff (keepComments preformatted : Bool) :
    ∀ nodes, overlongInAll? keepComments preformatted nodes = none ↔
      ∀ text ∈ preformattedTextsInAll keepComments preformatted nodes,
        ¬HasOverlongDecimal text.toList
  | [] => by simp [overlongInAll?, preformattedTextsInAll]
  | node :: rest => by
      have first := overlongIn?_eq_none_iff keepComments preformatted node
      have others := overlongInAll?_eq_none_iff keepComments preformatted rest
      unfold overlongInAll? preformattedTextsInAll
      rw [List.forall_mem_append, ← first, ← others]
      cases overlongIn? keepComments preformatted node with
      | none => simp
      | some digitCount => simp

end

end JsxFragment.Jsx
