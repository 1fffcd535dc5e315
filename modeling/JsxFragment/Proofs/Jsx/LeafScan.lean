import JsxFragment.Proofs.Json.Literal
import JsxFragment.Proofs.Jsx.NormalForm

/-!
# Reading leaves back

String literals, template literals and comments are read as what they were written for, whatever
follows them.
-/

namespace JsxFragment

open Text

namespace Jsx

/-! ## String literals -/

theorem scanLiteral?_flatMap (content rest : List Char) :
    scanLiteral? (content.flatMap Json.escapeChar ++ '"' :: rest) =
      some (String.ofList content, rest) := by
  have enough := Json.length_le_length_flatMap Json.escapeChar_ne_nil content
  unfold scanLiteral?
  rw [Json.undoes_escapeChar.readString_flatMap _ content rest [] _
    (by rw [List.length_append]; omega)]
  simp

theorem literal_toList (content : String) (rest : List Char) :
    (Json.literal content).toList ++ rest =
      '"' :: (content.toList.flatMap Json.escapeChar ++ '"' :: rest) := by
  simp [Json.literal]

/-! ## Template literals -/

theorem escapeTemplate_cons (c : Char) (text : List Char) :
    escapeTemplate (c :: text) =
      if c = '\\' || c = '\x60' || (c = '$' && (escapeTemplate text).head? = some '\x7b') then
        '\\' :: c :: escapeTemplate text
      else c :: escapeTemplate text :=
  rfl

theorem scanTemplate?_escapeTemplate (text rest : List Char) :
    scanTemplate? (escapeTemplate text ++ '\x60' :: rest) = some (text, rest) := by
  induction text with
  | nil => rfl
  | cons c text inductionHypothesis =>
      rw [escapeTemplate_cons]
      split
      · next special =>
          have escapable : (c = '\\' || c = '\x60' || c = '$') = true := by
            simp only [Bool.or_eq_true, Bool.and_eq_true, decide_eq_true_eq] at special ⊢
            exact special.imp_right And.left
          simp only [List.cons_append, scanTemplate?, escapable, if_true, inductionHypothesis,
            Option.map_some]
      · next plain =>
          simp only [Bool.or_eq_true, Bool.and_eq_true, decide_eq_true_eq, not_or, not_and] at plain
          obtain ⟨⟨notBackslash, notBackquote⟩, noSubstitution⟩ := plain
          rw [List.cons_append, scanTemplate?.eq_def]
          split
          · next equality => simp at equality
          · next equality => exact absurd (List.cons.inj equality).1 notBackquote
          · next equality => exact absurd (List.cons.inj equality).1 notBackslash
          · next equality =>
              obtain ⟨dollar, following⟩ := List.cons.inj equality
              have noBrace := noSubstitution dollar
              cases escaped : escapeTemplate text with
              | nil => simp [escaped] at following
              | cons d others => simp_all
          · next equality =>
              obtain ⟨rfl, rfl⟩ := List.cons.inj equality
              rw [inductionHypothesis, Option.map_some]

/-! ## Comments -/

theorem breakTerminators_cons (c : Char) (text : List Char) :
    breakTerminators (c :: text) =
      if c = '*' && (breakTerminators text).head? = some '/' then
        '*' :: ' ' :: breakTerminators text
      else c :: breakTerminators text :=
  rfl

theorem scanComment?_cons {c : Char} {rest : List Char}
    (continues : c = '*' → rest.head? ≠ some '/') :
    scanComment? (c :: rest) =
      (scanComment? rest).map fun (content, further) => (c :: content, further) := by
  rw [scanComment?.eq_def]
  split
  · next equality => simp at equality
  · next equality =>
      obtain ⟨star, following⟩ := List.cons.inj equality
      exact absurd (by rw [following]; rfl) (continues star)
  · next equality =>
      obtain ⟨rfl, rfl⟩ := List.cons.inj equality
      rfl

theorem scanComment?_breakTerminators (text rest : List Char) :
    scanComment? (breakTerminators text ++ ' ' :: '*' :: '/' :: rest) =
      some (breakTerminators text ++ [' '], rest) := by
  induction text with
  | nil => rfl
  | cons c text inductionHypothesis =>
      rw [breakTerminators_cons]
      split
      · rw [List.cons_append, List.cons_append, scanComment?_cons (by simp),
          scanComment?_cons (by simp), inductionHypothesis]
        simp
      · next plain =>
          have continues :
              c = '*' → (breakTerminators text ++ ' ' :: '*' :: '/' :: rest).head? ≠ some '/' := by
            rintro rfl
            cases broken : breakTerminators text with
            | nil => simp
            | cons d others => simpa [broken] using plain
          rw [List.cons_append, scanComment?_cons continues, inductionHypothesis]
          simp

theorem scanComment?_between_spaces (text rest : List Char) :
    scanComment? (' ' :: (breakTerminators text ++ ' ' :: '*' :: '/' :: rest)) =
      some (' ' :: breakTerminators text ++ [' '], rest) := by
  rw [scanComment?_cons (by simp), scanComment?_breakTerminators]
  rfl

end Jsx

end JsxFragment
