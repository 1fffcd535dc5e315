/-!
Cutting a text at every occurrence of a character.
-/

namespace JsxFragment.Text

/-- The pieces of a text between the occurrences of a character; there is always a first piece. -/
def splitOn (separator : Char) (text : List Char) : List (List Char) :=
  text.foldr
    (fun c pieces =>
      if c = separator then [] :: pieces
      else
        match pieces with
        | [] => [[c]]
        | piece :: rest => (c :: piece) :: rest)
    [[]]

/-- The text before the first occurrence of a character, and the text after it if there is one. -/
def cutAt (separator : Char) (text : List Char) : List Char × Option (List Char) :=
  let before := text.takeWhile (· ≠ separator)
  match text.drop before.length with
  | [] => (before, none)
  | _ :: after => (before, some after)

theorem splitOn_ne_nil (separator : Char) (text : List Char) : splitOn separator text ≠ [] := by
  induction text with
  | nil => simp [splitOn]
  | cons c rest ih =>
      simp only [splitOn, List.foldr_cons] at ih ⊢
      split
      · simp
      · split <;> simp

end JsxFragment.Text
