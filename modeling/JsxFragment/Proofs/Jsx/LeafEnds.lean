import JsxFragment.Proofs.Jsx.LeafScan
import JsxFragment.Proofs.Text.Blank
import JsxFragment.Proofs.Text.Replacement

/-!
# Where leaves end

Whatever text they hold, a template literal ends at its last backquote and a comment at its last
terminator. Inside the literal is what stands for the text; inside the comment is the text with each
of its terminators broken. Both are replacements of what would end them in the text.
-/

namespace JsxFragment.Jsx

open Text

/-! ## Template literals -/

/-- What the inside of a template literal stands for, where a backslash and the character after it
stand for that character. It stands for nothing if it ends with half such a pair, or if, outside all
of them, a backquote ends the literal or a dollar sign with a brace opens a substitution. -/
def unescapeTemplate? : List Char → Option (List Char)
  | [] => some []
  | ['\\'] => none
  | '\\' :: c :: rest => (unescapeTemplate? rest).map (c :: ·)
  | '\x60' :: _ => none
  | '$' :: '\x7b' :: _ => none
  | c :: rest => (unescapeTemplate? rest).map (c :: ·)

theorem unescapeTemplate?_cons {c : Char} {rest : List Char} (notBackslash : c ≠ '\\')
    (notBackquote : c ≠ '\x60') (opensNothing : c = '$' → rest.head? ≠ some '\x7b') :
    unescapeTemplate? (c :: rest) = (unescapeTemplate? rest).map (c :: ·) := by
  rw [unescapeTemplate?.eq_def]
  split
  · next equality => simp at equality
  · next equality => exact absurd (List.cons.inj equality).1 notBackslash
  · next equality => exact absurd (List.cons.inj equality).1 notBackslash
  · next equality => exact absurd (List.cons.inj equality).1 notBackquote
  · next equality =>
      obtain ⟨dollar, following⟩ := List.cons.inj equality
      exact absurd (by rw [following]; rfl) (opensNothing dollar)
  · next equality =>
      obtain ⟨rfl, rfl⟩ := List.cons.inj equality
      rfl

/-- A literal that is read ends at its first backquote without a backslash, and its inside stands for
what was read. -/
theorem exists_of_scanTemplate? {text content rest : List Char}
    (scanned : scanTemplate? text = some (content, rest)) :
    ∃ inside, text = inside ++ '\x60' :: rest ∧ unescapeTemplate? inside = some content := by
  induction text using scanTemplate?.induct generalizing content rest with
  | case1 => simp [scanTemplate?] at scanned
  | case2 further =>
      obtain ⟨rfl, rfl⟩ : [] = content ∧ further = rest := by simpa [scanTemplate?] using scanned
      exact ⟨[], rfl, rfl⟩
  | case3 c further escapable inductionHypothesis =>
      rw [scanTemplate?, if_pos escapable, Option.map_eq_some_iff] at scanned
      obtain ⟨⟨later, _⟩, scannedLater, equality⟩ := scanned
      obtain ⟨rfl, rfl⟩ := Prod.mk.inj equality
      obtain ⟨inside, rfl, unescaped⟩ := inductionHypothesis scannedLater
      exact ⟨'\\' :: c :: inside, rfl, by rw [unescapeTemplate?, unescaped]; rfl⟩
  | case4 c further notEscapable =>
      rw [scanTemplate?, if_neg notEscapable] at scanned
      cases scanned
  | case5 further => simp [scanTemplate?] at scanned
  | case6 c further notBackquote notPair opensNothing inductionHypothesis =>
      rw [scanTemplate?.eq_5 c further notBackquote notPair opensNothing,
        Option.map_eq_some_iff] at scanned
      obtain ⟨⟨later, _⟩, scannedLater, equality⟩ := scanned
      obtain ⟨rfl, rfl⟩ := Prod.mk.inj equality
      obtain ⟨inside, rfl, unescaped⟩ := inductionHypothesis scannedLater
      refine ⟨c :: inside, rfl, ?_⟩
      -- A backslash has a character behind it, and be it the closing backquote.
      have notBackslash : c ≠ '\\' := by
        rintro rfl
        cases inside with
        | nil => exact notPair _ _ rfl rfl
        | cons d inside => exact notPair _ _ rfl rfl
      rw [unescapeTemplate?_cons notBackslash notBackquote, unescaped]
      · rfl
      · intro dollar head
        obtain ⟨others, rfl⟩ := List.head?_eq_some_iff.mp head
        exact opensNothing _ dollar rfl

/-- A character of a template literal, where it opens no substitution. -/
def escapeTemplateChar (c : Char) : List Char :=
  if c = '\\' || c = '\x60' then ['\\', c] else [c]

/-- Whether a text begins with a brace does not depend on how much of it is escaped. -/
theorem head?_escapeTemplate (text : List Char) :
    (escapeTemplate text).head? = some '\x7b' ↔
      (text.flatMap escapeTemplateChar).head? = some '\x7b' := by
  cases text with
  | nil => rfl
  | cons c text =>
      rw [escapeTemplate_cons, List.flatMap_cons]
      by_cases special : (c = '\\' || c = '\x60') = true
      · rw [escapeTemplateChar, if_pos special, special, Bool.true_or]
        simp
      · rw [escapeTemplateChar, if_neg special]
        split
        · next substitution =>
            obtain ⟨rfl, -⟩ : c = '$' ∧ _ := by simpa [special] using substitution
            simp
        · simp

theorem flatMap_escapeTemplateChar_eq_replaceEach (text : List Char) :
    text.flatMap escapeTemplateChar =
      replaceEach "\x60".toList "\\\x60".toList
        (replaceEach "\\".toList "\\\\".toList text) := by
  change _ = replaceEach ['\x60'] _ (replaceEach ['\\'] _ text)
  rw [replaceEach_singleton, replaceEach_singleton, List.flatMap_assoc]
  refine List.flatMap_congr fun c _ => ?_
  by_cases backslash : c = '\\'
  · rw [backslash]
    rfl
  · by_cases backquote : c = '\x60'
    · rw [backquote]
      rfl
    · simp [escapeTemplateChar, backslash, backquote]

/-- Escaping a text for a template literal is replacing its backslashes, then its backquotes, then
every dollar sign before a brace: no replacement makes or breaks an occurrence of a later pattern. -/
theorem escapeTemplate_eq_replaceEach (text : List Char) :
    escapeTemplate text =
      replaceEach "$\x7b".toList "\\$\x7b".toList
        (replaceEach "\x60".toList "\\\x60".toList
          (replaceEach "\\".toList "\\\\".toList text)) := by
  have pair (c : Char) (rest : List Char) :
      replaceEach "$\x7b".toList "\\$\x7b".toList (c :: rest) =
        (if c = '$' ∧ rest.head? = some '\x7b' then ['\\', '$'] else [c])
          ++ replaceEach "$\x7b".toList "\\$\x7b".toList rest :=
    replaceEach_pair_cons (by decide) ['\\', '$'] c rest
  rw [← flatMap_escapeTemplateChar_eq_replaceEach]
  induction text with
  | nil => exact (replaceEach_nil _ _).symm
  | cons c text inductionHypothesis =>
      rw [escapeTemplate_cons, List.flatMap_cons]
      by_cases special : (c = '\\' || c = '\x60') = true
      · have notDollar : c ≠ '$' := by
          rintro rfl
          exact absurd special (by decide)
        rw [escapeTemplateChar, if_pos special, special, List.cons_append,
          List.singleton_append, pair, pair, ← inductionHypothesis]
        simp [notDollar]
      · rw [escapeTemplateChar, if_neg special, List.singleton_append, pair,
          ← inductionHypothesis]
        simp only [← head?_escapeTemplate]
        by_cases substitution : c = '$' ∧ (escapeTemplate text).head? = some '\x7b'
        · obtain ⟨rfl, opening⟩ := substitution
          simp [opening]
        · rw [if_neg substitution, if_neg (by simpa [special] using substitution)]
          rfl

/-- A template literal is closed by its last backquote alone, and what is between the two backquotes
stands for the text: it is the text with its backslashes, backquotes and openings of substitutions
replaced. -/
theorem unescapeTemplate?_templateExpression (text : String) :
    ∃ inside,
      (templateExpression text).toList = "\x7b\x60".toList ++ inside ++ "\x60\x7d".toList ∧
      unescapeTemplate? inside = some text.toList ∧
      inside = replaceEach "$\x7b".toList "\\$\x7b".toList
        (replaceEach "\x60".toList "\\\x60".toList
          (replaceEach "\\".toList "\\\\".toList text.toList)) := by
  obtain ⟨inside, equality, unescaped⟩ :=
    exists_of_scanTemplate? (scanTemplate?_escapeTemplate text.toList [])
  obtain rfl : escapeTemplate text.toList = inside := List.append_cancel_right equality
  refine ⟨escapeTemplate text.toList, ?_, unescaped, escapeTemplate_eq_replaceEach text.toList⟩
  simp [templateExpression, inBraces]

/-- Of two dollar signs before a brace only the second one is escaped. -/
example : templateExpression "\\\x60$$\x7b" = "\x7b\x60\\\\\\\x60$\\$\x7b\x60\x7d" := by
  decide

/-! ## Comments -/

/-- A comment that is read ends at the first terminator. -/
theorem prefix_of_scanComment? {text content rest before after : List Char}
    (scanned : scanComment? text = some (content, rest))
    (terminated : text = before ++ '*' :: '/' :: after) : content <+: before := by
  induction text using scanComment?.induct generalizing content rest before with
  | case1 => simp [scanComment?] at scanned
  | case2 further =>
      obtain ⟨rfl, rfl⟩ : [] = content ∧ further = rest := by simpa [scanComment?] using scanned
      exact List.nil_prefix
  | case3 c further continues inductionHypothesis =>
      rw [scanComment?.eq_3 c further continues, Option.map_eq_some_iff] at scanned
      obtain ⟨⟨later, _⟩, scannedLater, equality⟩ := scanned
      obtain ⟨rfl, rfl⟩ := Prod.mk.inj equality
      cases before with
      | nil =>
          obtain ⟨star, slash⟩ := List.cons.inj terminated
          exact (continues _ star slash).elim
      | cons d before =>
          obtain ⟨rfl, terminatedLater⟩ := List.cons.inj terminated
          exact (List.prefix_cons_inj c).mpr (inductionHypothesis scannedLater terminatedLater)

theorem head?_breakTerminators (text : List Char) :
    (breakTerminators text).head? = text.head? := by
  cases text with
  | nil => rfl
  | cons c text =>
      rw [breakTerminators_cons]
      split
      · next broken =>
          obtain ⟨rfl, -⟩ : c = '*' ∧ _ := by simpa using broken
          rfl
      · rfl

theorem getLast?_breakTerminators (text : List Char) :
    (breakTerminators text).getLast? = text.getLast? := by
  induction text with
  | nil => rfl
  | cons c text inductionHypothesis =>
      cases text with
      | nil => simp [breakTerminators]
      | cons d text =>
          obtain ⟨others, broken⟩ :=
            List.head?_eq_some_iff.mp (head?_breakTerminators (d :: text))
          rw [List.getLast?_cons_cons, ← inductionHypothesis, breakTerminators_cons c, broken]
          split
          · rw [List.getLast?_cons_cons, List.getLast?_cons_cons]
          · rw [List.getLast?_cons_cons]

/-- Every terminator of a text is broken by a space between its two characters. -/
theorem breakTerminators_eq_replaceEach (text : List Char) :
    breakTerminators text = replaceEach "*/".toList "* /".toList text := by
  have pair (c : Char) (rest : List Char) :
      replaceEach "*/".toList "* /".toList (c :: rest) =
        (if c = '*' ∧ rest.head? = some '/' then ['*', ' '] else [c])
          ++ replaceEach "*/".toList "* /".toList rest :=
    replaceEach_pair_cons (by decide) ['*', ' '] c rest
  induction text with
  | nil => exact (replaceEach_nil _ _).symm
  | cons c text inductionHypothesis =>
      rw [breakTerminators_cons, pair, ← inductionHypothesis, head?_breakTerminators]
      by_cases terminator : c = '*' ∧ text.head? = some '/'
      · simp [terminator]
      · rw [if_neg terminator, if_neg (by simpa using terminator)]
        rfl

theorem trim_breakTerminators_trim (text : List Char) :
    trim (breakTerminators (trim text)) = breakTerminators (trim text) := by
  apply trim_eq_self_of_ends
  · rw [head?_breakTerminators]
    exact fun c head => isBlank_of_head?_trim text head
  · rw [getLast?_breakTerminators]
    exact fun c last => isBlank_of_getLast?_trim text last

/-- A comment of JSX around a text: behind the opening, its first terminator is the one at its
end. -/
structure IsCommentAround (inside : List Char) (written : String) : Prop where
  delimited : written.toList = "\x7b/*".toList ++ inside ++ "*/\x7d".toList
  endsFirst : ∀ before after, inside ++ "*/\x7d".toList = before ++ "*/".toList ++ after →
    before = inside

theorem isCommentAround_of_scanComment? {inside : List Char} {written : String}
    (delimited : written.toList = "\x7b/*".toList ++ inside ++ "*/\x7d".toList)
    (scanned : scanComment? (inside ++ "*/\x7d".toList) = some (inside, ['\x7d'])) :
    IsCommentAround inside written := by
  refine ⟨delimited, fun before after terminated => ?_⟩
  obtain ⟨further, rfl⟩ := prefix_of_scanComment? scanned (by simpa using terminated)
  -- What is left of the comment is too short to hold a terminator behind a further character.
  have left : "*/\x7d".toList = further ++ '*' :: '/' :: after := by simpa using terminated
  match further, left with
  | [], _ => rw [List.append_nil]
  | [_], left => simp at left
  | [_, _], left => simp at left
  | _ :: _ :: _ :: _, left => simp at left

/-- A comment of JSX ends where it was closed, and between its delimiters it holds the text without
the blanks at either end and with a space in each terminator. -/
theorem isCommentAround_comment (content : String) :
    ∃ inside, IsCommentAround inside (comment content) ∧
      trim inside = replaceEach "*/".toList "* /".toList (trim content.toList) := by
  rw [← breakTerminators_eq_replaceEach]
  unfold comment
  dsimp only
  split
  · next empty =>
      refine ⟨[' '], isCommentAround_of_scanComment? (by simp [inBraces]) rfl, ?_⟩
      rw [List.isEmpty_iff.mp empty]
      decide
  · have scanned := scanComment?_between_spaces (trim content.toList) ['\x7d']
    refine ⟨' ' :: breakTerminators (trim content.toList) ++ [' '],
      isCommentAround_of_scanComment? (by simp [inBraces]) (by simpa using scanned), ?_⟩
    rw [trim_append_space, trim_space_cons, trim_breakTerminators_trim]

/-- A star before a terminator and a slash behind it make no other one. -/
example : comment " **// " = "\x7b/* ** // */\x7d" := by
  decide

end JsxFragment.Jsx
