import JsxFragment.Proofs.Jsx.LeafScan
import JsxFragment.Proofs.Text.Blank
import JsxFragment.Proofs.Text.Lower
import JsxFragment.Proofs.Text.Split

/-!
# Reading style objects back

The keys of a converted style hold nothing but letters, digits, underscores and hyphens of ASCII, so
that each is read up to its colon, and the object of the style is read as its declarations.
-/

namespace JsxFragment.Jsx

open Text

namespace Style

/-! ## Keys -/

/-- A character of the name of a property. -/
def isPropertyChar (c : Char) : Bool :=
  isNameFirst c || isAsciiDigit c || c = '-'

theorem isPropertyChar_of_isNameBody {text : List Char} (isName : isNameBody text = true) :
    ∀ c ∈ text, isPropertyChar c = true := by
  cases text with
  | nil => simp
  | cons first rest =>
      simp only [isNameBody, Bool.and_eq_true, List.all_eq_true] at isName
      refine List.forall_mem_cons.mpr ⟨?_, isName.2⟩
      simp [isPropertyChar, isName.1]

theorem isPropertyChar_of_isPropertyName {text : List Char} (isName : isPropertyName text = true) :
    ∀ c ∈ text, isPropertyChar c = true := by
  unfold isPropertyName at isName
  split at isName
  · exact List.forall_mem_cons.mpr ⟨rfl, List.forall_mem_cons.mpr
      ⟨rfl, isPropertyChar_of_isNameBody isName⟩⟩
  · exact List.forall_mem_cons.mpr ⟨rfl, isPropertyChar_of_isNameBody isName⟩
  · exact isPropertyChar_of_isNameBody isName

theorem toNat_lt_of_isPropertyChar {c : Char} (isChar : isPropertyChar c = true) :
    c.toNat < 0x80 := by
  simp only [isPropertyChar, isNameFirst, isAsciiLetter, isAsciiDigit, Bool.or_eq_true,
    Bool.and_eq_true, decide_eq_true_eq] at isChar
  rcases isChar with (((letter | letter) | rfl) | digit) | rfl
  · omega
  · omega
  · decide
  · omega
  · decide

theorem isPropertyChar_case {c : Char} (isChar : isPropertyChar c = true) :
    isPropertyChar c.toLower = true ∧ isPropertyChar c.toUpper = true := by
  have cases : ∀ c : Char, c.toNat < 0x80 → isPropertyChar c = true →
      isPropertyChar c.toLower = true ∧ isPropertyChar c.toUpper = true :=
    of_ascii (by decide)
  exact cases c (toNat_lt_of_isPropertyChar isChar) isChar

theorem isPropertyChar_lowerText {text : List Char}
    (isChar : ∀ c ∈ text, isPropertyChar c = true) :
    ∀ c ∈ lowerText text, isPropertyChar c = true := by
  rw [lowerText_of_ascii fun c member => toNat_lt_of_isPropertyChar (isChar c member)]
  intro c member
  obtain ⟨d, inText, rfl⟩ := List.mem_map.mp member
  exact (isPropertyChar_case (isChar d inText)).1

theorem isPropertyChar_capitalize {word : List Char}
    (isChar : ∀ c ∈ word, isPropertyChar c = true) :
    ∀ c ∈ capitalize word, isPropertyChar c = true := by
  cases word with
  | nil => simp [capitalize]
  | cons first rest =>
      obtain ⟨isFirst, isRest⟩ := List.forall_mem_cons.mp isChar
      have ascii := toNat_lt_of_isPropertyChar isFirst
      have raised : upperText [first] = [first.toUpper] := by
        simp [upperText, ascii]
      rw [capitalize, raised, List.singleton_append, List.forall_mem_cons]
      exact ⟨(isPropertyChar_case isFirst).2, isRest⟩

theorem isPropertyChar_joined {text : List Char} (isChar : ∀ c ∈ text, isPropertyChar c = true) :
    ∀ c ∈ (match splitOn '-' text with
      | [] => []
      | first :: rest => first ++ rest.flatMap capitalize), isPropertyChar c = true := by
  have inPieces : ∀ piece ∈ splitOn '-' text, ∀ c ∈ piece, isPropertyChar c = true :=
    fun piece isPiece c inPiece => isChar c (mem_of_mem_splitOn isPiece inPiece)
  split
  · simp
  · next first rest pieces =>
      rw [pieces, List.forall_mem_cons] at inPieces
      rw [List.forall_mem_append]
      refine ⟨inPieces.1, ?_⟩
      intro c member
      obtain ⟨word, isWord, inWord⟩ := List.mem_flatMap.mp member
      exact isPropertyChar_capitalize (inPieces.2 word isWord) c inWord

theorem isPropertyChar_keyOf {name : List Char} (isName : ∀ c ∈ name, isPropertyChar c = true) :
    ∀ c ∈ keyOf name, isPropertyChar c = true := by
  have trimmedName : ∀ c ∈ trim name, isPropertyChar c = true :=
    fun c member => isName c (mem_of_mem_trim member)
  have lowered := isPropertyChar_lowerText trimmedName
  unfold keyOf
  dsimp only
  split
  · exact trimmedName
  · refine isPropertyChar_joined ?_
    split
    · exact fun c member => lowered c (List.mem_of_mem_drop member)
    · exact lowered

theorem isPropertyChar_of_declaration? {piece : List Char} {declared : String × String}
    (isDeclaration : declaration? piece = some declared) :
    ∀ c ∈ declared.1.toList, isPropertyChar c = true := by
  unfold declaration? at isDeclaration
  split at isDeclaration
  · exact absurd isDeclaration (by simp)
  · next before after cut =>
    dsimp only at isDeclaration
    split at isDeclaration
    · exact absurd isDeclaration (by simp)
    · next usable =>
        have isName : isPropertyName (trim before) = true := by
          simp only [Bool.or_eq_true, Bool.not_eq_true', not_or, Bool.not_eq_false] at usable
          exact usable.2
        rw [Option.some.injEq] at isDeclaration
        subst isDeclaration
        rw [String.toList_ofList]
        exact isPropertyChar_keyOf (isPropertyChar_of_isPropertyName isName)

theorem isPropertyChar_of_mem_declarations (source : String) {declared : String × String}
    (member : declared ∈ (convert source).declarations) :
    ∀ c ∈ declared.1.toList, isPropertyChar c = true := by
  obtain ⟨piece, _, isDeclaration⟩ := List.mem_filterMap.mp member
  exact isPropertyChar_of_declaration? isDeclaration

theorem dropLastLineFeed_of_isPropertyChar {text : List Char}
    (isChar : ∀ c ∈ text, isPropertyChar c = true) : dropLastLineFeed text = text := by
  unfold dropLastLineFeed
  rw [if_neg]
  intro last
  exact absurd (isChar '\n' (List.mem_of_getLast? last)) (by decide)

end Style

/-! ## Members -/

theorem isKeyChar_of_isNameFirst {c : Char} (isFirst : Style.isNameFirst c = true) :
    isKeyChar c = true := by
  simp only [Style.isNameFirst, Bool.or_eq_true] at isFirst
  rcases isFirst with letter | underscore
  · simp [isKeyChar, letter]
  · simp [isKeyChar, underscore]

theorem isAsciiDigit_of_isNameFirst {c : Char} (isFirst : Style.isNameFirst c = true) :
    isAsciiDigit c = false := by
  simp only [Style.isNameFirst, isAsciiLetter, Bool.or_eq_true, Bool.and_eq_true,
    decide_eq_true_eq] at isFirst
  rcases isFirst with (capital | small) | rfl
  · simp only [isAsciiDigit, Bool.and_eq_false_iff, decide_eq_false_iff_not]
    omega
  · simp only [isAsciiDigit, Bool.and_eq_false_iff, decide_eq_false_iff_not]
    omega
  · rfl

theorem scanKey?_of_isBareKey {key : List Char} (rest : List Char)
    (bare : Style.isBareKey key = true) (whole : Style.dropLastLineFeed key = key) :
    scanKey? (key ++ ':' :: rest) = some (String.ofList key, ':' :: rest) := by
  unfold Style.isBareKey at bare
  rw [whole] at bare
  cases key with
  | nil => simp at bare
  | cons first others =>
      simp only [Bool.and_eq_true, Bool.or_eq_true, decide_eq_true_eq, List.all_eq_true] at bare
      obtain ⟨begins, continues⟩ := bare
      have firstChar : isKeyChar first = true ∧ isAsciiDigit first = false := by
        rcases begins with name | rfl
        · exact ⟨isKeyChar_of_isNameFirst name, isAsciiDigit_of_isNameFirst name⟩
        · exact ⟨rfl, rfl⟩
      have otherChars : ∀ c ∈ others, isKeyChar c = true := by
        intro c member
        rcases continues c member with (name | rfl) | digit
        · exact isKeyChar_of_isNameFirst name
        · rfl
        · simp [isKeyChar, digit]
      have taken : (first :: others ++ ':' :: rest).takeWhile isKeyChar = first :: others :=
        takeWhile_append_of_stop (List.forall_mem_cons.mpr ⟨firstChar.1, otherChars⟩)
          (stops_cons rest rfl)
      have notQuote : first ≠ '"' := by
        rintro rfl
        exact absurd firstChar.1 (by decide)
      rw [scanKey?.eq_def]
      split
      · next equality => exact absurd (List.cons.inj equality).1 notQuote
      · simp only [taken, List.head?_cons, Option.any_some, firstChar.2, Bool.not_false, if_true,
          List.drop_left]

theorem scanKey?_writeKey {key : String} (rest : List Char)
    (isChar : ∀ c ∈ key.toList, Style.isPropertyChar c = true) :
    scanKey? ((Style.writeKey key).toList ++ ':' :: rest) = some (key, ':' :: rest) := by
  unfold Style.writeKey
  split
  · next bare =>
      rw [scanKey?_of_isBareKey rest bare (Style.dropLastLineFeed_of_isPropertyChar isChar),
        String.ofList_toList]
  · rw [literal_toList]
    change scanLiteral? _ = _
    rw [scanLiteral?_flatMap, String.ofList_toList]

/-- The text of a member of an object. -/
def memberText (declared : String × String) : List Char :=
  (Style.writeKey declared.1).toList ++ ':' :: ' ' :: (Json.literal declared.2).toList

theorem scanMember?_memberText {declared : String × String} (rest : List Char)
    (isChar : ∀ c ∈ declared.1.toList, Style.isPropertyChar c = true) :
    scanMember? (memberText declared ++ rest) = some (declared, rest) := by
  have text : memberText declared ++ rest = (Style.writeKey declared.1).toList ++
      ':' :: ' ' :: '"' :: (declared.2.toList.flatMap Json.escapeChar ++ '"' :: rest) := by
    rw [← literal_toList, memberText]
    simp
  rw [text]
  unfold scanMember?
  rw [scanKey?_writeKey _ isChar]
  simp only [scanLiteral?_flatMap, Option.map_some, String.ofList_toList]

theorem scanMembers?_intercalate {declared : String × String}
    {declarations : List (String × String)} (rest : List Char)
    (isChar : ∀ d ∈ declared :: declarations, ∀ c ∈ d.1.toList, Style.isPropertyChar c = true) :
    scanMembers? ([',', ' '].intercalate ((declared :: declarations).map memberText)
        ++ '\x7d' :: '\x7d' :: rest) =
      some (declared :: declarations, rest) := by
  induction declarations generalizing declared with
  | nil =>
      have isFirst := isChar declared List.mem_cons_self
      rw [scanMembers?.eq_def, List.map_singleton, List.intercalate_singleton,
        scanMember?_memberText _ isFirst]
      rfl
  | cons next others inductionHypothesis =>
      obtain ⟨isFirst, isOther⟩ := List.forall_mem_cons.mp isChar
      rw [scanMembers?.eq_def, List.map_cons, List.map_cons, List.intercalate_cons_cons,
        List.append_assoc, List.append_assoc, scanMember?_memberText _ isFirst]
      have shorter := inductionHypothesis isOther
      rw [List.map_cons] at shorter
      simp only [List.cons_append, List.nil_append, shorter, Option.map_some]
      rw [if_pos]
      simp only [List.length_append, List.length_cons]
      omega

theorem scanObject?_of_scanMembers? {text : List Char}
    {scanned : List (String × String) × List Char} (members : scanMembers? text = some scanned) :
    scanObject? text = some scanned := by
  unfold scanObject?
  split
  · next rest =>
      rw [scanMembers?.eq_def] at members
      exact absurd members (by simp [scanMember?, scanKey?, show isKeyChar '\x7d' = false from rfl])
  · exact members

theorem objectExpression_toList (declarations : List (String × String)) (rest : List Char) :
    (Style.objectExpression declarations).toList ++ rest = '\x7b' :: '\x7b' ::
      ([',', ' '].intercalate (declarations.map memberText) ++ '\x7d' :: '\x7d' :: rest) := by
  have members : (fun declared => (Style.writeKey declared.1).toList
      ++ ':' :: ' ' :: (Json.literal declared.2).toList) = memberText := rfl
  simp [Style.objectExpression, Function.comp_def, members]

theorem scanObject?_memberText {declarations : List (String × String)} (rest : List Char)
    (isChar : ∀ d ∈ declarations, ∀ c ∈ d.1.toList, Style.isPropertyChar c = true) :
    scanObject? ([',', ' '].intercalate (declarations.map memberText)
        ++ '\x7d' :: '\x7d' :: rest) = some (declarations, rest) := by
  cases declarations with
  | nil => rfl
  | cons declared others =>
      exact scanObject?_of_scanMembers? (scanMembers?_intercalate rest isChar)

theorem scanValue?_objectExpression {declarations : List (String × String)} (rest : List Char)
    (isChar : ∀ d ∈ declarations, ∀ c ∈ d.1.toList, Style.isPropertyChar c = true) :
    scanValue? ('=' :: ((Style.objectExpression declarations).toList ++ rest)) =
      some (.object declarations, rest) := by
  rw [objectExpression_toList]
  change Option.map _ (scanObject? _) = _
  rw [scanObject?_memberText rest isChar, Option.map_some]

end JsxFragment.Jsx
