import JsxFragment.Proofs.Jsx.ObjectScan

/-!
# The object of a style

The object that a style is written as reads back as the declarations of the style, in their order.
Each key stands bare if it is an identifier, and in quotes if it is the name of a custom property;
there are no other keys.
-/

namespace JsxFragment.Jsx

open Text

/-! ## Objects -/

/-- The members of the object that an expression of JSX holds, if it holds one. -/
def readObject? (expression : String) : Option (List (String × String)) :=
  match expression.toList with
  | '\x7b' :: '\x7b' :: rest =>
    match scanObject? rest with
    | some (members, []) => some members
    | _ => none
  | _ => none

/-- An identifier of ASCII: a letter, an underscore or a dollar sign, and then digits as well. -/
def isIdentifier (text : List Char) : Bool :=
  match text with
  | [] => false
  | first :: rest => (Style.isNameFirst first || first = '$') && rest.all isKeyChar

/-- The text of a member of an object: a key that stands bare if it is an identifier and in quotes
if it names a custom property, and a value in quotes. -/
inductive WritesMember : String → String × String → Prop
  | bare {key : String} (value : String) (identifier : isIdentifier key.toList = true) :
      WritesMember (key ++ ": " ++ Json.literal value) (key, value)
  | quoted {key : String} (value : String) (custom : ['-', '-'] <+: key.toList) :
      WritesMember (Json.literal key ++ ": " ++ Json.literal value) (key, value)

namespace Style

/-! ## Keys -/

theorem isKeyChar_of_isPropertyChar {c : Char} (isChar : isPropertyChar c = true)
    (notHyphen : c ≠ '-') : isKeyChar c = true := by
  simp only [isPropertyChar, Bool.or_eq_true, decide_eq_true_eq, notHyphen, or_false] at isChar
  rcases isChar with first | digit
  · exact isKeyChar_of_isNameFirst first
  · simp [isKeyChar, digit]

theorem isKeyChar_toUpper : ∀ c : Char, c.toNat < 0x80 → isKeyChar c = true →
    isKeyChar c.toUpper = true :=
  of_ascii (by decide)

theorem isNameFirst_case : ∀ c : Char, c.toNat < 0x80 → isNameFirst c = true →
    isNameFirst c.toUpper = true ∧ isNameFirst c.toLower = true :=
  of_ascii (by decide)

theorem capitalize_cons {first : Char} (rest : List Char) (ascii : first.toNat < 0x80) :
    capitalize (first :: rest) = first.toUpper :: rest := by
  simp [capitalize, upperText, ascii]

/-- The characters of a word between hyphens are those of an identifier. -/
theorem isKeyChar_of_mem_splitOn {text word : List Char}
    (isChar : ∀ c ∈ text, isPropertyChar c = true) (isWord : word ∈ splitOn '-' text) :
    ∀ c ∈ word, isKeyChar c = true := by
  intro c inWord
  refine isKeyChar_of_isPropertyChar (isChar c (mem_of_mem_splitOn isWord inWord)) ?_
  rintro rfl
  exact not_mem_of_mem_splitOn isWord inWord

theorem isKeyChar_capitalize {word : List Char} (isChar : ∀ c ∈ word, isPropertyChar c = true)
    (isKey : ∀ c ∈ word, isKeyChar c = true) : ∀ c ∈ capitalize word, isKeyChar c = true := by
  cases word with
  | nil => simp [capitalize]
  | cons first rest =>
      obtain ⟨keyFirst, keyRest⟩ := List.forall_mem_cons.mp isKey
      have ascii := toNat_lt_of_isPropertyChar (isChar first List.mem_cons_self)
      rw [capitalize_cons rest ascii]
      exact List.forall_mem_cons.mpr ⟨isKeyChar_toUpper first ascii keyFirst, keyRest⟩

theorem isIdentifier_cons {first : Char} {rest : List Char} (begins : isNameFirst first = true)
    (continues : ∀ c ∈ rest, isKeyChar c = true) : isIdentifier (first :: rest) = true := by
  simp only [isIdentifier, begins, Bool.true_or, Bool.true_and, List.all_eq_true]
  exact continues

/-- The words between the hyphens of a name make an identifier, whether the first one is capitalized
or not. -/
theorem isIdentifier_words {first : Char} {rest : List Char} (begins : isNameFirst first = true)
    (isChar : ∀ c ∈ first :: rest, isPropertyChar c = true) :
    ∃ word words, splitOn '-' (first :: rest) = word :: words ∧
      isIdentifier (word ++ words.flatMap capitalize) = true ∧
      isIdentifier (capitalize word ++ words.flatMap capitalize) = true := by
  have notHyphen : first ≠ '-' := by
    rintro rfl
    exact absurd begins (by decide)
  have ascii := toNat_lt_of_isPropertyChar (isChar first List.mem_cons_self)
  obtain ⟨word, words, split, _⟩ := exists_splitOn_eq '-' rest
  have pieces : splitOn '-' (first :: rest) = (first :: word) :: words := by
    rw [splitOn_cons, if_neg notHyphen, split]
  have inPieces : ∀ piece ∈ (first :: word) :: words, ∀ c ∈ piece, isKeyChar c = true :=
    fun piece isPiece => isKeyChar_of_mem_splitOn isChar (pieces ▸ isPiece)
  have inWords : ∀ c ∈ words.flatMap capitalize, isKeyChar c = true := by
    intro c member
    obtain ⟨piece, isPiece, inPiece⟩ := List.mem_flatMap.mp member
    have later : piece ∈ (first :: word) :: words := List.mem_cons_of_mem _ isPiece
    refine isKeyChar_capitalize (fun d inside => ?_) (inPieces piece later) c inPiece
    exact isChar d (mem_of_mem_splitOn (pieces ▸ later) inside)
  have inFirst := (List.forall_mem_cons.mp (inPieces _ List.mem_cons_self)).2
  have inAll : ∀ c ∈ word ++ words.flatMap capitalize, isKeyChar c = true :=
    List.forall_mem_append.mpr ⟨inFirst, inWords⟩
  refine ⟨first :: word, words, pieces, isIdentifier_cons begins inAll, ?_⟩
  rw [capitalize_cons word ascii]
  exact isIdentifier_cons (isNameFirst_case first ascii begins).1 inAll

theorem isBlank_of_isPropertyChar {c : Char} (isChar : isPropertyChar c = true) :
    isBlank c = false := by
  have cases : ∀ c : Char, c.toNat < 0x80 → isPropertyChar c = true → isBlank c = false :=
    of_ascii (by decide)
  exact cases c (toNat_lt_of_isPropertyChar isChar) isChar

/-- A name after its hyphens, in small letters: it begins like an identifier. -/
theorem exists_lowered_of_isNameBody {text : List Char} (isName : isNameBody text = true) :
    ∃ first rest, text.map Char.toLower = first :: rest ∧ isNameFirst first = true ∧
      ∀ c ∈ first :: rest, isPropertyChar c = true := by
  have isChar := isPropertyChar_of_isNameBody isName
  cases text with
  | nil => simp [isNameBody] at isName
  | cons first rest =>
      simp only [isNameBody, Bool.and_eq_true] at isName
      have ascii := toNat_lt_of_isPropertyChar (isChar first List.mem_cons_self)
      have lowered := (isNameFirst_case first ascii isName.1).2
      refine ⟨first.toLower, rest.map Char.toLower, rfl, lowered, ?_⟩
      rw [← List.map_cons, List.forall_mem_map]
      exact fun c member => (isPropertyChar_case (isChar c member)).1

/-- The key of a property is an identifier, unless the property is a custom one, whose name stays as
it is. -/
theorem isIdentifier_keyOf {name : List Char} (isName : isPropertyName name = true) :
    isIdentifier (keyOf name) = true ∨ ['-', '-'] <+: keyOf name := by
  have isChar := isPropertyChar_of_isPropertyName isName
  have isTrimmed : trim name = name := trim_eq_self fun c member =>
    isBlank_of_isPropertyChar (isChar c member)
  have lowered : lowerText name = name.map Char.toLower :=
    lowerText_of_ascii fun c member => toNat_lt_of_isPropertyChar (isChar c member)
  unfold keyOf
  dsimp only
  rw [isTrimmed, lowered]
  split
  · next custom => exact Or.inr (List.isPrefixOf_iff_prefix.mp custom)
  · next notCustom =>
      left
      unfold isPropertyName at isName
      split at isName
      · next rest => exact absurd (by simp) notCustom
      · next rest _ =>
          -- The vendor `ms` loses its hyphen, and the words of any other vendor are all capitalized.
          obtain ⟨first, others, small, begins, areChars⟩ := exists_lowered_of_isNameBody isName
          obtain ⟨word, words, pieces, plain, raised⟩ := isIdentifier_words begins areChars
          have hyphen : Char.toLower '-' = '-' := by decide
          rw [List.map_cons, small, hyphen]
          by_cases vendor : "-ms-".toList.isPrefixOf ('-' :: first :: others) = true
          · rw [if_pos vendor, List.drop_succ_cons, List.drop_zero, pieces]
            exact plain
          · rw [if_neg vendor, splitOn_cons, if_pos rfl, pieces]
            exact raised
      · obtain ⟨first, others, small, begins, areChars⟩ := exists_lowered_of_isNameBody isName
        obtain ⟨word, words, pieces, plain, _⟩ := isIdentifier_words begins areChars
        have noHyphen : ¬"-ms-".toList.isPrefixOf (first :: others) = true := by
          rw [List.isPrefixOf_iff_prefix]
          intro isPrefix
          rw [← (List.cons_prefix_cons.mp isPrefix).1] at begins
          exact absurd begins (by decide)
        rw [small, if_neg noHyphen, pieces]
        exact plain

theorem isPropertyName_of_declaration? {piece : List Char} {declared : String × String}
    (isDeclaration : declaration? piece = some declared) :
    ∃ name, isPropertyName name = true ∧ declared.1 = String.ofList (keyOf name) := by
  unfold declaration? at isDeclaration
  split at isDeclaration
  · exact absurd isDeclaration (by simp)
  · next before after cut =>
    dsimp only at isDeclaration
    split at isDeclaration
    · exact absurd isDeclaration (by simp)
    · next usable =>
        rw [Option.some.injEq] at isDeclaration
        subst isDeclaration
        simp only [Bool.or_eq_true, Bool.not_eq_true', not_or, Bool.not_eq_false] at usable
        exact ⟨trim before, usable.2, rfl⟩

/-! ## Members -/

theorem isBareKey_eq_isIdentifier {key : List Char} (whole : dropLastLineFeed key = key) :
    isBareKey key = isIdentifier key := by
  unfold isBareKey isIdentifier
  rw [whole]
  cases key with
  | nil => rfl
  | cons first rest =>
      have sameChars : (fun c => isNameFirst c || decide (c = '$') || isAsciiDigit c) =
          isKeyChar := by
        funext c
        simp only [isNameFirst, isKeyChar]
        ac_rfl
      simp only [sameChars]

/-- A declaration is written as a member whose key stands as it should. -/
theorem writesMember {source : String} {declared : String × String}
    (member : declared ∈ (convert source).declarations) :
    WritesMember (writeKey declared.1 ++ ": " ++ Json.literal declared.2) declared := by
  obtain ⟨piece, _, isDeclaration⟩ := List.mem_filterMap.mp member
  obtain ⟨name, isName, isKey⟩ := isPropertyName_of_declaration? isDeclaration
  have isChar := isPropertyChar_of_declaration? isDeclaration
  have bareKey := isBareKey_eq_isIdentifier (dropLastLineFeed_of_isPropertyChar isChar)
  obtain ⟨key, value⟩ := declared
  dsimp only at isKey isChar bareKey ⊢
  have keyChars : key.toList = keyOf name := by rw [isKey, String.toList_ofList]
  unfold writeKey
  rw [bareKey]
  split
  · next identifier => exact .bare value identifier
  · next notIdentifier =>
      rw [keyChars] at notIdentifier
      exact .quoted value (keyChars ▸ (isIdentifier_keyOf isName).resolve_left notIdentifier)

/-- The object of a style reads back as the declarations of the style. Its members are written one
for each declaration, with a key that stands bare if it is an identifier, and that is in quotes and
begins with two hyphens otherwise. -/
theorem readObject?_expression (source : String) :
    readObject? (convert source).expression = some (convert source).declarations ∧
      ∃ members, (convert source).expression =
          "\x7b\x7b" ++ ", ".intercalate members ++ "\x7d\x7d" ∧
        List.Forall₂ WritesMember members (convert source).declarations := by
  constructor
  · have written := objectExpression_toList (convert source).declarations []
    rw [List.append_nil] at written
    unfold readObject?
    rw [Conversion.expression, written]
    simp only [scanObject?_memberText [] fun _ => isPropertyChar_of_mem_declarations source]
  · refine ⟨_, rfl, ?_⟩
    rw [List.forall₂_map_left_iff, List.forall₂_same]
    exact fun declared member => writesMember member

end Style

end JsxFragment.Jsx
