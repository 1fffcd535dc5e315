import JsxFragment.Proofs.Jsx.StyleObject

/-!
# Keys of style objects

A key stands for the property that it is the key of: once each capital is a small letter behind a
hyphen again, and the vendor `ms` is behind one, it is the name of the property in small letters. So
names have the same key only if they are the same but for capitals.
-/

namespace JsxFragment.Jsx.Style

open Text

/-! ## Names and keys -/

/-- A word of a name: a letter of ASCII, and letters, digits and underscores behind it. -/
def isWord (word : List Char) : Bool :=
  match word with
  | [] => false
  | first :: rest => isAsciiLetter first && rest.all fun c => isNameFirst c || isAsciiDigit c

/-- The name of a property in words, with a hyphen between any two of them. The hyphen before the name
of a vendor's property cannot be left out where the vendor is `ms`. -/
structure WordedName where
  isPrefixed : Bool
  first : String
  others : List String
  areWords : ∀ word ∈ first :: others, isWord word.toList = true
  isPrefixed_of_ms : others ≠ [] → lower first = "ms" → isPrefixed = true

/-- The name as it is written. -/
def WordedName.text (name : WordedName) : String :=
  (if name.isPrefixed then "-" else "") ++ "-".intercalate (name.first :: name.others)

/-- A key with each capital as a small letter behind a hyphen. -/
def spreadCapitals (key : List Char) : List Char :=
  key.flatMap fun c => if c.isUpper then ['-', c.toLower] else [c]

/-- The property that a key of a style object stands for. -/
def hyphenate (key : String) : String :=
  let spread := spreadCapitals key.toList
  String.ofList (if "ms-".toList.isPrefixOf spread then '-' :: spread else spread)

theorem hyphenate_ofList (key : List Char) :
    hyphenate (String.ofList key) =
      String.ofList (if "ms-".toList.isPrefixOf (spreadCapitals key) then
        '-' :: spreadCapitals key else spreadCapitals key) := by
  rw [hyphenate, @String.toList_ofList key]

/-! ## Words in small letters -/

/-- A word in small letters. -/
structure IsSmallWord (word : List Char) : Prop where
  begins : ∃ first rest, word = first :: rest ∧ first.toNat < 0x80 ∧
    first.toUpper.isUpper = true ∧ first.toUpper.toLower = first
  isSmall : ∀ c ∈ word, c.isUpper = false
  unhyphenated : '-' ∉ word

theorem toLower_of_isAsciiLetter : ∀ c : Char, c.toNat < 0x80 → isAsciiLetter c = true →
    c.toLower.toNat < 0x80 ∧ c.toLower.toUpper.isUpper = true ∧
      c.toLower.toUpper.toLower = c.toLower :=
  of_ascii (by decide)

theorem toLower_of_isKeyChar : ∀ c : Char, c.toNat < 0x80 → isKeyChar c = true →
    c.toLower.isUpper = false ∧ c.toLower ≠ '-' :=
  of_ascii (by decide)

section Word

variable {word : List Char} (areLetters : isWord word = true)

include areLetters

theorem isPropertyChar_of_isWord : ∀ c ∈ word, isPropertyChar c = true ∧ isKeyChar c = true := by
  cases word with
  | nil => exact nofun
  | cons first rest =>
      simp only [isWord, Bool.and_eq_true, List.all_eq_true] at areLetters
      refine List.forall_mem_cons.mpr ⟨?_, fun c member => ?_⟩
      · simp [isPropertyChar, isKeyChar, isNameFirst, areLetters.1]
      · rcases Bool.or_eq_true_iff.mp (areLetters.2 c member) with name | digit
        · exact ⟨by simp [isPropertyChar, name], isKeyChar_of_isNameFirst name⟩
        · exact ⟨by simp [isPropertyChar, digit], by simp [isKeyChar, digit]⟩

theorem isSmallWord_map_toLower : IsSmallWord (word.map Char.toLower) := by
  have isChar := isPropertyChar_of_isWord areLetters
  have lowered (c : Char) (member : c ∈ word) : c.toLower.isUpper = false ∧ c.toLower ≠ '-' :=
    toLower_of_isKeyChar c (toNat_lt_of_isPropertyChar (isChar c member).1) (isChar c member).2
  constructor
  · cases word with
    | nil => simp [isWord] at areLetters
    | cons first rest =>
        simp only [isWord, Bool.and_eq_true] at areLetters
        have ascii := toNat_lt_of_isPropertyChar (isChar first List.mem_cons_self).1
        exact ⟨_, _, rfl, toLower_of_isAsciiLetter first ascii areLetters.1⟩
  · rw [List.forall_mem_map]
    exact fun c member => (lowered c member).1
  · intro hyphen
    obtain ⟨c, member, same⟩ := List.mem_map.mp hyphen
    exact (lowered c member).2 same

end Word

theorem spreadCapitals_append (first second : List Char) :
    spreadCapitals (first ++ second) = spreadCapitals first ++ spreadCapitals second :=
  List.flatMap_append

/-- Small letters stay as they are. -/
theorem spreadCapitals_of_isSmall {text : List Char} (isSmall : ∀ c ∈ text, c.isUpper = false) :
    spreadCapitals text = text := by
  induction text with
  | nil => rfl
  | cons c text inductionHypothesis =>
      obtain ⟨first, others⟩ := List.forall_mem_cons.mp isSmall
      rw [spreadCapitals, List.flatMap_cons, if_neg (by simp [first])]
      exact congrArg (c :: ·) (inductionHypothesis others)

/-- A capital that was put at the beginning of a word becomes a hyphen there. -/
theorem IsSmallWord.spreadCapitals_capitalize {word : List Char} (small : IsSmallWord word) :
    spreadCapitals (capitalize word) = '-' :: word := by
  obtain ⟨first, rest, rfl, ascii, isCapital, lowered⟩ := small.begins
  have others := spreadCapitals_of_isSmall (List.forall_mem_cons.mp small.isSmall).2
  rw [capitalize_cons rest ascii, spreadCapitals, List.flatMap_cons, if_pos isCapital, lowered]
  exact congrArg (['-', first] ++ ·) others

theorem spreadCapitals_flatMap_capitalize {words : List (List Char)}
    (small : ∀ word ∈ words, IsSmallWord word) :
    spreadCapitals (words.flatMap capitalize) = words.flatMap ('-' :: ·) := by
  induction words with
  | nil => rfl
  | cons word words inductionHypothesis =>
      obtain ⟨first, others⟩ := List.forall_mem_cons.mp small
      rw [List.flatMap_cons, List.flatMap_cons, spreadCapitals_append,
        first.spreadCapitals_capitalize, inductionHypothesis others]

/-! ## Keys of names in small letters -/

/-- The key of a name in small letters, if it is not the name of a custom property. -/
def keyOfLowered (lowered : List Char) : List Char :=
  match splitOn '-' (if "-ms-".toList.isPrefixOf lowered then lowered.drop 1 else lowered) with
  | [] => []
  | first :: rest => first ++ rest.flatMap capitalize

theorem isPrefixOf_append_cons {word : List Char} (unhyphenated : '-' ∉ word) (rest : List Char) :
    "ms-".toList.isPrefixOf (word ++ '-' :: rest) = true ↔ word = "ms".toList := by
  rw [List.isPrefixOf_iff_prefix]
  constructor
  · intro isPrefix
    match word, isPrefix with
    | [], isPrefix => simp at isPrefix
    | [c], isPrefix => simp at isPrefix
    | [c, d], isPrefix => simpa [eq_comm] using isPrefix
    | c :: d :: e :: word, isPrefix =>
        simp only [String.reduceToList, List.cons_append, List.cons_prefix_cons] at isPrefix
        exact absurd (by simp [← isPrefix.2.2.1]) unhyphenated
  · rintro rfl
    exact ⟨rest, rfl⟩

theorem not_isPrefixOf_of_unhyphenated {word : List Char} (unhyphenated : '-' ∉ word) :
    ¬"ms-".toList.isPrefixOf word = true := by
  rw [List.isPrefixOf_iff_prefix]
  rintro ⟨rest, rfl⟩
  exact unhyphenated (by simp)

section Words

variable {first : List Char} {others : List (List Char)}
  (small : ∀ word ∈ first :: others, IsSmallWord word)

include small

theorem splitOn_words :
    splitOn '-' (first ++ others.flatMap ('-' :: ·)) = first :: others :=
  splitOn_append_flatMap fun word member => (small word member).unhyphenated

theorem spreadCapitals_words :
    spreadCapitals (first ++ others.flatMap capitalize) = first ++ others.flatMap ('-' :: ·) := by
  obtain ⟨ofFirst, ofOthers⟩ := List.forall_mem_cons.mp small
  rw [spreadCapitals_append, spreadCapitals_of_isSmall ofFirst.isSmall,
    spreadCapitals_flatMap_capitalize ofOthers]

/-- The words begin with the vendor `ms` and a hyphen if it is the first of several. -/
theorem isPrefixOf_words :
    "ms-".toList.isPrefixOf (first ++ others.flatMap ('-' :: ·)) = true ↔
      others ≠ [] ∧ first = "ms".toList := by
  have unhyphenated := (small first List.mem_cons_self).unhyphenated
  cases others with
  | nil => simpa using not_isPrefixOf_of_unhyphenated unhyphenated
  | cons second others =>
      rw [List.flatMap_cons, List.cons_append, isPrefixOf_append_cons unhyphenated]
      simp

/-- The key of a name that begins with no hyphen. -/
theorem hyphenate_keyOfLowered_plain (notVendor : ¬(others ≠ [] ∧ first = "ms".toList)) :
    hyphenate (String.ofList (keyOfLowered (first ++ others.flatMap ('-' :: ·)))) =
      String.ofList (first ++ others.flatMap ('-' :: ·)) := by
  obtain ⟨c, rest, isFirst, -, -⟩ := (small first List.mem_cons_self).begins
  have notHyphen : c ≠ '-' := by
    rintro rfl
    exact (small first List.mem_cons_self).unhyphenated (isFirst ▸ List.mem_cons_self)
  have unprefixed : ¬"-ms-".toList.isPrefixOf (first ++ others.flatMap ('-' :: ·)) = true := by
    rw [List.isPrefixOf_iff_prefix, isFirst]
    exact fun isPrefix => notHyphen (List.cons_prefix_cons.mp isPrefix).1.symm
  have key : keyOfLowered (first ++ others.flatMap ('-' :: ·)) =
      first ++ others.flatMap capitalize := by
    rw [keyOfLowered, if_neg unprefixed, splitOn_words small]
  rw [key, hyphenate_ofList, spreadCapitals_words small,
    if_neg ((isPrefixOf_words small).not.mpr notVendor)]

/-- The key of a name that begins with a hyphen. -/
theorem hyphenate_keyOfLowered_prefixed :
    hyphenate (String.ofList (keyOfLowered ('-' :: (first ++ others.flatMap ('-' :: ·))))) =
      String.ofList ('-' :: (first ++ others.flatMap ('-' :: ·))) := by
  have vendor : "-ms-".toList.isPrefixOf ('-' :: (first ++ others.flatMap ('-' :: ·))) =
      "ms-".toList.isPrefixOf (first ++ others.flatMap ('-' :: ·)) := rfl
  by_cases isMs : "ms-".toList.isPrefixOf (first ++ others.flatMap ('-' :: ·)) = true
  · -- The hyphen is lost and comes back.
    have key : keyOfLowered ('-' :: (first ++ others.flatMap ('-' :: ·))) =
        first ++ others.flatMap capitalize := by
      rw [keyOfLowered, vendor, if_pos isMs, List.drop_succ_cons, List.drop_zero,
        splitOn_words small]
    rw [key, hyphenate_ofList, spreadCapitals_words small, if_pos isMs]
  · -- The first word has a capital like all others.
    have key : keyOfLowered ('-' :: (first ++ others.flatMap ('-' :: ·))) =
        (first :: others).flatMap capitalize := by
      rw [keyOfLowered, vendor, if_neg isMs, splitOn_cons, if_pos rfl, splitOn_words small]
      rfl
    rw [key, hyphenate_ofList, spreadCapitals_flatMap_capitalize small,
      List.flatMap_cons, List.cons_append]
    rfl

end Words

/-! ## Names -/

namespace WordedName

variable (name : WordedName)

/-- The words of the name in small letters. -/
def lowered : List Char × List (List Char) :=
  (name.first.toList.map Char.toLower, name.others.map fun word => word.toList.map Char.toLower)

theorem text_toList :
    name.text.toList = (if name.isPrefixed then ['-'] else []) ++
      (name.first.toList ++ (name.others.map String.toList).flatMap ('-' :: ·)) := by
  rw [text, String.toList_append, String.toList_intercalate, List.map_cons]
  have hyphen : "-".toList = ['-'] := rfl
  rw [hyphen, intercalate_cons_eq]
  cases name.isPrefixed <;> rfl

theorem isSmallWord_lowered :
    ∀ word ∈ name.lowered.1 :: name.lowered.2, IsSmallWord word := by
  have ofFirst := List.forall_mem_cons.mp name.areWords
  refine List.forall_mem_cons.mpr ⟨isSmallWord_map_toLower ofFirst.1, ?_⟩
  rw [lowered, List.forall_mem_map]
  exact fun word member => isSmallWord_map_toLower (ofFirst.2 word member)

theorem isPropertyChar_text : ∀ c ∈ name.text.toList, isPropertyChar c = true := by
  have ofFirst := List.forall_mem_cons.mp name.areWords
  rw [text_toList, List.forall_mem_append, List.forall_mem_append]
  refine ⟨?_, fun c member => (isPropertyChar_of_isWord ofFirst.1 c member).1, ?_⟩
  · cases name.isPrefixed with
    | true => exact List.forall_mem_cons.mpr ⟨rfl, nofun⟩
    | false => exact nofun
  · intro c member
    obtain ⟨word, isOther, inWord⟩ := List.mem_flatMap.mp member
    obtain ⟨other, listed, rfl⟩ := List.mem_map.mp isOther
    rcases List.mem_cons.mp inWord with rfl | inOther
    · rfl
    · exact (isPropertyChar_of_isWord (ofFirst.2 other listed) c inOther).1

theorem lowerText_text :
    lowerText name.text.toList = (if name.isPrefixed then ['-'] else []) ++
      (name.lowered.1 ++ name.lowered.2.flatMap ('-' :: ·)) := by
  rw [lowerText_of_ascii fun c member => toNat_lt_of_isPropertyChar (name.isPropertyChar_text c member),
    text_toList, List.map_append, List.map_append, List.map_flatMap, lowered, List.flatMap_map,
    List.flatMap_map]
  cases name.isPrefixed <;> rfl

/-- The name does not begin like that of a custom property. -/
theorem not_isPrefixOf_text : ¬"--".toList.isPrefixOf name.text.toList = true := by
  have ofFirst := (List.forall_mem_cons.mp name.areWords).1
  rw [List.isPrefixOf_iff_prefix, text_toList]
  cases characters : name.first.toList with
  | nil => simp [characters, isWord] at ofFirst
  | cons c rest =>
      have notHyphen : '-' ≠ c := by
        rintro rfl
        have hyphen := isPropertyChar_of_isWord ofFirst '-' (characters ▸ List.mem_cons_self)
        exact absurd hyphen.2 (by decide)
      intro isPrefix
      cases isPrefixed : name.isPrefixed with
      | true =>
          rw [isPrefixed, if_pos rfl] at isPrefix
          exact notHyphen (List.cons_prefix_cons.mp (List.cons_prefix_cons.mp isPrefix).2).1
      | false =>
          rw [isPrefixed, if_neg Bool.false_ne_true] at isPrefix
          exact notHyphen (List.cons_prefix_cons.mp isPrefix).1

theorem propertyKey_text :
    propertyKey name.text = String.ofList (keyOfLowered (lowerText name.text.toList)) := by
  have isTrimmed : trim name.text.toList = name.text.toList :=
    trim_eq_self fun c member => isBlank_of_isPropertyChar (name.isPropertyChar_text c member)
  rw [propertyKey, keyOf]
  dsimp only
  rw [isTrimmed, if_neg name.not_isPrefixOf_text]
  rfl

theorem hyphenate_propertyKey_text :
    hyphenate (propertyKey name.text) = lower name.text := by
  have small := name.isSmallWord_lowered
  rw [propertyKey_text, lower, lowerText_text]
  cases isPrefixed : name.isPrefixed with
  | true => exact hyphenate_keyOfLowered_prefixed small
  | false =>
      refine hyphenate_keyOfLowered_plain small ?_
      rintro ⟨several, isMs⟩
      have others : name.others ≠ [] := by simpa [lowered] using several
      have vendor : lower name.first = "ms" := by
        have ascii : ∀ c ∈ name.first.toList, c.toNat < 0x80 := fun c member =>
          toNat_lt_of_isPropertyChar
            (isPropertyChar_of_isWord (name.areWords _ List.mem_cons_self) c member).1
        rw [lower, lowerText_of_ascii ascii]
        exact (congrArg String.ofList isMs).trans String.ofList_toList
      rw [name.isPrefixed_of_ms others vendor] at isPrefixed
      cases isPrefixed

end WordedName

/-- The key of a property stands for the name in small letters. Two names have the same key just if
they are the same but for capitals. -/
theorem hyphenate_propertyKey (name : WordedName) :
    hyphenate (propertyKey name.text) = lower name.text ∧
      ∀ other : WordedName,
        propertyKey name.text = propertyKey other.text ↔ lower name.text = lower other.text := by
  refine ⟨name.hyphenate_propertyKey_text, fun other => ⟨fun same => ?_, fun same => ?_⟩⟩
  · rw [← name.hyphenate_propertyKey_text, ← other.hyphenate_propertyKey_text, same]
  · have lowered : lowerText name.text.toList = lowerText other.text.toList := by
      rw [lower, lower] at same
      exact String.ofList_injective same
    rw [name.propertyKey_text, other.propertyKey_text, lowered]

/-- A name for which this fails, and which is none of these: the vendor `ms` without a hyphen before
it. -/
example : hyphenate (propertyKey "ms-flex") = "-ms-flex" := by
  decide

end JsxFragment.Jsx.Style
