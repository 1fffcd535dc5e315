import JsxFragment.Proofs.Jsx.ObjectScan

/-!
# Reading tags back

A tag is read as the element that it was written for: its name, the attributes that JSX has room
for, and whether it is closed.
-/

namespace JsxFragment.Jsx

open Text

/-! ## Attribute names -/

theorem isNamePart_all {part : List Char} (isPart : isNamePart part = true) :
    ∀ c ∈ part, isNameRest c = true := by
  cases part with
  | nil => simp
  | cons first rest =>
      simp only [isNamePart, Bool.and_eq_true, Bool.or_eq_true, List.all_eq_true,
        decide_eq_true_eq] at isPart
      obtain ⟨begins, continues⟩ := isPart
      refine List.forall_mem_cons.mpr ⟨?_, continues⟩
      rcases begins with ⟨word, _⟩ | rfl
      · simp [isNameRest, word]
      · rfl

theorem isAttributeChar_of_isAttributeName {name : String} (isName : isAttributeName name = true) :
    ∀ c ∈ name.toList, isAttributeChar c = true := by
  intro c member
  simp only [isAttributeName, Bool.and_eq_true, List.all_eq_true] at isName
  rcases eq_or_mem_of_mem ':' member with rfl | ⟨part, isPart, inPart⟩
  · rfl
  · simp [isAttributeChar, isNamePart_all (isName.2 part isPart) c inPart]

/-- What follows an attribute: a space, or the end of the tag. -/
def EndsAttribute (rest : List Char) : Prop :=
  rest.head? = some ' ' ∨ rest.head? = some '>'

theorem EndsAttribute.stops {rest : List Char} (ends : EndsAttribute rest) {p : Char → Bool}
    (space : p ' ' = false) (angle : p '>' = false) : ∀ c ∈ rest.head?, p c = false := by
  intro c head
  rw [Option.mem_def] at head
  rcases ends with isSpace | isAngle
  · rw [isSpace, Option.some.injEq] at head
    exact head ▸ space
  · rw [isAngle, Option.some.injEq] at head
    exact head ▸ angle

theorem EndsAttribute.isAttributeChar_eq_false {rest : List Char} (ends : EndsAttribute rest) :
    ∀ c ∈ rest.head?, isAttributeChar c = false :=
  ends.stops (by decide) (by decide)

theorem scanAttribute?_append {name : String} {text rest : List Char} {value : AttributeValue}
    (isName : isAttributeName name = true)
    (stops : ∀ c ∈ text.head?, isAttributeChar c = false)
    (scanned : scanValue? text = some (value, rest)) :
    scanAttribute? (name.toList ++ text) = some ({ name, value }, rest) := by
  have taken : (name.toList ++ text).takeWhile isAttributeChar = name.toList :=
    takeWhile_append_of_stop (isAttributeChar_of_isAttributeName isName) stops
  simp only [scanAttribute?, taken, String.ofList_toList, isName, if_true, List.drop_left, scanned,
    Option.map_some]

theorem scanAttribute?_eq_none {text : List Char}
    (noName : ∀ c ∈ text.head?, isAttributeChar c = false) : scanAttribute? text = none := by
  have taken : text.takeWhile isAttributeChar = [] := by
    cases text with
    | nil => rfl
    | cons c rest => simp [noName c rfl]
  have unnamed : isAttributeName (String.ofList []) = false := rfl
  simp only [scanAttribute?, taken, unnamed, Bool.false_eq_true, if_false]

/-! ## Strings in quotes -/

theorem scanValue?_bare {rest : List Char} (ends : EndsAttribute rest) :
    scanValue? rest = some (.bare, rest) := by
  have noValue (text : List Char) : rest ≠ '=' :: text := by
    rintro rfl
    rcases ends with head | head <;> simp at head
  unfold scanValue?
  split
  · exact absurd rfl (noValue _)
  · exact absurd rfl (noValue _)
  · exact absurd rfl (noValue _)
  · exact absurd rfl (noValue _)
  · rfl

theorem scanQuoted?_append {quote : Char} {value : List Char} (rest : List Char)
    (absent : quote ∉ value) :
    scanQuoted? quote (value ++ quote :: rest) = some (.quoted (String.ofList value), rest) := by
  simp only [scanQuoted?, cutAt_append_cons rest absent]

theorem not_mem_flatMap_referQuote (value : List Char) : '"' ∉ value.flatMap referQuote := by
  rw [List.mem_flatMap]
  intro found
  obtain ⟨c, _, member⟩ := found
  unfold referQuote at member
  split at member
  · simp at member
  · next different => exact different (List.mem_singleton.mp member).symm

/-- A value in quotes is read with its double quotes as references, where they have to be. -/
theorem scanValue?_quoteValue (value : String) (rest : List Char) :
    scanValue? ('=' :: ((quoteValue value).toList ++ rest)) =
      some (.quoted (String.ofList (plainQuotes value.toList)), rest) := by
  have inDouble {text : List Char} (absent : '"' ∉ text) :
      scanValue? ('=' :: '"' :: (text ++ '"' :: rest)) =
        some (.quoted (String.ofList text), rest) :=
    scanQuoted?_append rest absent
  have inSingle {text : List Char} (absent : '\'' ∉ text) :
      scanValue? ('=' :: '\'' :: (text ++ '\'' :: rest)) =
        some (.quoted (String.ofList text), rest) :=
    scanQuoted?_append rest absent
  have refer : (fun c => if c = '"' then "&quot;".toList else [c]) = referQuote := rfl
  unfold quoteValue plainQuotes
  rw [refer]
  by_cases double : '"' ∈ value.toList
  · by_cases single : '\'' ∈ value.toList
    · simpa [double, single] using inDouble (not_mem_flatMap_referQuote value.toList)
    · simpa [double, single] using inSingle single
  · simpa [double] using inDouble double

/-! ## Attributes -/

/-- The text is read as the attribute, wherever an attribute can end after it. -/
def ReadsAttribute (written : String) (normal : ChildAttribute) : Prop :=
  ∀ rest, EndsAttribute rest → scanAttribute? (written.toList ++ rest) = some (normal, rest)

theorem readsAttribute_bare {name : String} (isName : isAttributeName name = true) :
    ReadsAttribute name { name, value := .bare } :=
  fun _ ends => scanAttribute?_append isName ends.isAttributeChar_eq_false (scanValue?_bare ends)

theorem readsAttribute_assigned {name written : String} {value : AttributeValue}
    (isName : isAttributeName name = true)
    (scanned : ∀ rest, scanValue? ('=' :: (written.toList ++ rest)) = some (value, rest)) :
    ReadsAttribute (name ++ "=" ++ written) { name, value } := by
  intro rest _
  have text : (name ++ "=" ++ written).toList ++ rest =
      name.toList ++ '=' :: (written.toList ++ rest) := by
    simp
  have assigns : isAttributeChar '=' = false := by decide
  rw [text]
  exact scanAttribute?_append isName (stops_cons _ assigns) (scanned rest)

/-- An attribute is written if it has a normal form, and is read as that. -/
theorem writeAttribute?_cases (given : Attribute) :
    (writeAttribute? given = none ∧ normalAttribute? given = none) ∨
      ∃ written normal, writeAttribute? given = some written ∧
        normalAttribute? given = some normal ∧ ReadsAttribute written normal := by
  unfold writeAttribute? normalAttribute?
  dsimp only
  cases isName : isAttributeName (attributeName given.name) with
  | false => exact Or.inl ⟨rfl, rfl⟩
  | true =>
      right
      have isStyle : isAttributeName "style" = true := by decide
      cases given.value with
      | none => exact ⟨_, _, rfl, rfl, readsAttribute_bare isName⟩
      | some value =>
          cases style? given with
          | none =>
              exact ⟨_, _, rfl, rfl, readsAttribute_assigned isName (scanValue?_quoteValue value)⟩
          | some style =>
              cases succeeded : (Style.convert style).succeeded with
              | false =>
                  exact ⟨_, _, by simp [succeeded], by simp [succeeded],
                    readsAttribute_assigned isStyle (scanValue?_quoteValue value)⟩
              | true =>
                  have scanned (rest : List Char) := scanValue?_objectExpression rest
                    fun d member => Style.isPropertyChar_of_mem_declarations style member
                  exact ⟨_, _, by simp [succeeded, Style.Conversion.expression],
                    by simp [succeeded], readsAttribute_assigned isStyle scanned⟩

theorem ReadsAttribute.begins {written : String} {normal : ChildAttribute}
    (reads : ReadsAttribute written normal) :
    ∃ c rest, written.toList = c :: rest ∧ c ≠ '/' := by
  have scanned := reads ['>'] (Or.inr rfl)
  cases equality : written.toList with
  | nil =>
      rw [equality, List.nil_append, scanAttribute?_eq_none] at scanned
      · exact absurd scanned (by simp)
      · exact EndsAttribute.isAttributeChar_eq_false (Or.inr rfl)
  | cons c rest =>
      refine ⟨c, rest, rfl, ?_⟩
      rintro rfl
      have slash : isAttributeChar '/' = false := by decide
      rw [equality, List.cons_append, scanAttribute?_eq_none (stops_cons _ slash)] at scanned
      exact absurd scanned (by simp)

/-! ## Start tags -/

/-- The end of a start tag. -/
def tagEnd (isClosed : Bool) : List Char :=
  if isClosed then [' ', '/', '>'] else ['>']

theorem endsAttribute_tagEnd (isClosed : Bool) (rest : List Char) :
    EndsAttribute (tagEnd isClosed ++ rest) := by
  cases isClosed with
  | false => exact Or.inr rfl
  | true => exact Or.inl rfl

theorem writeAttributes_cons (given : Attribute) (others : List Attribute) :
    (writeAttributes (given :: others)).toList =
      (match writeAttribute? given with
        | none => []
        | some written => ' ' :: written.toList) ++ (writeAttributes others).toList := by
  unfold writeAttributes
  cases equality : writeAttribute? given with
  | none => simp [equality]
  | some written => simp [equality]

theorem endsAttribute_writeAttributes (attributes : List Attribute) {rest : List Char}
    (ends : EndsAttribute rest) : EndsAttribute ((writeAttributes attributes).toList ++ rest) := by
  induction attributes with
  | nil => simpa [writeAttributes] using ends
  | cons given others inductionHypothesis =>
      rw [writeAttributes_cons]
      cases writeAttribute? given with
      | none => simpa using inductionHypothesis
      | some written => exact Or.inl rfl

theorem scanHead?_attribute {written : String} {normal : ChildAttribute} {rest : List Char}
    (reads : ReadsAttribute written normal) (ends : EndsAttribute rest) :
    scanHead? (' ' :: (written.toList ++ rest)) =
      (scanHead? rest).map fun ((attributes, isClosed), after) =>
        ((normal :: attributes, isClosed), after) := by
  obtain ⟨c, others, equality, notSlash⟩ := reads.begins
  have scanned := reads rest ends
  have shorter : rest.length < (written.toList ++ rest).length := by
    rw [equality, List.length_append, List.length_cons]
    omega
  rw [scanHead?.eq_def]
  split
  · next isEnd => simp at isEnd
  · next isEnd =>
      rw [equality] at isEnd
      exact absurd (List.cons.inj (List.cons.inj isEnd).2).1 notSlash
  · next following =>
      obtain ⟨_, rfl⟩ := List.cons.inj following
      simp only [scanned, shorter, if_true]
  · next noSpace => exact absurd rfl (noSpace _)

theorem scanHead?_writeAttributes (attributes : List Attribute) (isClosed : Bool)
    (rest : List Char) :
    scanHead? ((writeAttributes attributes).toList ++ (tagEnd isClosed ++ rest)) =
      some ((attributes.filterMap normalAttribute?, isClosed), rest) := by
  induction attributes with
  | nil =>
      rw [scanHead?.eq_def]
      cases isClosed with
      | false => rfl
      | true => rfl
  | cons given others inductionHypothesis =>
      rw [writeAttributes_cons]
      rcases writeAttribute?_cases given with
        ⟨unwritten, noForm⟩ | ⟨written, normal, equality, form, reads⟩
      · rw [unwritten, List.filterMap_cons_none noForm, List.nil_append]
        exact inductionHypothesis
      · have ends := endsAttribute_writeAttributes others (endsAttribute_tagEnd isClosed rest)
        rw [equality, List.filterMap_cons_some form, List.append_assoc, List.cons_append,
          scanHead?_attribute reads ends, inductionHypothesis, Option.map_some]

/-! ## Tags -/

theorem isAsciiLetter_toLower :
    ∀ n < 0x80, isAsciiLetter (Char.ofNat n) = true →
      isAsciiLetter (Char.ofNat n).toLower = true := by
  decide

theorem isTagChar_toLower :
    ∀ n < 0x80, isTagChar (Char.ofNat n) = true → isTagChar (Char.ofNat n).toLower = true := by
  decide

theorem toNat_lt_of_isTagChar {c : Char} (isChar : isTagChar c = true) : c.toNat < 0x80 := by
  simp only [isTagChar, isAsciiLetter, isAsciiDigit, Bool.or_eq_true, Bool.and_eq_true,
    decide_eq_true_eq] at isChar
  rcases isChar with ((letter | letter) | digit) | rfl
  · omega
  · omega
  · omega
  · decide

theorem isTagChar_of_isPlainTag {tag : List Char} (plain : isPlainTag tag = true) :
    ∀ c ∈ tag, isTagChar c = true := by
  cases tag with
  | nil => simp
  | cons first rest =>
      simp only [isPlainTag, Bool.and_eq_true, List.all_eq_true] at plain
      exact List.forall_mem_cons.mpr ⟨by simp [isTagChar, plain.1], plain.2⟩

theorem isPlainTag_map_toLower {tag : List Char} (plain : isPlainTag tag = true) :
    isPlainTag (tag.map Char.toLower) = true := by
  have ascii : ∀ c ∈ tag, c.toNat < 0x80 :=
    fun c member => toNat_lt_of_isTagChar (isTagChar_of_isPlainTag plain c member)
  cases tag with
  | nil => exact plain
  | cons first rest =>
      simp only [isPlainTag, Bool.and_eq_true, List.all_eq_true] at plain
      simp only [List.map_cons, isPlainTag, Bool.and_eq_true, List.all_eq_true, List.mem_map]
      refine ⟨?_, ?_⟩
      · simpa using isAsciiLetter_toLower first.toNat (ascii first List.mem_cons_self)
          (by simpa using plain.1)
      · intro _ holds
        obtain ⟨c, member, rfl⟩ := holds
        simpa using isTagChar_toLower c.toNat (ascii c (List.mem_cons_of_mem _ member))
          (by simpa using plain.2 c member)

theorem isPlainTag_tagName {tag : String} (plain : isPlainTag tag.toList = true) :
    isPlainTag (tagName tag).toList = true := by
  unfold tagName
  split
  · have ascii : ∀ c ∈ tag.toList, c.toNat < 0x80 :=
      fun c member => toNat_lt_of_isTagChar (isTagChar_of_isPlainTag plain c member)
    rw [lower, String.toList_ofList, lowerText_of_ascii ascii]
    exact isPlainTag_map_toLower plain
  · exact plain

theorem takeWhile_isTagChar {tag : String} {rest : List Char} (plain : isPlainTag tag.toList = true)
    (stops : ∀ c ∈ rest.head?, isTagChar c = false) :
    (tag.toList ++ rest).takeWhile isTagChar = tag.toList :=
  takeWhile_append_of_stop (isTagChar_of_isPlainTag plain) stops

theorem EndsAttribute.isTagChar_eq_false {rest : List Char} (ends : EndsAttribute rest) :
    ∀ c ∈ rest.head?, isTagChar c = false :=
  ends.stops rfl rfl

theorem endsAttribute_of_scanHead? {text rest : List Char} {given : List ChildAttribute × Bool}
    (scanned : scanHead? text = some (given, rest)) : EndsAttribute text := by
  rw [scanHead?.eq_def] at scanned
  split at scanned
  · exact Or.inr rfl
  · exact Or.inl rfl
  · exact Or.inl rfl
  · exact absurd scanned (by simp)

theorem scanSymbol?_start {tag : String} (plain : isPlainTag tag.toList = true)
    {text rest : List Char} {attributes : List ChildAttribute} {isClosed : Bool}
    (scanned : scanHead? text = some ((attributes, isClosed), rest)) :
    scanSymbol? ('<' :: (tag.toList ++ text)) = some (.start tag attributes isClosed, rest) := by
  have taken := takeWhile_isTagChar plain (endsAttribute_of_scanHead? scanned).isTagChar_eq_false
  change scanTag? _ = _
  rw [scanTag?.eq_def]
  split
  · next following equality =>
      cases letters : tag.toList with
      | nil => simp [letters, isPlainTag] at plain
      | cons first others =>
          rw [letters, List.cons_append] at equality
          have slash := isTagChar_of_isPlainTag plain first (by simp [letters])
          rw [(List.cons.inj equality).1] at slash
          exact absurd slash (by decide)
  · simp only [taken, plain, if_true, List.drop_left, scanned, Option.map_some,
      String.ofList_toList]

theorem scanSymbol?_closingLine {tag : String} (plain : isPlainTag tag.toList = true)
    (rest : List Char) :
    scanSymbol? ((closingLine tag).toList ++ rest) = some (.closing tag, rest) := by
  have text : (closingLine tag).toList ++ rest = '<' :: '/' :: (tag.toList ++ '>' :: rest) := by
    simp [closingLine]
  have ends : EndsAttribute ('>' :: rest) := Or.inr rfl
  have taken := takeWhile_isTagChar plain ends.isTagChar_eq_false
  rw [text]
  change scanTag? ('/' :: (tag.toList ++ '>' :: rest)) = _
  simp only [scanTag?, taken, List.drop_left, plain, if_true, String.ofList_toList]

end JsxFragment.Jsx
