import JsxFragment.Proofs.Token.TagEmission
import Mathlib.Data.List.Induction

/-!
# Spellings of a start tag

A start tag can be written in many ways: with any blanks before its attributes, around their `=` and
before its end, and with each value between quotes or bare. The tokens tell its name, its attributes
and its end, and nothing of the way in which they were written.
-/

namespace JsxFragment

open Text

/-! ## Values -/

/-- The ways to write a value. -/
inductive ValueForm where
  | doubleQuoted
  | singleQuoted
  | unquoted
  deriving DecidableEq, Repr

namespace ValueForm

/-- The value as it is written. -/
def write (form : ValueForm) (value : List Char) : List Char :=
  match form with
  | doubleQuoted => '"' :: (value ++ ['"'])
  | singleQuoted => '\'' :: (value ++ ['\''])
  | unquoted => value

/-- The value can be written in this way: a quoted one does not hold its quote, and an unquoted one
is not empty, has no blank and no `>`, and does not begin with a quote. -/
def Suits (form : ValueForm) (value : List Char) : Prop :=
  match form with
  | doubleQuoted => '"' ∉ value
  | singleQuoted => '\'' ∉ value
  | unquoted =>
      value ≠ [] ∧ (∀ c ∈ value, isBlank c = false ∧ c ≠ '>') ∧
        value.head? ≠ some '"' ∧ value.head? ≠ some '\''

/-- The form with its value, as a spelling. -/
def spelling (form : ValueForm) (value : List Char) : ValueSpelling :=
  match form with
  | doubleQuoted => .quoted '"' value
  | singleQuoted => .quoted '\'' value
  | unquoted => .unquoted value

@[simp]
theorem content_spelling (form : ValueForm) (value : List Char) :
    (form.spelling value).content = value := by
  cases form <;> rfl

@[simp]
theorem source_spelling (form : ValueForm) (value : List Char) :
    (form.spelling value).source = form.write value := by
  cases form <;> rfl

theorem isSpelled_spelling {form : ValueForm} {value : List Char} (suits : form.Suits value) :
    (form.spelling value).IsSpelled := by
  cases form with
  | doubleQuoted => exact ⟨Or.inl rfl, suits⟩
  | singleQuoted => exact ⟨Or.inr rfl, suits⟩
  | unquoted => exact suits

end ValueForm

/-! ## Attributes -/

/-- A way to write an attribute: the blanks before it, those around its `=`, and the form of its
value. The blanks around the `=` and the form are of no account if it has no value. -/
structure AttributeForm where
  gap : List Char
  beforeEquals : List Char := []
  afterEquals : List Char := []
  value : ValueForm := .doubleQuoted

namespace AttributeForm

/-- The attribute as it is written. -/
def write (form : AttributeForm) (given : Attribute) : List Char :=
  form.gap ++ given.name.toList ++
    match given.value with
    | none => []
    | some value =>
        form.beforeEquals ++ '=' :: (form.afterEquals ++ form.value.write value.toList)

/-- The attribute can be written in this way. There is at least one blank before it. -/
structure Suits (form : AttributeForm) (given : Attribute) : Prop where
  gap_ne_nil : form.gap ≠ []
  gap : ∀ c ∈ form.gap, isBlank c = true
  beforeEquals : ∀ c ∈ form.beforeEquals, isBlank c = true
  afterEquals : ∀ c ∈ form.afterEquals, isBlank c = true
  value : ∀ value ∈ given.value, form.value.Suits value.toList

/-- The form with its attribute, as a spelling. -/
def spelling (form : AttributeForm) (given : Attribute) : AttributeSpelling :=
  { gap := form.gap
    name := given.name.toList
    assignment := given.value.map fun value =>
      ⟨form.beforeEquals, form.afterEquals, form.value.spelling value.toList⟩ }

@[simp]
theorem given_spelling (form : AttributeForm) (given : Attribute) :
    (form.spelling given).given = given := by
  obtain ⟨name, value⟩ := given
  cases value <;> simp [spelling, AttributeSpelling.given]

@[simp]
theorem source_spelling (form : AttributeForm) (given : Attribute) :
    (form.spelling given).source = form.write given := by
  obtain ⟨name, value⟩ := given
  cases value <;> simp [spelling, write, AttributeSpelling.source, Assignment.source]

/-- The attribute ends with an unquoted value. -/
def EndsUnquoted (form : AttributeForm) (given : Attribute) : Prop :=
  given.value ≠ none ∧ form.value = .unquoted

theorem edge_spelling_ne_missingValue (form : AttributeForm) (given : Attribute) :
    (form.spelling given).edge ≠ .missingValue := by
  obtain ⟨name, value⟩ := given
  obtain ⟨gap, beforeEquals, afterEquals, valueForm⟩ := form
  cases value with
  | none => simp [spelling, AttributeSpelling.edge]
  | some value => cases valueForm <;> simp [spelling, AttributeSpelling.edge, ValueForm.spelling]

theorem endsUnquoted_of_edge_spelling {form : AttributeForm} {given : Attribute}
    (edge : (form.spelling given).edge = .unquotedValue) : form.EndsUnquoted given := by
  obtain ⟨name, value⟩ := given
  obtain ⟨gap, beforeEquals, afterEquals, valueForm⟩ := form
  cases value with
  | none => exact absurd edge (by simp [spelling, AttributeSpelling.edge])
  | some value =>
      cases valueForm with
      | unquoted => exact ⟨by simp, rfl⟩
      | _ => exact absurd edge (by simp [spelling, AttributeSpelling.edge, ValueForm.spelling])

end AttributeForm

/-- The name of the attribute is not empty and has no blank and none of `/`, `>` and `=`. -/
structure Attribute.IsNameable (given : Attribute) : Prop where
  nonempty : given.name ≠ ""
  plain : ∀ c ∈ given.name.toList, isTagNameChar c = true ∧ c ≠ '='

theorem Edge.allowsGap_of_blanks {edge : Edge} {gap : List Char} (settled : edge ≠ .missingValue)
    (nonempty : gap ≠ []) (blank : ∀ c ∈ gap, isBlank c = true) : edge.AllowsGap gap := by
  refine ⟨fun c member => isGapChar_of_isBlank (blank c member), ?_⟩
  cases edge with
  | tagName => exact nonempty
  | bareName => exact nonempty
  | quotedValue => trivial
  | unquotedValue =>
      obtain ⟨first, rest, rfl⟩ := List.exists_cons_of_ne_nil nonempty
      exact ⟨first, rest, rfl, blank first List.mem_cons_self⟩
  | missingValue => exact settled rfl

theorem AttributeForm.Suits.follows {form : AttributeForm} {given : Attribute}
    (suits : form.Suits given) (nameable : given.IsNameable) {edge : Edge}
    (settled : edge ≠ .missingValue) : (form.spelling given).Follows edge where
  gap := by
    refine ⟨Edge.allowsGap_of_blanks settled suits.gap_ne_nil suits.gap, ?_⟩
    intro _ assigned
    have member : '=' ∈ given.name.toList := List.mem_of_head? assigned
    exact absurd rfl (nameable.plain '=' member).2
  name :=
    { nonempty := by simpa [spelling] using nameable.nonempty
      closed := fun c member => (nameable.plain c member).1
      unassigned := fun c member => (nameable.plain c (List.mem_of_mem_tail member)).2 }
  assignment := by
    intro assignment member
    obtain ⟨value, isValue, rfl⟩ := Option.map_eq_some_iff.mp member
    exact ⟨suits.beforeEquals, suits.afterEquals,
      ValueForm.isSpelled_spelling (suits.value value isValue)⟩

/-! ## Tags -/

/-- A start tag with the way in which it is written. -/
structure WrittenTag where
  name : String
  attributes : List (Attribute × AttributeForm)
  /-- The blanks before the end of the tag. -/
  blanks : List Char
  selfClosing : Bool

namespace WrittenTag

/-- The text of the tag. -/
def source (tag : WrittenTag) : List Char :=
  '<' :: (tag.name.toList ++ tag.attributes.flatMap (fun part => part.2.write part.1) ++
    tag.blanks ++ if tag.selfClosing then ['/', '>'] else ['>'])

/-- The tag can be written in this way. A slash right after an unquoted value would belong to it. -/
structure IsSuited (tag : WrittenTag) : Prop where
  name : IsTagName tag.name.toList
  nameable : ∀ part ∈ tag.attributes, part.1.IsNameable
  suits : ∀ part ∈ tag.attributes, part.2.Suits part.1
  blanks : ∀ c ∈ tag.blanks, isBlank c = true
  apart : tag.selfClosing = true →
    (∃ part ∈ tag.attributes.getLast?, part.2.EndsUnquoted part.1) → tag.blanks ≠ []

/-- The attributes of the tag, as spellings. -/
def spellings (tag : WrittenTag) : List AttributeSpelling :=
  tag.attributes.map fun part => part.2.spelling part.1

/-- The tag as a construct. -/
def startTag (tag : WrittenTag) : StartTag :=
  { head := ⟨tag.name.toList, tag.spellings⟩
    gap := tag.blanks ++ if tag.selfClosing then ['/'] else [] }

theorem source_startTag (tag : WrittenTag) : tag.startTag.source = tag.source := by
  have attributes : tag.spellings.flatMap AttributeSpelling.source =
      tag.attributes.flatMap fun part => part.2.write part.1 := by
    simp [spellings, List.flatMap_map]
  cases closing : tag.selfClosing <;>
    simp [startTag, StartTag.source, TagHead.source, source, attributes, closing]

theorem selfClosing_startTag {tag : WrittenTag} (suited : tag.IsSuited) :
    tag.startTag.selfClosing = tag.selfClosing := by
  cases closing : tag.selfClosing with
  | true => simp [startTag, StartTag.selfClosing, closing]
  | false =>
      have notSlash : tag.blanks.getLast? ≠ some '/' := by
        intro last
        exact absurd (suited.blanks '/' (List.mem_of_getLast? last)) (by decide)
      simpa [startTag, StartTag.selfClosing, closing] using notSlash

theorem phrase_startTag {tag : WrittenTag} (suited : tag.IsSuited) :
    tag.startTag.phrase =
      .startTag tag.name (tag.attributes.map Prod.fst) tag.selfClosing := by
  have attributes : tag.spellings.map AttributeSpelling.given = tag.attributes.map Prod.fst := by
    simp [spellings, Function.comp_def]
  rw [StartTag.phrase, selfClosing_startTag suited]
  simp [startTag, attributes]

theorem attributesFollow_spellings {parts : List (Attribute × AttributeForm)}
    (nameable : ∀ part ∈ parts, part.1.IsNameable) (suits : ∀ part ∈ parts, part.2.Suits part.1)
    {edge : Edge} (settled : edge ≠ .missingValue) :
    AttributesFollow edge (parts.map fun part => part.2.spelling part.1) := by
  induction parts generalizing edge with
  | nil => trivial
  | cons part rest inductionHypothesis =>
      rw [List.forall_mem_cons] at nameable suits
      refine ⟨suits.1.follows nameable.1 settled, ?_⟩
      apply inductionHypothesis nameable.2 suits.2
      exact part.2.edge_spelling_ne_missingValue part.1

/-- The head ends as its last attribute does. -/
theorem edge_startTag (tag : WrittenTag) :
    tag.startTag.head.edge =
      (tag.attributes.getLast?.map fun part => (part.2.spelling part.1).edge).getD .tagName := by
  obtain ⟨name, attributes, blanks, selfClosing⟩ := tag
  cases attributes using List.reverseRecOn with
  | nil => rfl
  | append_singleton before last =>
      simp [startTag, spellings, TagHead.edge, lastEdge_append]

theorem IsSuited.allowsEnd {tag : WrittenTag} (suited : tag.IsSuited) :
    tag.startTag.head.edge.AllowsEnd tag.startTag.gap := by
  have settled : tag.startTag.head.edge ≠ .missingValue := by
    rw [edge_startTag]
    cases tag.attributes.getLast? with
    | none => simp
    | some part => exact part.2.edge_spelling_ne_missingValue part.1
  by_cases noBlanks : tag.blanks = []
  · cases closing : tag.selfClosing with
    | false => exact Or.inl (by simp [startTag, noBlanks, closing])
    | true =>
        -- Without a blank, the slash has to come after something that it ends.
        have notUnquoted : tag.startTag.head.edge ≠ .unquotedValue := by
          intro unquoted
          rw [edge_startTag] at unquoted
          cases last : tag.attributes.getLast? with
          | none => simp [last] at unquoted
          | some part =>
              have edge : (part.2.spelling part.1).edge = .unquotedValue := by
                simpa [last] using unquoted
              have ends := AttributeForm.endsUnquoted_of_edge_spelling edge
              exact suited.apart closing ⟨part, last, ends⟩ noBlanks
        have slash : tag.startTag.gap = ['/'] := by simp [startTag, noBlanks, closing]
        rw [slash]
        exact Or.inr (Edge.allowsGap_singleton (by decide)
          (fun unquoted => absurd unquoted notUnquoted) settled)
  · have allowed := Edge.allowsGap_of_blanks settled noBlanks suited.blanks
    refine Or.inr ?_
    cases closing : tag.selfClosing with
    | false => simpa [startTag, closing] using allowed
    | true => simpa [startTag, closing] using allowed.append (c := '/') (by decide)

theorem IsSuited.isSpelled {tag : WrittenTag} (suited : tag.IsSuited) :
    tag.startTag.IsSpelled where
  head :=
    { name := suited.name
      attributes := attributesFollow_spellings suited.nameable suited.suits (by simp) }
  gap := suited.allowsEnd

end WrittenTag

/-! ## Reading -/

namespace Lexer

theorem finish_afterTag {raw : Option RawElement} {mode : Mode} (afterTag : AfterTag raw mode) :
    (finish mode).tokens = [] ∧ (finish mode).repairs = [] := by
  cases raw with
  | none =>
      obtain rfl : mode = .between := afterTag
      exact ⟨rfl, rfl⟩
  | some element =>
      obtain ⟨start, stretch, rfl, empty⟩ := afterTag
      have noCharacters : stretch.reversed.isEmpty = true := by
        simpa [Stretch.characters] using empty
      simp [finish, noCharacters]

end Lexer

/-- However a start tag is written, it is cut into the tokens of its `<`, its name, its attributes
with their values, and its end, and nothing has to be put right. -/
theorem tokenize_writtenTag {tag : WrittenTag} (suited : tag.IsSuited) :
    (tokenize (String.ofList tag.source)).tokens.map Token.lexeme =
        ⟨.tagStart, "<"⟩ :: ⟨.tagName, tag.name⟩ ::
          ((tag.attributes.map Prod.fst).flatMap Attribute.lexemes ++
            [⟨.tagEnd, if tag.selfClosing then "/>" else ">"⟩]) ∧
      (tokenize (String.ofList tag.source)).repairs = [] := by
  have emits := Lexer.emits_startTag suited.isSpelled []
  rw [WrittenTag.source_startTag, WrittenTag.phrase_startTag suited, List.nil_append] at emits
  obtain ⟨afterTag, tokens, repairs⟩ := emits Lexer.State.initial (Or.inl ⟨rfl, rfl⟩)
  obtain ⟨noTokens, noRepairs⟩ := Lexer.finish_afterTag afterTag
  unfold tokenize
  rw [String.toList_ofList]
  refine ⟨?_, ?_⟩
  · have settled : (Lexer.State.initial.run tag.source).tokens.reverse.map Token.lexeme =
        (Phrase.startTag tag.name (tag.attributes.map Prod.fst) tag.selfClosing).lexemes := tokens
    simpa [Lexer.State.record, noTokens, Phrase.lexemes] using settled
  · have started : Lexer.State.initial.repairs = [] := rfl
    simp [Lexer.State.record, noRepairs, repairs, started]

/-- A tag whose attributes are written in all ways, the last value right before the end. -/
def sampleTag : WrittenTag :=
  { name := "Br"
    attributes :=
      [(⟨"a", some "x'y /"⟩, { gap := [' '], afterEquals := ['\n'] }),
        (⟨"b", none⟩, { gap := ['\t', ' '] }),
        (⟨"c", some "<\""⟩, { gap := [' '], beforeEquals := [' '], value := .singleQuoted }),
        (⟨"d", some "/=z/"⟩, { gap := ['\n'], value := .unquoted })]
    blanks := [' ']
    selfClosing := true }

theorem tokenize_writtenTag_sampleTag :
    sampleTag.IsSuited ∧
      sampleTag.source = "<Br a=\n\"x'y /\"\t b c ='<\"'\nd=/=z/ />".toList ∧
      (tokenize (String.ofList sampleTag.source)).tokens.map Token.lexeme =
        [⟨.tagStart, "<"⟩, ⟨.tagName, "Br"⟩, ⟨.attributeName, "a"⟩, ⟨.attributeValue, "x'y /"⟩,
          ⟨.attributeName, "b"⟩, ⟨.attributeName, "c"⟩, ⟨.attributeValue, "<\""⟩,
          ⟨.attributeName, "d"⟩, ⟨.attributeValue, "/=z/"⟩, ⟨.tagEnd, "/>"⟩] ∧
      (tokenize (String.ofList sampleTag.source)).repairs = [] := by
  have suited : sampleTag.IsSuited := by
    have plain : isTagNameChar 'a' = true ∧ isTagNameChar 'b' = true ∧ isTagNameChar 'c' = true ∧
        isTagNameChar 'd' = true := by decide
    have blank : isBlank ' ' = true ∧ isBlank '\n' = true ∧ isBlank '\t' = true := by decide
    have bare : isBlank '/' = false ∧ isBlank '=' = false ∧ isBlank 'z' = false := by decide
    refine ⟨⟨⟨'B', ['r'], rfl, rfl⟩, List.all_eq_true.mp rfl⟩, ?_, ?_, List.all_eq_true.mp rfl, ?_⟩
    · simp only [sampleTag, List.forall_mem_cons]
      refine ⟨⟨by simp, ?_⟩, ⟨by simp, ?_⟩, ⟨by simp, ?_⟩, ⟨by simp, ?_⟩, by simp⟩
      all_goals simp [plain]
    · simp only [sampleTag, List.forall_mem_cons]
      refine ⟨⟨by simp, ?_, ?_, ?_, ?_⟩, ⟨by simp, ?_, ?_, ?_, ?_⟩, ⟨by simp, ?_, ?_, ?_, ?_⟩,
        ⟨by simp, ?_, ?_, ?_, ?_⟩, by simp⟩
      all_goals simp [ValueForm.Suits, blank, bare]
    · exact fun _ _ => List.cons_ne_nil _ _
  exact ⟨suited, by decide, tokenize_writtenTag suited⟩

end JsxFragment
