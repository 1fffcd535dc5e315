import JsxFragment.Proofs.Token.Emission
import JsxFragment.Proofs.Token.TagReading

/-!
# Emission of tags

A tag that is spelled as it has to be is read as its phrase, whatever stands before it. The name of
an attribute and an unquoted value are only settled by the character after them, so what is known
between the parts of a tag is what the lexemes will be then.
-/

namespace JsxFragment

open Text

namespace Lexer

theorem ne_of_isBlank {c d : Char} (blank : isBlank c = true) (notBlank : isBlank d = false) :
    c ≠ d := by
  rintro rfl
  rw [blank] at notBlank
  exact absurd notBlank (by simp)

/-! ## Places in a start tag -/

/-- The place at the end of a head, with the lexemes and the raw text element that it has once its
last part is settled. -/
inductive EndsHead (source : TagSource) :
    TagMode → Edge → List Lexeme → Option RawElement → Prop
  | tagName (stretch : Stretch) :
      EndsHead source (.name stretch) .tagName
        (source.lexemes ++ [⟨.tagName, String.ofList stretch.characters⟩])
        (RawElement.ofTag? (String.ofList stretch.characters))
  | bareName (stretch : Stretch) :
      EndsHead source (.attributeName stretch) .bareName
        (source.lexemes ++ [⟨.attributeName, String.ofList stretch.characters⟩]) source.raw
  | quotedValue :
      EndsHead source .beforeAttribute .quotedValue source.lexemes source.raw
  | unquotedValue (stretch : Stretch) :
      EndsHead source (.unquotedValue stretch) .unquotedValue
        (source.lexemes ++ [⟨.attributeValue, String.ofList stretch.characters⟩]) source.raw
  | missingValue :
      EndsHead source .beforeValue .missingValue
        (source.lexemes ++ [⟨.attributeValue, ""⟩]) source.raw

/-- A head has just ended. -/
def AtEdge (edge : Edge) (lexemes : List Lexeme) (raw : Option RawElement) (mode : Mode) : Prop :=
  ∃ source tagMode, mode = .tag source tagMode ∧ EndsHead source tagMode edge lexemes raw

/-- The place in a gap that is not empty. -/
inductive GapPlace (edge : Edge) (gap : List Char) : TagMode → Prop
  | afterName : edge = .bareName → '/' ∉ gap → GapPlace edge gap .afterAttributeName
  | blank : (edge = .bareName → '/' ∈ gap) → gap.getLast? ≠ some '/' →
      GapPlace edge gap .beforeAttribute
  | slash : gap.getLast? = some '/' → GapPlace edge gap .slash

/-- A head has ended, and a gap follows. -/
def AtGap (edge : Edge) (gap : List Char) (lexemes : List Lexeme) (raw : Option RawElement)
    (mode : Mode) : Prop :=
  if gap = [] then AtEdge edge lexemes raw mode else InTag lexemes raw (GapPlace edge gap) mode

/-- In the name of an attribute. -/
def InName (lexemes : List Lexeme) (raw : Option RawElement) (content : List Char) :
    Mode → Prop :=
  InTag lexemes raw fun mode => ∃ stretch, mode = .attributeName stretch ∧
    stretch.characters = content

/-! ## Gaps -/

theorem emits_gap_first {edge : Edge} {c : Char} (allowed : edge.AllowsGap [c])
    (lexemes : List Lexeme) (raw : Option RawElement) :
    Emits (AtEdge edge lexemes raw) [c] [] (AtGap edge [c] lexemes raw) := by
  obtain ⟨gapChars, shape⟩ := allowed
  have gapChar : isGapChar c = true := gapChars c List.mem_cons_self
  refine Emits.single ?_
  intro mode position holds
  obtain ⟨source, tagMode, rfl, ends⟩ := holds
  by_cases blank : isBlank c = true
  · have notSlash : c ≠ '/' := ne_of_isBlank blank rfl
    cases ends with
    | tagName stretch =>
        simp only [react, inTag, blank, if_true]
        exact ⟨⟨_, _, rfl, by simp, by simp, .blank (by simp) (by simpa using notSlash)⟩, rfl, rfl⟩
    | bareName stretch =>
        simp only [react, inTag, blank, if_true]
        exact ⟨⟨_, _, rfl, by simp, by simp, .afterName rfl (by simpa using Ne.symm notSlash)⟩, rfl,
          rfl⟩
    | quotedValue =>
        simp only [react, inTag, beforeAttribute, blank, if_true]
        exact ⟨⟨_, _, rfl, by simp, by simp, .blank (by simp) (by simpa using notSlash)⟩, rfl, rfl⟩
    | unquotedValue stretch =>
        simp only [react, inTag, blank, if_true]
        exact ⟨⟨_, _, rfl, by simp, by simp, .blank (by simp) (by simpa using notSlash)⟩, rfl, rfl⟩
    | missingValue => exact shape.elim
  · have slash : c = '/' := by simpa [isGapChar, blank] using gapChar
    subst slash
    cases ends with
    | tagName stretch =>
        exact ⟨⟨_, _, rfl, by simp, by simp, .slash rfl⟩, rfl, rfl⟩
    | bareName stretch =>
        exact ⟨⟨_, _, rfl, by simp, by simp, .slash rfl⟩, rfl, rfl⟩
    | quotedValue =>
        exact ⟨⟨_, _, rfl, by simp, by simp, .slash rfl⟩, rfl, rfl⟩
    | unquotedValue stretch =>
        obtain ⟨first, rest, equality, isBlankFirst⟩ := shape
        rw [(List.cons.inj equality).1] at blank
        exact absurd isBlankFirst blank
    | missingValue => exact shape.elim

theorem emits_gap_more {edge : Edge} {gap : List Char} {c : Char} (nonempty : gap ≠ [])
    (gapChar : isGapChar c = true) (lexemes : List Lexeme) (raw : Option RawElement) :
    Emits (AtGap edge gap lexemes raw) [c] [] (AtGap edge (gap ++ [c]) lexemes raw) := by
  unfold AtGap
  simp only [nonempty, List.append_eq_nil_iff, List.cons_ne_nil, and_false, if_false]
  refine Emits.single ?_
  intro mode position holds
  obtain ⟨source, tagMode, rfl, rfl, rfl, place⟩ := holds
  by_cases blank : isBlank c = true
  · have notSlash : c ≠ '/' := ne_of_isBlank blank rfl
    have notAngle : c ≠ '>' := ne_of_isBlank blank rfl
    have notLast : (gap ++ [c]).getLast? ≠ some '/' := by simpa using notSlash
    cases place with
    | afterName bare noSlash =>
        simp only [react, inTag, blank, if_true]
        exact ⟨⟨_, _, rfl, by simp, by simp, .afterName bare (by simp [noSlash, Ne.symm notSlash])⟩,
          rfl, rfl⟩
    | blank hasSlash _ =>
        simp only [react, inTag, beforeAttribute, blank, if_true]
        exact ⟨⟨_, _, rfl, by simp, by simp,
          .blank (fun bare => List.mem_append_left _ (hasSlash bare)) notLast⟩, rfl, rfl⟩
    | slash last =>
        simp only [react, inTag, beforeAttribute, notAngle, blank, if_true, if_false]
        exact ⟨⟨_, _, rfl, by simp, by simp,
          .blank (fun _ => List.mem_append_left _ (List.mem_of_getLast? last)) notLast⟩, rfl, rfl⟩
  · have slash : c = '/' := by simpa [isGapChar, blank] using gapChar
    subst slash
    have last : (gap ++ ['/']).getLast? = some '/' := by simp
    cases place with
    | afterName bare noSlash => exact ⟨⟨_, _, rfl, by simp, by simp, .slash last⟩, rfl, rfl⟩
    | blank hasSlash _ => exact ⟨⟨_, _, rfl, by simp, by simp, .slash last⟩, rfl, rfl⟩
    | slash _ => exact ⟨⟨_, _, rfl, by simp, by simp, .slash last⟩, rfl, rfl⟩

theorem Edge.AllowsGap.head {edge : Edge} {first : Char} {rest : List Char}
    (allowed : edge.AllowsGap (first :: rest)) : edge.AllowsGap [first] := by
  obtain ⟨gapChars, shape⟩ := allowed
  refine Edge.allowsGap_singleton (gapChars first List.mem_cons_self) ?_ ?_
  · rintro rfl
    obtain ⟨_, _, equality, blank⟩ := shape
    rwa [(List.cons.inj equality).1]
  · rintro rfl
    exact shape

theorem emits_gap {edge : Edge} {gap : List Char} (allowed : gap = [] ∨ edge.AllowsGap gap)
    (lexemes : List Lexeme) (raw : Option RawElement) :
    Emits (AtEdge edge lexemes raw) gap [] (AtGap edge gap lexemes raw) := by
  cases gap with
  | nil => exact Emits.nil fun _ atEdge => by simpa [AtGap] using atEdge
  | cons first rest =>
      have allowed : edge.AllowsGap (first :: rest) := allowed.resolve_left (by simp)
      refine (emits_gap_first (Edge.AllowsGap.head allowed) lexemes raw).silently ?_
      have more (content : List Char) (c : Char) (isGap : isGapChar c = true) :
          Emits (AtGap edge (first :: content) lexemes raw) [c] []
            (AtGap edge (first :: (content ++ [c])) lexemes raw) :=
        emits_gap_more (List.cons_ne_nil first content) isGap lexemes raw
      exact Emits.many (fun content => AtGap edge (first :: content) lexemes raw) more
        (fun c member => allowed.1 c (List.mem_cons_of_mem _ member)) []

/-! ## Attributes -/

theorem emits_name_first {edge : Edge} {gap rest : List Char} {c : Char}
    (allowed : edge.AllowsName gap (c :: rest)) (continues : isTagNameChar c = true)
    (lexemes : List Lexeme) (raw : Option RawElement) :
    Emits (AtGap edge gap lexemes raw) [c] [] (InName lexemes raw [c]) := by
  obtain ⟨notBlank, notSlash, notAngle⟩ := isTagNameChar_iff.mp continues
  refine Emits.single ?_
  intro mode position atGap
  unfold AtGap at atGap
  split at atGap
  · next empty =>
      subst empty
      obtain ⟨source, tagMode, rfl, ends⟩ := atGap
      cases ends with
      | quotedValue =>
          simp only [react, inTag, beforeAttribute, notBlank, notSlash, notAngle, if_false,
            Bool.false_eq_true]
          exact ⟨⟨_, _, rfl, by simp, by simp, _, rfl, rfl⟩, rfl, rfl⟩
      | tagName stretch => exact absurd rfl allowed.1.2
      | bareName stretch => exact absurd rfl allowed.1.2
      | unquotedValue stretch => exact absurd allowed.1.2 (by simp)
      | missingValue => exact allowed.1.2.elim
  · obtain ⟨source, tagMode, rfl, rfl, rfl, place⟩ := atGap
    cases place with
    | afterName bare noSlash =>
        have notAssigned : c ≠ '=' := by
          rintro rfl
          exact noSlash (allowed.2 bare rfl)
        simp only [react, inTag, beforeAttribute, notBlank, notSlash, notAngle, notAssigned,
          if_false, Bool.false_eq_true]
        exact ⟨⟨_, _, rfl, by simp, by simp, _, rfl, rfl⟩, rfl, rfl⟩
    | blank hasSlash _ =>
        simp only [react, inTag, beforeAttribute, notBlank, notSlash, notAngle, if_false,
          Bool.false_eq_true]
        exact ⟨⟨_, _, rfl, by simp, by simp, _, rfl, rfl⟩, rfl, rfl⟩
    | slash last =>
        simp only [react, inTag, beforeAttribute, notBlank, notSlash, notAngle, if_false,
          Bool.false_eq_true]
        exact ⟨⟨_, _, rfl, by simp, by simp, _, rfl, rfl⟩, rfl, rfl⟩

/-- A gap and the name after it; the name is settled by what follows. -/
theorem emits_name {edge : Edge} {gap name : List Char} (allowed : edge.AllowsName gap name)
    (named : IsAttributeName name) (lexemes : List Lexeme) (raw : Option RawElement) :
    Emits (AtEdge edge lexemes raw) (gap ++ name) [] (InName lexemes raw name) := by
  refine (emits_gap (Or.inr allowed.1) lexemes raw).silently ?_
  obtain ⟨nonempty, closed, unassigned⟩ := named
  cases name with
  | nil => exact absurd rfl nonempty
  | cons first rest =>
      refine (emits_name_first allowed (closed first List.mem_cons_self) lexemes raw).silently ?_
      have more (content : List Char) (c : Char) (continues : isTagNameChar c = true ∧ c ≠ '=') :
          Emits (InName lexemes raw content) [c] [] (InName lexemes raw (content ++ [c])) := by
        obtain ⟨notBlank, notSlash, notAngle⟩ := isTagNameChar_iff.mp continues.1
        refine Emits.single ?_
        intro mode position holds
        obtain ⟨source, tagMode, rfl, rfl, rfl, stretch, rfl, rfl⟩ := holds
        simp only [react, inTag, notBlank, notSlash, notAngle, continues.2, if_false,
          Bool.false_eq_true]
        exact ⟨⟨_, _, rfl, by simp, by simp, _, rfl, by simp⟩, rfl, rfl⟩
      exact Emits.many (InName lexemes raw) more
        (fun c member => ⟨closed c (List.mem_cons_of_mem _ member), unassigned c member⟩) [first]

theorem InName.atEdge {lexemes : List Lexeme} {raw : Option RawElement} {name : List Char}
    {mode : Mode} (inName : InName lexemes raw name mode) :
    AtEdge .bareName (lexemes ++ [⟨.attributeName, String.ofList name⟩]) raw mode := by
  obtain ⟨source, tagMode, rfl, rfl, rfl, stretch, rfl, rfl⟩ := inName
  exact ⟨source, _, rfl, .bareName stretch⟩

/-- After the `=` of an attribute. -/
def BeforeValue (lexemes : List Lexeme) (raw : Option RawElement) : Mode → Prop :=
  InTag lexemes raw (· = .beforeValue)

theorem emits_assign {before : List Char} (blank : ∀ c ∈ before, isBlank c = true)
    (lexemes : List Lexeme) (raw : Option RawElement) (name : List Char) :
    Emits (InName lexemes raw name) (before ++ ['=']) []
      (BeforeValue (lexemes ++ [⟨.attributeName, String.ofList name⟩]) raw) := by
  let AfterName : Mode → Prop :=
    InTag (lexemes ++ [⟨.attributeName, String.ofList name⟩]) raw (· = .afterAttributeName)
  cases before with
  | nil =>
      refine Emits.single ?_
      intro mode position holds
      obtain ⟨source, tagMode, rfl, rfl, rfl, stretch, rfl, rfl⟩ := holds
      exact ⟨⟨_, _, rfl, by simp, by simp, rfl⟩, rfl, rfl⟩
  | cons first rest =>
      rw [List.forall_mem_cons] at blank
      have one : Emits (InName lexemes raw name) [first] [] AfterName := by
        refine Emits.single ?_
        intro mode position holds
        obtain ⟨source, tagMode, rfl, rfl, rfl, stretch, rfl, rfl⟩ := holds
        simp only [react, inTag, blank.1, if_true]
        exact ⟨⟨_, _, rfl, by simp, by simp, rfl⟩, rfl, rfl⟩
      have more (c : Char) (isBlank : isBlank c = true) : Emits AfterName [c] [] AfterName := by
        refine Emits.single ?_
        intro mode position holds
        obtain ⟨source, tagMode, rfl, tagLexemes, tagRaw, rfl⟩ := holds
        simp only [react, inTag, isBlank, if_true]
        exact ⟨⟨_, _, rfl, by simpa using tagLexemes, by simpa using tagRaw, rfl⟩, rfl, rfl⟩
      have assign : Emits AfterName ['='] []
          (BeforeValue (lexemes ++ [⟨.attributeName, String.ofList name⟩]) raw) := by
        refine Emits.single ?_
        intro mode position holds
        obtain ⟨source, tagMode, rfl, tagLexemes, tagRaw, rfl⟩ := holds
        exact ⟨⟨_, _, rfl, by simpa using tagLexemes, by simpa using tagRaw, rfl⟩, rfl, rfl⟩
      have blanks : Emits AfterName rest [] AfterName :=
        Emits.many (fun _ => AfterName) (fun _ => more) blank.2 []
      exact one.silently (blanks.silently assign)

theorem emits_blanks_before_value {blanks : List Char} (blank : ∀ c ∈ blanks, isBlank c = true)
    (lexemes : List Lexeme) (raw : Option RawElement) :
    Emits (BeforeValue lexemes raw) blanks [] (BeforeValue lexemes raw) := by
  refine Emits.many (fun _ => BeforeValue lexemes raw) (fun _ c isBlank => ?_) blank []
  refine Emits.single ?_
  intro mode position holds
  obtain ⟨source, tagMode, rfl, rfl, rfl, rfl⟩ := holds
  simp only [react, inTag, isBlank, if_true]
  exact ⟨⟨_, _, rfl, by simp, by simp, rfl⟩, rfl, rfl⟩

theorem emits_quoted {quote : Char} {content : List Char}
    (spelled : (ValueSpelling.quoted quote content).IsSpelled) (lexemes : List Lexeme)
    (raw : Option RawElement) :
    Emits (BeforeValue lexemes raw) (quote :: (content ++ [quote])) []
      (AtEdge .quotedValue (lexemes ++ [⟨.attributeValue, String.ofList content⟩]) raw) := by
  obtain ⟨isQuote, unquoted⟩ := spelled
  have quoteMark : isBlank quote = false ∧ (quote = '"' || quote = '\'') = true := by
    rcases isQuote with rfl | rfl <;> decide
  let InValue (sofar : List Char) : Mode → Prop :=
    InTag lexemes raw fun mode => ∃ stretch, mode = .quotedValue quote stretch ∧
      stretch.characters = sofar
  have begins : Emits (BeforeValue lexemes raw) [quote] [] (InValue []) := by
    refine Emits.single ?_
    intro mode position holds
    obtain ⟨source, tagMode, rfl, rfl, rfl, rfl⟩ := holds
    simp only [react, inTag, quoteMark, if_true, if_false, Bool.false_eq_true]
    exact ⟨⟨_, _, rfl, by simp, by simp, _, rfl, rfl⟩, rfl, rfl⟩
  have goesOn (sofar : List Char) (c : Char) (notQuote : c ≠ quote) :
      Emits (InValue sofar) [c] [] (InValue (sofar ++ [c])) := by
    refine Emits.single ?_
    intro mode position holds
    obtain ⟨source, tagMode, rfl, rfl, rfl, stretch, rfl, rfl⟩ := holds
    simp only [react, inTag, notQuote, if_false]
    exact ⟨⟨_, _, rfl, by simp, by simp, _, rfl, by simp⟩, rfl, rfl⟩
  have ends : Emits (InValue content) [quote] []
      (AtEdge .quotedValue (lexemes ++ [⟨.attributeValue, String.ofList content⟩]) raw) := by
    refine Emits.single ?_
    intro mode position holds
    obtain ⟨source, tagMode, rfl, rfl, rfl, stretch, rfl, rfl⟩ := holds
    simp only [react, inTag, if_true]
    let settled := (source.push quote).addPart .attributeValue stretch
    have atEdge : EndsHead settled .beforeAttribute .quotedValue settled.lexemes settled.raw :=
      .quotedValue
    exact ⟨⟨settled, _, rfl, by simpa [settled] using atEdge⟩, rfl, rfl⟩
  have all : Emits (InValue []) content [] (InValue content) :=
    Emits.many InValue goesOn (fun c member isQuote => unquoted (isQuote ▸ member)) []
  exact begins.silently (all.silently ends)

theorem emits_unquoted {content : List Char}
    (spelled : (ValueSpelling.unquoted content).IsSpelled) (lexemes : List Lexeme)
    (raw : Option RawElement) :
    Emits (BeforeValue lexemes raw) content []
      (AtEdge .unquotedValue (lexemes ++ [⟨.attributeValue, String.ofList content⟩]) raw) := by
  obtain ⟨nonempty, plain, notDouble, notSingle⟩ := spelled
  let InValue (sofar : List Char) : Mode → Prop :=
    InTag lexemes raw fun mode => ∃ stretch, mode = .unquotedValue stretch ∧
      stretch.characters = sofar
  have goesOn (sofar : List Char) (c : Char) (isPlain : isBlank c = false ∧ c ≠ '>') :
      Emits (InValue sofar) [c] [] (InValue (sofar ++ [c])) := by
    refine Emits.single ?_
    intro mode position holds
    obtain ⟨source, tagMode, rfl, rfl, rfl, stretch, rfl, rfl⟩ := holds
    simp only [react, inTag, isPlain, if_false, Bool.false_eq_true]
    exact ⟨⟨_, _, rfl, by simp, by simp, _, rfl, by simp⟩, rfl, rfl⟩
  cases content with
  | nil => exact absurd rfl nonempty
  | cons first rest =>
      rw [List.forall_mem_cons] at plain
      have begins : Emits (BeforeValue lexemes raw) [first] [] (InValue [first]) := by
        have notQuote : (first = '"' || first = '\'') = false := by
          simpa using And.intro notDouble notSingle
        refine Emits.single ?_
        intro mode position holds
        obtain ⟨source, tagMode, rfl, rfl, rfl, rfl⟩ := holds
        simp only [react, inTag, plain.1, notQuote, if_false, Bool.false_eq_true]
        exact ⟨⟨_, _, rfl, by simp, by simp, _, rfl, rfl⟩, rfl, rfl⟩
      have all : Emits (InValue [first]) rest [] (InValue (first :: rest)) :=
        Emits.many InValue goesOn plain.2 [first]
      refine (begins.silently all).weaken ?_
      intro mode holds
      obtain ⟨source, tagMode, rfl, rfl, rfl, stretch, rfl, content⟩ := holds
      rw [← content]
      exact ⟨source, _, rfl, .unquotedValue stretch⟩

theorem emits_attribute {spelling : AttributeSpelling} {edge : Edge}
    (follows : spelling.Follows edge) (lexemes : List Lexeme) (raw : Option RawElement) :
    Emits (AtEdge edge lexemes raw) spelling.source []
      (AtEdge spelling.edge (lexemes ++ spelling.given.lexemes) raw) := by
  obtain ⟨gap, name, assignment⟩ := spelling
  obtain ⟨allowed, named, assigned⟩ := follows
  have nameRead := emits_name allowed named lexemes raw
  dsimp only at nameRead
  cases assignment with
  | none =>
      have source : AttributeSpelling.source ⟨gap, name, none⟩ = gap ++ name := by
        simp [AttributeSpelling.source]
      rw [source]
      exact nameRead.weaken fun _ => InName.atEdge
  | some assignment =>
      obtain ⟨before, after, value⟩ := assignment
      obtain ⟨blankBefore, blankAfter, spelled⟩ := assigned _ rfl
      have source :
          AttributeSpelling.source ⟨gap, name, some ⟨before, after, value⟩⟩ =
            (gap ++ name) ++ ((before ++ ['=']) ++ (after ++ value.source)) := by
        simp [AttributeSpelling.source, Assignment.source]
      have valueRead : Emits
          (BeforeValue (lexemes ++ [⟨.attributeName, String.ofList name⟩]) raw) value.source []
          (AtEdge (AttributeSpelling.edge ⟨gap, name, some ⟨before, after, value⟩⟩)
            (lexemes ++ Attribute.lexemes (AttributeSpelling.given
              ⟨gap, name, some ⟨before, after, value⟩⟩)) raw) := by
        have parts : lexemes ++ Attribute.lexemes (AttributeSpelling.given
              ⟨gap, name, some ⟨before, after, value⟩⟩) =
            lexemes ++ [⟨.attributeName, String.ofList name⟩] ++
              [⟨.attributeValue, String.ofList value.content⟩] := by
          simp [Attribute.lexemes, AttributeSpelling.given]
        rw [parts]
        cases value with
        | quoted quote content => exact emits_quoted spelled _ raw
        | unquoted content => exact emits_unquoted spelled _ raw
        | missing =>
            refine Emits.nil ?_
            intro mode holds
            obtain ⟨source, tagMode, rfl, sourceLexemes, rfl, rfl⟩ := holds
            rw [← sourceLexemes]
            exact ⟨source, _, rfl, .missingValue⟩
      rw [source]
      exact nameRead.silently ((emits_assign blankBefore lexemes raw name).silently
        ((emits_blanks_before_value blankAfter _ raw).silently valueRead))

theorem emits_attributes {attributes : List AttributeSpelling} {edge : Edge}
    (follow : AttributesFollow edge attributes) (lexemes : List Lexeme)
    (raw : Option RawElement) :
    Emits (AtEdge edge lexemes raw) (attributes.flatMap AttributeSpelling.source) []
      (AtEdge (lastEdge edge attributes)
        (lexemes ++ attributes.flatMap fun spelling => spelling.given.lexemes) raw) := by
  induction attributes generalizing edge lexemes with
  | nil => exact Emits.nil fun _ atEdge => by simpa [lastEdge] using atEdge
  | cons spelling rest inductionHypothesis =>
      have emits := (emits_attribute follow.1 lexemes raw).silently
        (inductionHypothesis follow.2 (lexemes ++ spelling.given.lexemes))
      simpa [lastEdge] using emits

/-! ## Whole tags -/

/-- In the name of a start tag or of an end tag. -/
def InTagName (marker : String) (place : Stretch → TagMode) (content : List Char) : Mode → Prop :=
  InTag [⟨.tagStart, marker⟩] none fun mode => ∃ stretch, mode = place stretch ∧
    stretch.characters = content

theorem emits_head {head : TagHead} (spelled : head.IsSpelled) (waiting : List Lexeme) :
    Emits (Resting waiting) head.source waiting
      (AtEdge head.edge head.lexemes (RawElement.ofTag? (String.ofList head.name))) := by
  obtain ⟨named, follow⟩ := spelled
  obtain ⟨first, rest, isName, letter⟩ := named.starts
  have continues : ∀ c ∈ rest, isTagNameChar c = true := by
    intro c member
    exact named.closed c (by simp [isName, member])
  have begins : Emits (InTag [] none (· = .opening)) [first] []
      (InTagName "<" .name [first]) := by
    obtain ⟨notBlank, notSlash, notAngle⟩ :=
      isTagNameChar_iff.mp (isTagNameChar_of_isAsciiLetter letter)
    have notMark : first ≠ '!' ∧ first ≠ '?' := by
      refine ⟨?_, ?_⟩ <;> rintro rfl <;> exact absurd letter (by decide)
    refine Emits.single ?_
    intro mode position holds
    obtain ⟨source, tagMode, rfl, tagLexemes, tagRaw, rfl⟩ := holds
    simp only [react, inTag, afterLess, notSlash, notMark, letter, if_true, if_false]
    exact ⟨⟨_, _, rfl, by simp, by simpa using tagRaw, _, rfl, rfl⟩, rfl, rfl⟩
  have goesOn (content : List Char) (c : Char) (continues : isTagNameChar c = true) :
      Emits (InTagName "<" .name content) [c] [] (InTagName "<" .name (content ++ [c])) := by
    obtain ⟨notBlank, notSlash, notAngle⟩ := isTagNameChar_iff.mp continues
    refine Emits.single ?_
    intro mode position holds
    obtain ⟨source, tagMode, rfl, tagLexemes, tagRaw, stretch, rfl, rfl⟩ := holds
    simp only [react, inTag, notBlank, notSlash, notAngle, if_false, Bool.false_eq_true]
    exact ⟨⟨_, _, rfl, by simpa using tagLexemes, by simpa using tagRaw, _, rfl, by simp⟩, rfl, rfl⟩
  have nameRead : Emits (InTagName "<" .name [first]) rest []
      (AtEdge .tagName [⟨.tagStart, "<"⟩, ⟨.tagName, String.ofList head.name⟩]
        (RawElement.ofTag? (String.ofList head.name))) := by
    refine (Emits.many (InTagName "<" .name) goesOn continues [first]).weaken ?_
    intro mode holds
    obtain ⟨source, tagMode, rfl, tagLexemes, tagRaw, stretch, rfl, content⟩ := holds
    have whole : stretch.characters = head.name := by rw [content, isName]; rfl
    have atEdge : EndsHead source (.name stretch) .tagName _ _ := .tagName stretch
    rw [tagLexemes, whole] at atEdge
    exact ⟨source, _, rfl, atEdge⟩
  have source :
      head.source =
        ['<'] ++ ([first] ++ (rest ++ head.attributes.flatMap AttributeSpelling.source)) := by
    simp [TagHead.source, isName]
  rw [source]
  exact (emits_less waiting).beforeSilence
    (begins.silently (nameRead.silently (emits_attributes follow _ _)))

theorem commit_settles (source : TagSource) (marker : String) (position : Position) :
    (commit source marker position).Settles (source.lexemes ++ [⟨.tagEnd, marker⟩])
      (AfterTag (if marker = ">" then source.raw else none)) := by
  have tokens :
      (⟨.tagEnd, marker, position⟩ :: source.parts).reverse.map Token.lexeme =
        source.lexemes ++ [⟨.tagEnd, marker⟩] := by
    simp [TagSource.lexemes, Token.lexeme]
  unfold commit
  cases source.raw with
  | none => exact ⟨by simp [AfterTag], tokens, rfl⟩
  | some element =>
      by_cases angle : marker = ">"
      · simp only [angle, if_true] at tokens ⊢
        exact ⟨⟨_, _, rfl, rfl⟩, tokens, rfl⟩
      · simp only [angle, if_false]
        exact ⟨rfl, tokens, rfl⟩

theorem commit_angle_settles (source : TagSource) {lexemes : List Lexeme}
    {raw : Option RawElement} {position : Position} (sourceLexemes : source.lexemes = lexemes)
    (sourceRaw : source.raw = raw) :
    (commit source ">" position).Settles (lexemes ++ [⟨.tagEnd, ">"⟩]) (AfterTag raw) := by
  subst sourceLexemes sourceRaw
  exact commit_settles source ">" position

theorem emits_end {edge : Edge} {gap : List Char} (lexemes : List Lexeme)
    (raw : Option RawElement) :
    Emits (AtGap edge gap lexemes raw) ['>']
      (lexemes ++ [⟨.tagEnd, if gap.getLast? = some '/' then "/>" else ">"⟩])
      (AfterTag (if gap.getLast? = some '/' then none else raw)) := by
  have angle : isBlank '>' = false ∧ ('>' : Char) ≠ '/' ∧ ('>' : Char) ≠ '=' ∧
      ('>' = '"' || '>' = '\'') = false := by decide
  refine Emits.single ?_
  intro mode position atGap
  unfold AtGap at atGap
  split at atGap
  · next empty =>
      subst empty
      simp only [List.getLast?_nil, reduceCtorEq, if_false]
      obtain ⟨source, tagMode, rfl, ends⟩ := atGap
      cases ends with
      | tagName stretch =>
          simp only [react, inTag, angle, if_true, if_false, Bool.false_eq_true]
          exact commit_angle_settles _ (by simp) (TagSource.raw_addName _ stretch)
      | bareName stretch =>
          simp only [react, inTag, angle, if_true, if_false, Bool.false_eq_true]
          exact commit_angle_settles _ (by simp) rfl
      | quotedValue =>
          simp only [react, inTag, beforeAttribute, angle, if_true, if_false, Bool.false_eq_true]
          exact commit_angle_settles _ rfl rfl
      | unquotedValue stretch =>
          simp only [react, inTag, angle, if_true, if_false, Bool.false_eq_true]
          exact commit_angle_settles _ (by simp) rfl
      | missingValue =>
          simp only [react, inTag, angle, if_true, if_false, Bool.false_eq_true]
          exact commit_angle_settles _ (by simp) rfl
  · obtain ⟨source, tagMode, rfl, rfl, rfl, place⟩ := atGap
    cases place with
    | afterName bare noSlash =>
        have notLast : gap.getLast? ≠ some '/' := fun last => noSlash (List.mem_of_getLast? last)
        simp only [react, inTag, beforeAttribute, angle, notLast, if_true, if_false,
          Bool.false_eq_true]
        exact commit_angle_settles _ rfl rfl
    | blank _ notLast =>
        simp only [react, inTag, beforeAttribute, angle, notLast, if_true, if_false,
          Bool.false_eq_true]
        exact commit_angle_settles _ rfl rfl
    | slash last =>
        simp only [react, inTag, last, if_true]
        exact commit_settles (source.push '>') "/>" position

theorem emits_startTag {tag : StartTag} (spelled : tag.IsSpelled) (waiting : List Lexeme) :
    Emits (Resting waiting) tag.source (waiting ++ tag.phrase.lexemes) (AfterTag tag.opensRaw) := by
  have raw : tag.opensRaw =
      if tag.gap.getLast? = some '/' then none
      else RawElement.ofTag? (String.ofList tag.head.name) := by
    simp [StartTag.opensRaw, StartTag.selfClosing]
  have marker : (if tag.selfClosing then "/>" else ">") =
      if tag.gap.getLast? = some '/' then "/>" else ">" := by
    simp [StartTag.selfClosing]
  have source : tag.source = tag.head.source ++ (tag.gap ++ ['>']) := by
    simp [StartTag.source]
  rw [raw, source, TagHead.lexemes_phrase, marker]
  exact (emits_head spelled.head waiting).append
    ((emits_gap spelled.gap _ _).silently (emits_end _ _))

end Lexer

end JsxFragment
