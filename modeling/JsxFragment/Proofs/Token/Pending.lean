import JsxFragment.Proofs.Token.Construct

/-!
# Constructs under way

What each mode of the lexer says about the characters read since the last whole construct, and what
it means that a turn makes progress: the characters read are whole constructs, which account for the
tokens and repairs, followed by the beginning of one that is under way.
-/

namespace JsxFragment

open Text

/-! ## Order of constructs -/

theorem sourceOf_append (first second : List Construct) :
    sourceOf (first ++ second) = sourceOf first ++ sourceOf second := by
  simp [sourceOf]

theorem lexemesOf_append (first second : List Construct) :
    lexemesOf (first ++ second) = lexemesOf first ++ lexemesOf second := by
  simp [lexemesOf]

theorem rawAfter_append (raw : Option RawElement) (first second : List Construct) :
    rawAfter raw (first ++ second) = rawAfter (rawAfter raw first) second := by
  induction first generalizing raw with
  | nil =>
      rfl
  | cons construct others inductionHypothesis =>
      exact inductionHypothesis construct.opensRaw

theorem wellPlaced_append {raw : Option RawElement} {first second : List Construct}
    {rest : List Char}
    (placedFirst : WellPlaced raw first (sourceOf second ++ rest))
    (placedSecond : WellPlaced (rawAfter raw first) second rest) :
    WellPlaced raw (first ++ second) rest := by
  induction first generalizing raw with
  | nil =>
      exact placedSecond
  | cons construct others inductionHypothesis =>
      obtain ⟨fits, placedOthers⟩ := placedFirst
      refine ⟨?_, inductionHypothesis placedOthers placedSecond⟩
      simpa [sourceOf_append] using fits

namespace Lexer

/-! ## Stretches and tag sources -/

/-- The characters of the stretch in reading order. -/
def Stretch.characters (stretch : Stretch) : List Char :=
  stretch.reversed.reverse

@[simp]
theorem Stretch.characters_mk (start : Position) (reversed : List Char) :
    Stretch.characters ⟨start, reversed⟩ = reversed.reverse :=
  rfl

@[simp]
theorem Stretch.characters_push (stretch : Stretch) (c : Char) :
    (stretch.push c).characters = stretch.characters ++ [c] := by
  simp [Stretch.characters, Stretch.push]

theorem Stretch.text_eq (stretch : Stretch) :
    stretch.text = String.ofList stretch.characters :=
  rfl

namespace TagSource

/-- The characters of the tag in reading order. -/
def characters (source : TagSource) : List Char :=
  source.reversed.reverse

/-- The lexemes of the tag in reading order. -/
def lexemes (source : TagSource) : List Lexeme :=
  source.parts.reverse.map Token.lexeme

@[simp]
theorem characters_opened (start : Position) : (opened start).characters = ['<'] :=
  rfl

@[simp]
theorem lexemes_opened (start : Position) : (opened start).lexemes = [] :=
  rfl

@[simp]
theorem raw_opened (start : Position) : (opened start).raw = none :=
  rfl

@[simp]
theorem characters_push (source : TagSource) (c : Char) :
    (source.push c).characters = source.characters ++ [c] := by
  simp [characters, push]

@[simp]
theorem lexemes_push (source : TagSource) (c : Char) :
    (source.push c).lexemes = source.lexemes :=
  rfl

@[simp]
theorem raw_push (source : TagSource) (c : Char) : (source.push c).raw = source.raw :=
  rfl

@[simp]
theorem characters_addPart (source : TagSource) (kind : TokenKind) (stretch : Stretch) :
    (source.addPart kind stretch).characters = source.characters :=
  rfl

@[simp]
theorem lexemes_addPart (source : TagSource) (kind : TokenKind) (stretch : Stretch) :
    (source.addPart kind stretch).lexemes =
      source.lexemes ++ [⟨kind, String.ofList stretch.characters⟩] := by
  simp [lexemes, addPart, Token.lexeme, Stretch.text_eq]

@[simp]
theorem raw_addPart (source : TagSource) (kind : TokenKind) (stretch : Stretch) :
    (source.addPart kind stretch).raw = source.raw :=
  rfl

@[simp]
theorem characters_beginParts (source : TagSource) (value : String) :
    (source.beginParts value).characters = source.characters :=
  rfl

@[simp]
theorem lexemes_beginParts (source : TagSource) (value : String) :
    (source.beginParts value).lexemes = [⟨.tagStart, value⟩] :=
  rfl

@[simp]
theorem raw_beginParts (source : TagSource) (value : String) :
    (source.beginParts value).raw = source.raw :=
  rfl

@[simp]
theorem characters_addName (source : TagSource) (stretch : Stretch) :
    (source.addName stretch).characters = source.characters :=
  rfl

@[simp]
theorem lexemes_addName (source : TagSource) (stretch : Stretch) :
    (source.addName stretch).lexemes =
      source.lexemes ++ [⟨.tagName, String.ofList stretch.characters⟩] :=
  lexemes_addPart source .tagName stretch

@[simp]
theorem raw_addName (source : TagSource) (stretch : Stretch) :
    (source.addName stretch).raw = RawElement.ofTag? (String.ofList stretch.characters) :=
  rfl

end TagSource

/-! ## Tags under way -/

/-- A tag of which a head was read, and `after` it. -/
structure HeadRead (source : TagSource) (head : TagHead) (after : List Char) : Prop where
  spelled : head.IsSpelled
  characters : source.characters = head.source ++ after
  lexemes : source.lexemes = head.lexemes
  raw : source.raw = RawElement.ofTag? (String.ofList head.name)

/-- A tag of which a head was read, then the name of one more attribute, and `after` it. -/
structure NameRead (source : TagSource) (head : TagHead) (gap name after : List Char) : Prop where
  spelled : head.IsSpelled
  allowed : head.edge.AllowsName gap name
  named : IsAttributeName name
  characters : source.characters = head.source ++ gap ++ name ++ after
  lexemes : source.lexemes = head.lexemes ++ [⟨.attributeName, String.ofList name⟩]
  raw : source.raw = RawElement.ofTag? (String.ofList head.name)

/-- What was read of a tag, by the place in it. -/
def TagReads (source : TagSource) : TagMode → Prop
  | .opening =>
      source.characters = ['<'] ∧ source.lexemes = [] ∧ source.raw = none
  | .closing =>
      source.characters = ['<', '/'] ∧ source.lexemes = [] ∧ source.raw = none
  | .name stretch =>
      IsTagName stretch.characters ∧
        source.characters = '<' :: stretch.characters ∧
        source.lexemes = [⟨.tagStart, "<"⟩] ∧ source.raw = none
  | .endName stretch =>
      IsTagName stretch.characters ∧
        source.characters = '<' :: '/' :: stretch.characters ∧
        source.lexemes = [⟨.tagStart, "</"⟩] ∧ source.raw = none
  | .afterEndName =>
      ∃ tag : EndTag, tag.IsSpelled ∧
        source.characters = '<' :: '/' :: (tag.name ++ tag.ignored) ∧ tag.ignored ≠ [] ∧
        source.lexemes = [⟨.tagStart, "</"⟩, ⟨.tagName, String.ofList tag.name⟩] ∧
        source.raw = none
  | .beforeAttribute =>
      ∃ head gap, HeadRead source head gap ∧ head.edge.AllowsGap gap ∧
        (head.edge = .bareName → '/' ∈ gap) ∧ gap.getLast? ≠ some '/'
  | .attributeName stretch =>
      ∃ head gap, HeadRead source head (gap ++ stretch.characters) ∧
        head.edge.AllowsName gap stretch.characters ∧ IsAttributeName stretch.characters
  | .afterAttributeName =>
      ∃ head gap name before, NameRead source head gap name before ∧
        before ≠ [] ∧ ∀ c ∈ before, isBlank c = true
  | .beforeValue =>
      ∃ head gap name before after, NameRead source head gap name (before ++ '=' :: after) ∧
        (∀ c ∈ before, isBlank c = true) ∧ ∀ c ∈ after, isBlank c = true
  | .quotedValue quote stretch =>
      ∃ head gap name before after,
        NameRead source head gap name (before ++ '=' :: (after ++ quote :: stretch.characters)) ∧
        (∀ c ∈ before, isBlank c = true) ∧ (∀ c ∈ after, isBlank c = true) ∧
        (ValueSpelling.quoted quote stretch.characters).IsSpelled
  | .unquotedValue stretch =>
      ∃ head gap name before after,
        NameRead source head gap name (before ++ '=' :: (after ++ stretch.characters)) ∧
        (∀ c ∈ before, isBlank c = true) ∧ (∀ c ∈ after, isBlank c = true) ∧
        (ValueSpelling.unquoted stretch.characters).IsSpelled
  | .slash =>
      ∃ head gap, HeadRead source head gap ∧ head.edge.AllowsGap gap ∧
        gap.getLast? = some '/'

/-! ## Everything else under way -/

/-- What was read of markup that is neither a tag nor text: its content so far, and all of it. -/
def MarkupReads (content source : List Char) : MarkupKind → Prop
  | .declaration =>
      source = ['<', '!'] ++ content ∧ '>' ∉ content ∧ ¬ OpensSection content
  | .comment => source = ['<', '!', '-', '-'] ++ content ∧ IsCommentContent content
  | .bogusComment =>
      ∃ mark : BogusMark, ∃ after, content = mark.content after ∧
        source = '<' :: mark.char :: after ∧ '>' ∉ after ∧
        (mark = .exclamation → ∀ more, ¬ OpensSection (after ++ more))
  | .doctype =>
      ∃ keyword : List Char, keyword.map Char.toUpper = doctypeWord ∧
        source = ['<', '!'] ++ keyword ++ content ∧ '>' ∉ content
  | .cdata => source = ['<', '!'] ++ cdataWord ++ content ∧ ¬ [']', ']', '>'] <:+: content

/-- Text that may still go on. -/
structure IsOpenText (content : List Char) : Prop where
  nonempty : content ≠ []
  plain : '<' ∉ content.tail
  literal : ∀ after more, content = '<' :: after → beginsMarkup (after ++ more) = false

/-- What was read since the last whole construct, by the mode of the lexer and the raw text that is
due. -/
def Pending (raw : Option RawElement) (mode : Mode) (rest : List Char) : Prop :=
  match mode with
  | .between => raw = none ∧ rest = []
  | .text stretch => raw = none ∧ stretch.characters = rest ∧ IsOpenText rest
  | .tag source tagMode => raw = none ∧ source.characters = rest ∧ TagReads source tagMode
  | .markup _ kind reversed => raw = none ∧ MarkupReads reversed.reverse rest kind
  | .rawText element _ stretch =>
      raw = some element ∧ stretch.characters = rest ∧ LacksEndTag element rest

/-! ## Progress -/

/-- The characters read are these constructs and the rest, which is under way. The constructs fit
whatever more is read. -/
structure Turn.Reads (turn : Turn) (raw : Option RawElement) (consumed : List Char)
    (constructs : List Construct) (rest : List Char) : Prop where
  source : consumed = sourceOf constructs ++ rest
  lexemes : turn.tokens.map Token.lexeme = lexemesOf constructs
  repairs : turn.repairs.map (·.cause) = constructs.flatMap Construct.repairs
  placed : ∀ more, WellPlaced raw constructs (rest ++ more)
  pending : Pending (rawAfter raw constructs) turn.mode rest

/-- The characters read can be accounted for. -/
def Turn.Progresses (turn : Turn) (raw : Option RawElement) (consumed : List Char) : Prop :=
  ∃ constructs rest, turn.Reads raw consumed constructs rest

theorem Turn.reads_of_pending {mode : Mode} {raw : Option RawElement} {consumed : List Char}
    (pending : Pending raw mode consumed) : Turn.Reads { mode } raw consumed [] consumed where
  source := rfl
  lexemes := rfl
  repairs := rfl
  placed := fun _ => trivial
  pending := pending

theorem Turn.progresses_of_pending {mode : Mode} {raw : Option RawElement}
    {consumed : List Char} (pending : Pending raw mode consumed) :
    Turn.Progresses { mode } raw consumed :=
  ⟨[], consumed, reads_of_pending pending⟩

/-- One construct is whole, and `rest` comes after it. -/
theorem Turn.reads_of_construct {turn : Turn} {raw : Option RawElement}
    {consumed rest : List Char} (construct : Construct)
    (source : consumed = construct.source ++ rest)
    (lexemes : turn.tokens.map Token.lexeme = construct.lexemes)
    (repairs : turn.repairs.map (·.cause) = construct.repairs)
    (fits : ∀ more, construct.Fits raw (rest ++ more))
    (pending : Pending construct.opensRaw turn.mode rest) :
    turn.Reads raw consumed [construct] rest where
  source := by simpa [sourceOf] using source
  lexemes := by simpa [lexemesOf] using lexemes
  repairs := by simpa using repairs
  placed := fun more => ⟨by simpa [sourceOf] using fits more, trivial⟩
  pending := by simpa [rawAfter] using pending

theorem Turn.progresses_of_construct {turn : Turn} {raw : Option RawElement}
    {consumed rest : List Char} (construct : Construct)
    (source : consumed = construct.source ++ rest)
    (lexemes : turn.tokens.map Token.lexeme = construct.lexemes)
    (repairs : turn.repairs.map (·.cause) = construct.repairs)
    (fits : ∀ more, construct.Fits raw (rest ++ more))
    (pending : Pending construct.opensRaw turn.mode rest) :
    turn.Progresses raw consumed :=
  ⟨[construct], rest, reads_of_construct construct source lexemes repairs fits pending⟩

/-- What is read after what was under way is read after the whole. -/
theorem Turn.Reads.append {turn next : Turn} {raw : Option RawElement}
    {consumed rest more left : List Char} {constructs others : List Construct}
    (reads : turn.Reads raw consumed constructs rest)
    (readsOthers : next.Reads (rawAfter raw constructs) (rest ++ more) others left) :
    Turn.Reads
      { mode := next.mode
        tokens := turn.tokens ++ next.tokens
        repairs := turn.repairs ++ next.repairs }
      raw (consumed ++ more) (constructs ++ others) left where
  source := by
    rw [reads.source, List.append_assoc, readsOthers.source, sourceOf_append, List.append_assoc]
  lexemes := by
    rw [List.map_append, reads.lexemes, readsOthers.lexemes, lexemesOf_append]
  repairs := by
    rw [List.map_append, reads.repairs, readsOthers.repairs, List.flatMap_append]
  placed := fun further =>
    wellPlaced_append
      (by
        have placed := reads.placed (more ++ further)
        rwa [← List.append_assoc, readsOthers.source, List.append_assoc] at placed)
      (readsOthers.placed further)
  pending := by
    rw [rawAfter_append]
    exact readsOthers.pending

end Lexer

end JsxFragment
