import JsxFragment.Proofs.Token.TagReading

/-!
# Turns in text and tags

What the next character does to text and to a tag, for each place where it can stand. In all of them
the characters read stay accounted for.
-/

namespace JsxFragment

open Text

namespace Lexer

/-! ## Text -/

/-- Text goes on, or a `<` ends it. A `<` at its beginning is known to begin no markup once the next
character is known. -/
theorem inText_progresses (stretch : Stretch) {position : Position} {c : Char}
    (nonempty : stretch.characters ≠ []) (plain : '<' ∉ stretch.characters.tail)
    (literal : ∀ after more,
      stretch.characters = '<' :: after → beginsMarkup (after ++ c :: more) = false) :
    (inText stretch position c).Progresses none (stretch.characters ++ [c]) := by
  unfold inText
  by_cases less : c = '<'
  · subst less
    simp only [if_true]
    refine Turn.progresses_of_construct (.text stretch.characters) rfl ?_ rfl ?_ ?_
    · simp [Construct.lexemes, Construct.phrases, Phrase.lexemes, Token.lexeme,
        Stretch.text_eq]
    · intro more
      exact
        { nonempty
          plain
          literal := fun after equality => literal after more equality
          maximal := by simp }
    · exact ⟨rfl, rfl, rfl, rfl, rfl⟩
  · simp only [less, if_false]
    refine Turn.progresses_of_pending ⟨rfl, by simp, ?_⟩
    refine ⟨by simp, ?_, ?_⟩
    · rw [List.tail_append_of_ne_nil nonempty]
      simpa [Ne.symm less] using plain
    · intro after more equality
      obtain ⟨first, rest, split⟩ := List.exists_cons_of_ne_nil nonempty
      rw [split, List.cons_append] at equality
      injection equality with firstEquality restEquality
      subst firstEquality
      rw [← restEquality, List.append_assoc]
      exact literal rest more split

theorem IsOpenText.progresses {stretch : Stretch} {position : Position} {c : Char}
    (openText : IsOpenText stretch.characters) :
    (inText stretch position c).Progresses none (stretch.characters ++ [c]) :=
  inText_progresses stretch openText.nonempty openText.plain
    (fun after more equality => openText.literal after (c :: more) equality)

/-! ## The beginning of a tag -/

theorem beginsMarkup_cons_eq_false {c : Char} {rest : List Char} (notSlash : c ≠ '/')
    (notExclamation : c ≠ '!') (notQuestion : c ≠ '?') (notLetter : isAsciiLetter c = false) :
    beginsMarkup (c :: rest) = false := by
  unfold beginsMarkup
  split <;> simp_all

theorem beginsMarkup_slash_cons_eq_false {c : Char} {rest : List Char} (notAngle : c ≠ '>')
    (notLetter : isAsciiLetter c = false) : beginsMarkup ('/' :: c :: rest) = false := by
  simp [beginsMarkup, notAngle, notLetter]

theorem not_opensSection_nil : ¬ OpensSection [] := by
  simp [OpensSection, cdataWord, doctypeWord]

theorem afterLess_progresses {source : TagSource} {position : Position} {c : Char}
    (reads : TagReads source .opening) :
    (afterLess (source.push c) position c).Progresses none (source.characters ++ [c]) := by
  obtain ⟨characters, lexemes, raw⟩ := reads
  rw [characters]
  unfold afterLess
  by_cases slash : c = '/'
  · subst slash
    simp only [if_true]
    exact Turn.progresses_of_pending
      ⟨rfl, by simp [characters], by simp [characters], by simp [lexemes], by simp [raw]⟩
  by_cases exclamation : c = '!'
  · subst exclamation
    simp only [slash, if_false, if_true]
    exact Turn.progresses_of_pending ⟨rfl, rfl, by simp, not_opensSection_nil⟩
  by_cases question : c = '?'
  · subst question
    simp only [slash, exclamation, if_false, if_true]
    exact Turn.progresses_of_pending ⟨rfl, .question, [], rfl, rfl, by simp, by simp⟩
  by_cases letter : isAsciiLetter c = true
  · simp only [slash, exclamation, question, letter, if_false, if_true]
    exact Turn.progresses_of_pending
      ⟨rfl, by simp [characters], isTagName_singleton letter, by simp [characters], rfl,
        by simp [raw]⟩
  · simp only [slash, exclamation, question, letter, if_false]
    have notLetter : isAsciiLetter c = false := by simpa using letter
    refine inText_progresses ⟨source.start, ['<']⟩ (by simp) (by simp) ?_
    intro after more equality
    simp only [Stretch.characters_mk, List.reverse_singleton, List.cons.injEq, true_and]
      at equality
    subst equality
    exact beginsMarkup_cons_eq_false slash exclamation question notLetter

theorem afterLessSlash_progresses {source : TagSource} {position : Position} {c : Char}
    (reads : TagReads source .closing) :
    (afterLessSlash (source.push c) position c).Progresses none (source.characters ++ [c]) := by
  obtain ⟨characters, lexemes, raw⟩ := reads
  rw [characters]
  unfold afterLessSlash
  by_cases letter : isAsciiLetter c = true
  · simp only [letter, if_true]
    exact Turn.progresses_of_pending
      ⟨rfl, by simp [characters], isTagName_singleton letter, by simp [characters], rfl,
        by simp [raw]⟩
  by_cases angle : c = '>'
  · subst angle
    simp only [letter, if_true]
    exact Turn.progresses_of_construct .namelessEndTag rfl rfl rfl (fun _ => trivial) ⟨rfl, rfl⟩
  · simp only [letter, angle, if_false]
    have notLetter : isAsciiLetter c = false := by simpa using letter
    refine inText_progresses ⟨source.start, ['/', '<']⟩ (by simp) (by simp) ?_
    intro after more equality
    simp only [Stretch.characters_mk, List.reverse_cons, List.reverse_nil, List.nil_append,
      List.cons_append, List.cons.injEq, true_and] at equality
    subst equality
    exact beginsMarkup_slash_cons_eq_false angle notLetter

/-! ## Between attributes -/

theorem HeadRead.push {source : TagSource} {head : TagHead} {after : List Char}
    (read : HeadRead source head after) (c : Char) :
    HeadRead (source.push c) head (after ++ [c]) where
  spelled := read.spelled
  characters := by simp [read.characters]
  lexemes := read.lexemes
  raw := read.raw

theorem NameRead.push {source : TagSource} {head : TagHead} {gap name after : List Char}
    (read : NameRead source head gap name after) (c : Char) :
    NameRead (source.push c) head gap name (after ++ [c]) where
  spelled := read.spelled
  allowed := read.allowed
  named := read.named
  characters := by simp [read.characters]
  lexemes := read.lexemes
  raw := read.raw

/-- Where an attribute may begin: the gap goes on, or the tag ends, or the attribute begins. The
tag's last slash and a `=` after a bare name are dealt with elsewhere. -/
theorem beforeAttribute_progresses {source : TagSource} {position : Position} {c : Char}
    {head : TagHead} {gap : List Char} (read : HeadRead source head (gap ++ [c]))
    (allowed : head.edge.AllowsGap gap)
    (slashed : head.edge = .bareName → '/' ∈ gap ∨ (isBlank c = false ∧ c ≠ '='))
    (unfinished : c = '>' → gap.getLast? ≠ some '/') :
    (beforeAttribute source position c).Progresses none source.characters := by
  unfold beforeAttribute
  by_cases blank : isBlank c = true
  · simp only [blank, if_true]
    refine Turn.progresses_of_pending ⟨rfl, rfl, head, gap ++ [c], read, ?_, ?_, ?_⟩
    · exact allowed.append (isGapChar_of_isBlank blank)
    · intro bare
      rcases slashed bare with inGap | ⟨notBlank, _⟩
      · exact List.mem_append_left [c] inGap
      · simp [blank] at notBlank
    · rintro last
      simp only [List.getLast?_append, List.getLast?_singleton, Option.some_or,
        Option.some.injEq] at last
      subst last
      exact absurd blank (by decide)
  by_cases slash : c = '/'
  · subst slash
    simp only [blank, if_true]
    exact Turn.progresses_of_pending
      ⟨rfl, rfl, head, gap ++ ['/'], read, allowed.append rfl, by simp⟩
  by_cases angle : c = '>'
  · subst angle
    simp only [blank, slash, if_false, if_true]
    exact commit_startTag gap read (Or.inr allowed) (by simp [unfinished rfl])
  · simp only [blank, slash, angle, if_false]
    have continues : isTagNameChar c = true :=
      isTagNameChar_iff.mpr ⟨by simpa using blank, slash, angle⟩
    refine Turn.progresses_of_pending
      ⟨rfl, rfl, head, gap, by simpa using read, ⟨allowed, ?_⟩, ?_⟩
    · intro bare assigned
      rcases slashed bare with inGap | ⟨_, notAssigned⟩
      · exact inGap
      · simp only [Stretch.characters_mk, List.reverse_singleton, List.head?_cons,
          Option.some.injEq] at assigned
        exact absurd assigned notAssigned
    · simpa using isAttributeName_singleton continues

/-! ## Places in a tag -/

theorem inTag_name_progresses {source : TagSource} {position : Position} {c : Char}
    {stretch : Stretch} (reads : TagReads source (.name stretch)) :
    (inTag (source.push c) position c (.name stretch)).Progresses none
      (source.characters ++ [c]) := by
  obtain ⟨named, characters, lexemes, raw⟩ := reads
  have read : HeadRead ((source.push c).addName stretch) ⟨stretch.characters, []⟩ [c] :=
    headRead_addName named (by simp [characters]) (by simp [lexemes])
  have consumed : source.characters ++ [c] = ((source.push c).addName stretch).characters := by
    simp
  unfold inTag
  by_cases blank : isBlank c = true
  · simp only [blank, if_true]
    refine Turn.progresses_of_pending
      ⟨rfl, consumed.symm, ⟨stretch.characters, []⟩, [c], read, ?_, by rintro ⟨⟩, ?_⟩
    · exact Edge.allowsGap_singleton (isGapChar_of_isBlank blank) (by rintro ⟨⟩) (by rintro ⟨⟩)
    · rintro ⟨⟩
      exact absurd blank (by decide)
  by_cases slash : c = '/'
  · subst slash
    simp only [blank, if_true]
    exact Turn.progresses_of_pending
      ⟨rfl, consumed.symm, ⟨stretch.characters, []⟩, ['/'], read,
        Edge.allowsGap_singleton rfl (by rintro ⟨⟩) (by rintro ⟨⟩), rfl⟩
  by_cases angle : c = '>'
  · subst angle
    simp only [blank, slash, if_false, if_true]
    rw [consumed]
    exact commit_startTag [] read (Or.inl rfl) rfl
  · simp only [blank, slash, angle, if_false]
    have continues : isTagNameChar c = true :=
      isTagNameChar_iff.mpr ⟨by simpa using blank, slash, angle⟩
    exact Turn.progresses_of_pending
      ⟨rfl, by simp, by simpa using named.append continues, by simp [characters],
        by simp [lexemes], by simp [raw]⟩

theorem inTag_endName_progresses {source : TagSource} {position : Position} {c : Char}
    {stretch : Stretch} (reads : TagReads source (.endName stretch)) :
    (inTag (source.push c) position c (.endName stretch)).Progresses none
      (source.characters ++ [c]) := by
  obtain ⟨named, characters, lexemes, raw⟩ := reads
  unfold inTag
  by_cases gapChar : (isBlank c || c = '/') = true
  · simp only [gapChar, if_true]
    have notAngle : c ≠ '>' := by
      rintro rfl
      exact absurd gapChar (by decide)
    refine Turn.progresses_of_pending
      ⟨rfl, by simp, ⟨stretch.characters, [c]⟩, ⟨named, ?_, by simpa using Ne.symm notAngle⟩,
        by simp [characters], by simp, by simp [lexemes], by simp [raw]⟩
    intro first rest equality
    injection equality with firstEquality _
    rwa [← firstEquality]
  by_cases angle : c = '>'
  · subst angle
    simp only [gapChar, if_true]
    have consumed :
        source.characters ++ ['>'] =
          ((source.push '>').addPart .tagName stretch).characters := by
      simp
    rw [consumed]
    exact commit_endTag ⟨stretch.characters, []⟩ ⟨named, by simp, by simp⟩
      (by simp [characters, EndTag.source]) (by simp [lexemes]) (by simp [raw])
  · simp only [gapChar, angle, if_false]
    have continues : isTagNameChar c = true := by
      simp only [Bool.or_eq_true, not_or, Bool.not_eq_true, decide_eq_true_eq] at gapChar
      exact isTagNameChar_iff.mpr ⟨gapChar.1, gapChar.2, angle⟩
    exact Turn.progresses_of_pending
      ⟨rfl, by simp, by simpa using named.append continues, by simp [characters],
        by simp [lexemes], by simp [raw]⟩

theorem inTag_afterEndName_progresses {source : TagSource} {position : Position} {c : Char}
    (reads : TagReads source .afterEndName) :
    (inTag (source.push c) position c .afterEndName).Progresses none
      (source.characters ++ [c]) := by
  obtain ⟨tag, spelled, characters, ignored, lexemes, raw⟩ := reads
  unfold inTag
  by_cases angle : c = '>'
  · subst angle
    simp only [if_true]
    have consumed : source.characters ++ ['>'] = (source.push '>').characters := by
      simp
    rw [consumed]
    exact commit_endTag tag spelled (by simp [characters, EndTag.source]) (by simp [lexemes])
      (by simp [raw])
  · simp only [angle, if_false]
    obtain ⟨first, rest, split⟩ := List.exists_cons_of_ne_nil ignored
    refine Turn.progresses_of_pending
      ⟨rfl, by simp, ⟨tag.name, tag.ignored ++ [c]⟩, ⟨spelled.name, ?_, ?_⟩,
        by simp [characters], by simp, by simp [lexemes], by simp [raw]⟩
    · intro begins others equality
      simp only [split, List.cons_append] at equality
      injection equality with beginsEquality _
      exact spelled.ignored begins rest (by rw [split, beginsEquality])
    · simpa [Ne.symm angle] using spelled.closed

theorem inTag_beforeAttribute_progresses {source : TagSource} {position : Position} {c : Char}
    (reads : TagReads source .beforeAttribute) :
    (inTag (source.push c) position c .beforeAttribute).Progresses none
      (source.characters ++ [c]) := by
  obtain ⟨head, gap, read, allowed, slashed, unfinished⟩ := reads
  have consumed : source.characters ++ [c] = (source.push c).characters := by
    simp
  rw [consumed]
  exact beforeAttribute_progresses (read.push c) allowed
    (fun bare => Or.inl (slashed bare)) (fun _ => unfinished)

theorem inTag_slash_progresses {source : TagSource} {position : Position} {c : Char}
    (reads : TagReads source .slash) :
    (inTag (source.push c) position c .slash).Progresses none (source.characters ++ [c]) := by
  obtain ⟨head, gap, read, allowed, last⟩ := reads
  have consumed : source.characters ++ [c] = (source.push c).characters := by
    simp
  rw [consumed]
  unfold inTag
  by_cases angle : c = '>'
  · subst angle
    simp only [if_true]
    exact commit_startTag gap (read.push '>') (Or.inr allowed) (by simp [last])
  · simp only [angle, if_false]
    have inGap : '/' ∈ gap := List.mem_of_getLast? last
    exact beforeAttribute_progresses (read.push c) allowed (fun _ => Or.inl inGap)
      (fun isAngle => absurd isAngle angle)

theorem inTag_attributeName_progresses {source : TagSource} {position : Position} {c : Char}
    {stretch : Stretch} (reads : TagReads source (.attributeName stretch)) :
    (inTag (source.push c) position c (.attributeName stretch)).Progresses none
      (source.characters ++ [c]) := by
  obtain ⟨head, gap, read, allowed, named⟩ := reads
  have nameRead :
      NameRead ((source.push c).addPart .attributeName stretch) head gap stretch.characters [c] :=
    (read.push c).addName allowed named
  have consumed :
      source.characters ++ [c] =
        ((source.push c).addPart .attributeName stretch).characters := by
    simp
  unfold inTag
  by_cases blank : isBlank c = true
  · simp only [blank, if_true]
    exact Turn.progresses_of_pending
      ⟨rfl, consumed.symm, head, gap, stretch.characters, [c], nameRead, by simp,
        by simpa using blank⟩
  by_cases slash : c = '/'
  · subst slash
    simp only [blank, if_true]
    have edge : (head.add ⟨gap, stretch.characters, none⟩).edge = .bareName := by
      simp [AttributeSpelling.edge]
    exact Turn.progresses_of_pending
      ⟨rfl, consumed.symm, _, ['/'], nameRead.bare,
        Edge.allowsGap_singleton rfl (by simp [edge]) (by simp [edge]), rfl⟩
  by_cases assigned : c = '='
  · subst assigned
    simp only [blank, slash, if_false, if_true]
    exact Turn.progresses_of_pending
      ⟨rfl, consumed.symm, head, gap, stretch.characters, [], [], nameRead, by simp, by simp⟩
  by_cases angle : c = '>'
  · subst angle
    simp only [blank, slash, assigned, if_false, if_true]
    rw [consumed]
    exact commit_startTag [] nameRead.bare (Or.inl rfl) rfl
  · simp only [blank, slash, assigned, angle, if_false]
    have continues : isTagNameChar c = true :=
      isTagNameChar_iff.mpr ⟨by simpa using blank, slash, angle⟩
    refine Turn.progresses_of_pending
      ⟨rfl, by simp, head, gap, by simpa using read.push c, ?_,
        by simpa using named.append continues assigned⟩
    refine ⟨allowed.1, ?_⟩
    intro bare begins
    obtain ⟨first, rest, split⟩ := List.exists_cons_of_ne_nil named.nonempty
    exact allowed.2 bare (by simpa [split] using begins)

theorem inTag_afterAttributeName_progresses {source : TagSource} {position : Position} {c : Char}
    (reads : TagReads source .afterAttributeName) :
    (inTag (source.push c) position c .afterAttributeName).Progresses none
      (source.characters ++ [c]) := by
  obtain ⟨head, gap, name, before, read, nonempty, blanks⟩ := reads
  have consumed : source.characters ++ [c] = (source.push c).characters := by
    simp
  rw [consumed]
  unfold inTag
  by_cases blank : isBlank c = true
  · simp only [blank, if_true]
    refine Turn.progresses_of_pending
      ⟨rfl, rfl, head, gap, name, before ++ [c], read.push c, by simp, ?_⟩
    intro d member
    rcases List.mem_append.mp member with inBefore | isNew
    · exact blanks d inBefore
    · rwa [List.mem_singleton.mp isNew]
  by_cases assigned : c = '='
  · subst assigned
    simp only [blank, if_true]
    exact Turn.progresses_of_pending
      ⟨rfl, rfl, head, gap, name, before, [], read.push '=', blanks, by simp⟩
  · simp only [blank, assigned, if_false]
    have notBlank : isBlank c = false := by simpa using blank
    have edge : (head.add ⟨gap, name, none⟩).edge = .bareName := by
      simp [AttributeSpelling.edge]
    have allowed : (head.add ⟨gap, name, none⟩).edge.AllowsGap before := by
      rw [edge]
      exact ⟨fun d member => isGapChar_of_isBlank (blanks d member), nonempty⟩
    refine beforeAttribute_progresses (read.push c).bare allowed
      (fun _ => Or.inr ⟨notBlank, assigned⟩) ?_
    intro _ last
    exact absurd (blanks '/' (List.mem_of_getLast? last)) (by decide)

/-! ## Values -/

theorem inTag_beforeValue_progresses {source : TagSource} {position : Position} {c : Char}
    (reads : TagReads source .beforeValue) :
    (inTag (source.push c) position c .beforeValue).Progresses none
      (source.characters ++ [c]) := by
  obtain ⟨head, gap, name, before, after, read, blankBefore, blankAfter⟩ := reads
  have consumed : source.characters ++ [c] = (source.push c).characters := by
    simp
  rw [consumed]
  have readMore :
      NameRead (source.push c) head gap name (before ++ '=' :: (after ++ [c])) := by
    simpa using read.push c
  unfold inTag
  by_cases blank : isBlank c = true
  · simp only [blank, if_true]
    refine Turn.progresses_of_pending
      ⟨rfl, rfl, head, gap, name, before, after ++ [c], readMore, blankBefore, ?_⟩
    intro d member
    rcases List.mem_append.mp member with inAfter | isNew
    · exact blankAfter d inAfter
    · rwa [List.mem_singleton.mp isNew]
  by_cases quote : (c = '"' || c = '\'') = true
  · simp only [blank, quote, if_true]
    refine Turn.progresses_of_pending
      ⟨rfl, rfl, head, gap, name, before, after, readMore, blankBefore, blankAfter, ?_, by simp⟩
    simpa using quote
  by_cases angle : c = '>'
  · subst angle
    simp only [blank, quote, if_true]
    have valued :
        HeadRead ((source.push '>').addPart .attributeValue ⟨position, []⟩)
          (head.add ⟨gap, name, some ⟨before, after, .missing⟩⟩) ['>'] :=
      NameRead.valued (by simpa [ValueSpelling.source] using readMore)
        blankBefore blankAfter trivial rfl
    exact commit_startTag [] valued (Or.inl rfl) rfl
  · simp only [blank, quote, angle, if_false]
    refine Turn.progresses_of_pending
      ⟨rfl, rfl, head, gap, name, before, after, readMore, blankBefore, blankAfter, ?_⟩
    simp only [Bool.or_eq_true, decide_eq_true_eq, not_or] at quote
    refine ⟨by simp, by simpa using ⟨by simpa using blank, angle⟩, ?_, ?_⟩
    · simpa using quote.1
    · simpa using quote.2

theorem inTag_quotedValue_progresses {source : TagSource} {position : Position} {c : Char}
    {quote : Char} {stretch : Stretch} (reads : TagReads source (.quotedValue quote stretch)) :
    (inTag (source.push c) position c (.quotedValue quote stretch)).Progresses none
      (source.characters ++ [c]) := by
  obtain ⟨head, gap, name, before, after, read, blankBefore, blankAfter, isQuote, inside⟩ := reads
  unfold inTag
  by_cases closes : c = quote
  · subst closes
    simp only [if_true]
    have valued :
        HeadRead ((source.push c).addPart .attributeValue stretch)
          (head.add ⟨gap, name, some ⟨before, after, .quoted c stretch.characters⟩⟩) [] :=
      NameRead.valued (by simpa [ValueSpelling.source] using read.push c)
        blankBefore blankAfter ⟨isQuote, inside⟩ rfl
    have edge :
        (head.add ⟨gap, name, some ⟨before, after, .quoted c stretch.characters⟩⟩).edge =
          .quotedValue := by
      simp [AttributeSpelling.edge]
    exact Turn.progresses_of_pending
      ⟨rfl, by simp, _, [], valued, by simp [edge, Edge.AllowsGap], by simp [edge], by simp⟩
  · simp only [closes, if_false]
    refine Turn.progresses_of_pending
      ⟨rfl, by simp, head, gap, name, before, after, by simpa using read.push c, blankBefore,
        blankAfter, isQuote, ?_⟩
    simpa [Ne.symm closes] using inside

theorem inTag_unquotedValue_progresses {source : TagSource} {position : Position} {c : Char}
    {stretch : Stretch} (reads : TagReads source (.unquotedValue stretch)) :
    (inTag (source.push c) position c (.unquotedValue stretch)).Progresses none
      (source.characters ++ [c]) := by
  obtain ⟨head, gap, name, before, after, read, blankBefore, blankAfter, spelled⟩ := reads
  have valued :
      HeadRead ((source.push c).addPart .attributeValue stretch)
        (head.add ⟨gap, name, some ⟨before, after, .unquoted stretch.characters⟩⟩) [c] :=
    NameRead.valued (by simpa [ValueSpelling.source] using read.push c)
      blankBefore blankAfter spelled rfl
  have edge :
      (head.add ⟨gap, name, some ⟨before, after, .unquoted stretch.characters⟩⟩).edge =
        .unquotedValue := by
    simp [AttributeSpelling.edge]
  have consumed :
      source.characters ++ [c] =
        ((source.push c).addPart .attributeValue stretch).characters := by
    simp
  unfold inTag
  by_cases blank : isBlank c = true
  · simp only [blank, if_true]
    refine Turn.progresses_of_pending
      ⟨rfl, consumed.symm, _, [c], valued, ?_, by simp [edge], ?_⟩
    · exact Edge.allowsGap_singleton (isGapChar_of_isBlank blank) (fun _ => blank) (by simp [edge])
    · rintro ⟨⟩
      exact absurd blank (by decide)
  by_cases angle : c = '>'
  · subst angle
    simp only [blank, if_true]
    rw [consumed]
    exact commit_startTag [] valued (Or.inl rfl) rfl
  · simp only [blank, angle, if_false]
    refine Turn.progresses_of_pending
      ⟨rfl, by simp, head, gap, name, before, after, by simpa using read.push c, blankBefore,
        blankAfter, ?_⟩
    obtain ⟨nonempty, plain, notDouble, notSingle⟩ := spelled
    obtain ⟨first, rest, split⟩ := List.exists_cons_of_ne_nil nonempty
    refine ⟨by simp, ?_, by simpa [split] using notDouble, by simpa [split] using notSingle⟩
    intro d member
    rw [Stretch.characters_push] at member
    rcases List.mem_append.mp member with inContent | isNew
    · exact plain d inContent
    · rw [List.mem_singleton.mp isNew]
      exact ⟨by simpa using blank, angle⟩

/-- One character more of a tag leaves the characters read accounted for. -/
theorem inTag_progresses {source : TagSource} {position : Position} {c : Char} {mode : TagMode}
    (reads : TagReads source mode) :
    (inTag (source.push c) position c mode).Progresses none (source.characters ++ [c]) := by
  cases mode with
  | opening => exact afterLess_progresses reads
  | closing => exact afterLessSlash_progresses reads
  | name stretch => exact inTag_name_progresses reads
  | endName stretch => exact inTag_endName_progresses reads
  | afterEndName => exact inTag_afterEndName_progresses reads
  | beforeAttribute => exact inTag_beforeAttribute_progresses reads
  | attributeName stretch => exact inTag_attributeName_progresses reads
  | afterAttributeName => exact inTag_afterAttributeName_progresses reads
  | beforeValue => exact inTag_beforeValue_progresses reads
  | quotedValue quote stretch => exact inTag_quotedValue_progresses reads
  | unquotedValue stretch => exact inTag_unquotedValue_progresses reads
  | slash => exact inTag_slash_progresses reads

end Lexer

end JsxFragment
