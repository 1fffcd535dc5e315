import JsxFragment.Proofs.Token.RawText
import JsxFragment.Proofs.Token.TagEmission

/-!
# Emission of end tags, comments and raw text

The other constructs that a canonical text is made of. A comment and raw text go on as long as their
end does not come, which depends on all that was read of them.
-/

namespace JsxFragment

open Text

namespace Lexer

/-! ## End tags -/

theorem emits_endTag_end {tag : EndTag} (spelled : tag.IsSpelled) :
    Emits (InTagName "</" .endName tag.name) (tag.ignored ++ ['>']) tag.phrase.lexemes
      (AfterTag none) := by
  obtain ⟨_, gapFirst, closed⟩ := spelled
  let named : List Lexeme := [⟨.tagStart, "</"⟩, ⟨.tagName, String.ofList tag.name⟩]
  let Ignoring : Mode → Prop := InTag named none (· = .afterEndName)
  have addName (source : TagSource) (stretch : Stretch) (c : Char)
      (begun : source.lexemes = [⟨.tagStart, "</"⟩]) (content : stretch.characters = tag.name) :
      ((source.push c).addPart .tagName stretch).lexemes = named := by
    simp [begun, content, named]
  cases ignored : tag.ignored with
  | nil =>
      have angle : (isBlank '>' || ('>' : Char) = '/') = false := by decide
      refine Emits.single ?_
      intro mode position holds
      obtain ⟨source, tagMode, rfl, begun, tagRaw, stretch, rfl, content⟩ := holds
      simp only [react, inTag, angle, if_true, if_false, Bool.false_eq_true]
      exact commit_angle_settles _ (addName source stretch '>' begun content) tagRaw
  | cons first rest =>
      simp only [ignored, List.mem_cons, not_or] at closed
      have isGap : (isBlank first || first = '/') = true := gapFirst first rest ignored
      have starts : Emits (InTagName "</" .endName tag.name) [first] [] Ignoring := by
        refine Emits.single ?_
        intro mode position holds
        obtain ⟨source, tagMode, rfl, begun, tagRaw, stretch, rfl, content⟩ := holds
        simp only [react, inTag, isGap, if_true]
        exact ⟨⟨_, _, rfl, addName source stretch first begun content, tagRaw, rfl⟩, rfl, rfl⟩
      have goesOn (c : Char) (notAngle : c ≠ '>') : Emits Ignoring [c] [] Ignoring := by
        refine Emits.single ?_
        intro mode position holds
        obtain ⟨source, tagMode, rfl, tagLexemes, tagRaw, rfl⟩ := holds
        simp only [react, inTag, notAngle, if_false]
        exact ⟨⟨_, _, rfl, tagLexemes, tagRaw, rfl⟩, rfl, rfl⟩
      have all : Emits Ignoring rest [] Ignoring :=
        Emits.many (fun _ => Ignoring) (fun _ => goesOn)
          (fun c member isAngle => closed.2 (isAngle ▸ member)) []
      have ends : Emits Ignoring ['>'] tag.phrase.lexemes (AfterTag none) := by
        refine Emits.single ?_
        intro mode position holds
        obtain ⟨source, tagMode, rfl, tagLexemes, tagRaw, rfl⟩ := holds
        exact commit_angle_settles (source.push '>') tagLexemes tagRaw
      exact starts.silently (all.silently ends)

theorem emits_endTag {tag : EndTag} (spelled : tag.IsSpelled) (waiting : List Lexeme) :
    Emits (Resting waiting) tag.source (waiting ++ tag.phrase.lexemes) (· = .between) := by
  have named := spelled.name
  obtain ⟨first, rest, isName, letter⟩ := named.starts
  have slash : Emits (InTag [] none (· = .opening)) ['/'] [] (InTag [] none (· = .closing)) := by
    refine Emits.single ?_
    intro mode position holds
    obtain ⟨source, tagMode, rfl, tagLexemes, tagRaw, rfl⟩ := holds
    exact ⟨⟨_, _, rfl, by simpa using tagLexemes, by simpa using tagRaw, rfl⟩, rfl, rfl⟩
  have begins : Emits (InTag [] none (· = .closing)) [first] []
      (InTagName "</" .endName [first]) := by
    refine Emits.single ?_
    intro mode position holds
    obtain ⟨source, tagMode, rfl, tagLexemes, tagRaw, rfl⟩ := holds
    simp only [react, inTag, afterLessSlash, letter, if_true]
    exact ⟨⟨_, _, rfl, by simp, by simpa using tagRaw, _, rfl, rfl⟩, rfl, rfl⟩
  have goesOn (content : List Char) (c : Char) (continues : isTagNameChar c = true) :
      Emits (InTagName "</" .endName content) [c] []
        (InTagName "</" .endName (content ++ [c])) := by
    obtain ⟨notBlank, notSlash, notAngle⟩ := isTagNameChar_iff.mp continues
    refine Emits.single ?_
    intro mode position holds
    obtain ⟨source, tagMode, rfl, tagLexemes, tagRaw, stretch, rfl, rfl⟩ := holds
    simp only [react, inTag, notBlank, notSlash, notAngle, decide_false, Bool.or_self, if_false,
      Bool.false_eq_true]
    exact ⟨⟨_, _, rfl, by simpa using tagLexemes, by simpa using tagRaw, _, rfl, by simp⟩, rfl, rfl⟩
  have nameRead : Emits (InTagName "</" .endName [first]) rest []
      (InTagName "</" .endName tag.name) := by
    rw [isName]
    refine Emits.many (InTagName "</" .endName) goesOn ?_ [first]
    intro c member
    exact named.closed c (by simp [isName, member])
  have source :
      tag.source = ['<'] ++ (['/'] ++ ([first] ++ (rest ++ (tag.ignored ++ ['>'])))) := by
    simp [EndTag.source, isName]
  rw [source]
  exact (emits_less waiting).append
    (slash.silently (begins.silently (nameRead.silently (emits_endTag_end spelled))))

/-! ## Comments -/

/-- A beginning of two texts that ends with a character the second does not have is one of the
first. -/
theorem isPrefix_of_not_mem {first second sofar : List Char} {c : Char} (absent : c ∉ second)
    (isPrefix : sofar ++ [c] <+: first ++ second) : sofar ++ [c] <+: first := by
  rcases List.prefix_or_prefix_of_prefix isPrefix (List.prefix_append first second) with
    inFirst | longer
  · exact inFirst
  rcases List.prefix_concat_iff.mp longer with whole | shorter
  · exact whole ▸ List.prefix_rfl
  · obtain ⟨between, rfl⟩ := shorter
    rw [List.append_assoc, List.prefix_append_right_inj] at isPrefix
    exact absurd (isPrefix.subset (by simp)) absent

theorem emits_comment_start (waiting : List Lexeme) :
    Emits (Resting waiting) ['<', '!', '-', '-'] waiting (InMarkup .comment []) := by
  have mark : Emits (InTag [] none (· = .opening)) ['!'] [] (InMarkup .declaration []) := by
    refine Emits.single ?_
    intro mode position holds
    obtain ⟨source, tagMode, rfl, tagLexemes, tagRaw, rfl⟩ := holds
    exact ⟨⟨_, _, rfl, rfl⟩, rfl, rfl⟩
  have one : Emits (InMarkup .declaration []) ['-'] [] (InMarkup .declaration ['-']) := by
    refine Emits.single ?_
    intro mode position holds
    obtain ⟨start, reversed, rfl, content⟩ := holds
    obtain rfl := List.reverse_eq_nil_iff.mp content
    exact ⟨⟨_, _, rfl, rfl⟩, rfl, rfl⟩
  have two : Emits (InMarkup .declaration ['-']) ['-'] [] (InMarkup .comment []) := by
    refine Emits.single ?_
    intro mode position holds
    obtain ⟨start, reversed, rfl, content⟩ := holds
    obtain rfl : reversed = ['-'] := List.reverse_inj.mp content
    exact ⟨⟨_, _, rfl, rfl⟩, rfl, rfl⟩
  exact (emits_less waiting).beforeSilence (mark.silently (one.silently two))

/-- A comment goes on as long as what was read of it does not end with its end. -/
theorem emits_comment_char {content : List Char} {c : Char}
    (stillOpen : c = '>' → content ≠ [] ∧ content ≠ ['-'] ∧ ¬ ['-', '-'] <:+ content) :
    Emits (InMarkup .comment content) [c] [] (InMarkup .comment (content ++ [c])) := by
  refine Emits.single ?_
  intro mode position holds
  obtain ⟨start, reversed, rfl, rfl⟩ := holds
  have goesOn :
      Turn.Settles { mode := .markup start .comment (c :: reversed) } []
        (InMarkup .comment (reversed.reverse ++ [c])) :=
    ⟨⟨_, _, rfl, by simp⟩, rfl, rfl⟩
  unfold react inMarkup
  dsimp only
  by_cases angle : c = '>'
  · subst angle
    obtain ⟨notEmpty, notHyphen, notHyphens⟩ := stillOpen rfl
    simp only [if_true]
    split
    · exact absurd rfl notEmpty
    · exact absurd rfl notHyphen
    · next content => exact absurd ⟨content.reverse, by simp⟩ notHyphens
    · exact goesOn
  · simp only [angle, if_false]
    exact goesOn

theorem emits_comment {content : List Char} (isContent : IsCommentContent content)
    (waiting : List Lexeme) :
    Emits (Resting waiting) (Construct.comment content true).source
      (waiting ++ [⟨.comment, String.ofList content⟩]) (· = .between) := by
  have goesOn : Emits (InMarkup .comment []) (content ++ ['-', '-']) []
      (InMarkup .comment (content ++ ['-', '-'])) := by
    refine Emits.each (InMarkup .comment) fun sofar c isPrefix => emits_comment_char ?_
    rintro rfl
    -- The hyphens hold no `>`, so it belongs to the content.
    have inContent : sofar ++ ['>'] <+: content := isPrefix_of_not_mem (by decide) isPrefix
    refine ⟨?_, ?_, ?_⟩
    · rintro rfl
      exact isContent.notAngle inContent
    · rintro rfl
      exact isContent.notHyphenAngle inContent
    · intro found
      obtain ⟨before, rfl⟩ := found
      refine isContent.closed (List.IsInfix.trans ⟨before, [], ?_⟩ inContent.isInfix)
      simp
  have ends : Emits (InMarkup .comment (content ++ ['-', '-'])) ['>']
      [⟨.comment, String.ofList content⟩] (· = .between) := by
    refine Emits.single ?_
    intro mode position holds
    obtain ⟨start, reversed, rfl, whole⟩ := holds
    obtain rfl : reversed = '-' :: '-' :: content.reverse := by
      simpa using congrArg List.reverse whole
    have settles :
        (settle start .comment content.reverse.reverse).Settles
          [⟨.comment, String.ofList content⟩] (· = .between) :=
      ⟨rfl, by simp [settle, Token.lexeme], rfl⟩
    unfold react inMarkup
    exact settles
  have source : (Construct.comment content true).source =
      ['<', '!', '-', '-'] ++ ((content ++ ['-', '-']) ++ ['>']) := by
    simp [Construct.source]
  rw [source]
  exact (emits_comment_start waiting).append (goesOn.silently ends)

/-! ## Raw text -/

/-- Raw text without an end tag of its element goes on to the first one. -/
theorem emits_rawText {element : RawElement} {content : List Char} {tag : EndTag}
    (lacks : LacksEndTag element content) (closes : tag.Closes element) :
    Emits (InRawText element []) (content ++ tag.source)
      ((if content.isEmpty then [] else [⟨.text, String.ofList content⟩]) ++ tag.phrase.lexemes)
      (· = .between) := by
  have notFound {sofar : List Char}
      (isPrefix : sofar ++ ['>'] <+: content ++ '<' :: '/' :: (tag.name ++ tag.ignored)) :
      element.endTag? sofar.reverse = none := by
    cases found : element.endTag? sofar.reverse with
    | none => rfl
    | some result =>
        obtain ⟨before, spelling⟩ := result
        obtain ⟨earlier, closesEarlier, _, source⟩ := RawElement.closes_of_endTag? found
        obtain ⟨after, whole⟩ := isPrefix_of_not_mem closes.names.not_mem_angle isPrefix
        refine absurd ⟨before.reverse, after, earlier, closesEarlier, ?_⟩ lacks
        rw [List.reverse_reverse] at source
        rw [← whole, source, EndTag.source_eq_concat]
        simp
  have goesOn : Emits (InRawText element []) (content ++ '<' :: '/' :: (tag.name ++ tag.ignored)) []
      (InRawText element (content ++ '<' :: '/' :: (tag.name ++ tag.ignored))) := by
    refine Emits.each (InRawText element) fun sofar c isPrefix => Emits.single ?_
    intro mode position holds
    obtain ⟨start, stretch, rfl, rfl⟩ := holds
    have stays : Turn.Settles { mode := .rawText element start (stretch.push c) } []
        (InRawText element (stretch.characters ++ [c])) :=
      ⟨⟨_, _, rfl, by simp⟩, rfl, rfl⟩
    unfold react inRawText
    dsimp only
    by_cases angle : c = '>'
    · subst angle
      have none := notFound isPrefix
      rw [Stretch.characters, List.reverse_reverse] at none
      simp only [if_true, none]
      exact stays
    · simp only [angle, if_false]
      exact stays
  have ends : Emits (InRawText element (content ++ '<' :: '/' :: (tag.name ++ tag.ignored))) ['>']
      ((if content.isEmpty then [] else [⟨.text, String.ofList content⟩]) ++ tag.phrase.lexemes)
      (· = .between) := by
    refine Emits.single ?_
    intro mode position holds
    obtain ⟨start, stretch, rfl, whole⟩ := holds
    have found := RawElement.endTag?_of_closes content closes
    rw [← whole, Stretch.characters, List.reverse_reverse] at found
    unfold react inRawText
    simp only [if_true, found]
    refine ⟨rfl, ?_, rfl⟩
    cases content with
    | nil => rfl
    | cons first rest => simp [Token.lexeme, EndTag.phrase, Phrase.lexemes]
  rw [EndTag.source_eq_concat, ← List.append_assoc]
  exact goesOn.silently ends

end Lexer

end JsxFragment
