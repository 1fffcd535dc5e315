import JsxFragment.Proofs.Token.TagTurn

/-!
# Turns in comments, declarations and raw text

What the next character does to markup that is no tag, and to raw text. The end of a section is the
first place where its closing characters stand, so the characters before it never hold them.
-/

namespace JsxFragment

open Text

namespace Lexer

/-! ## Declarations -/

/-- What the characters after a `<!` declare, and why. -/
theorem declared_cases (characters : List Char) :
    (characters = ['-', '-'] ∧ declared characters = .comment) ∨
      (characters = cdataWord ∧ declared characters = .cdata) ∨
      (characters.map Char.toUpper = doctypeWord ∧ declared characters = .doctype) ∨
      (characters ≠ ['-', '-'] ∧ characters ≠ cdataWord ∧
        characters.map Char.toUpper ≠ doctypeWord ∧
        (declared characters = .declaration ∨
          declared characters = .bogusComment ∧ ¬ characters <+: ['-', '-'] ∧
            ¬ characters <+: cdataWord ∧ ¬ characters.map Char.toUpper <+: doctypeWord)) := by
  have hyphens : "--".toList = ['-', '-'] := rfl
  have cdata : "[CDATA[".toList = cdataWord := rfl
  have doctype : "DOCTYPE".toList = doctypeWord := rfl
  unfold declared
  rw [hyphens, cdata, doctype]
  by_cases isHyphens : characters = ['-', '-']
  · exact Or.inl ⟨isHyphens, by simp [isHyphens]⟩
  by_cases isCdata : characters = cdataWord
  · exact Or.inr (Or.inl ⟨isCdata, by simp [isCdata, cdataWord]⟩)
  by_cases isDoctype : characters.map Char.toUpper = doctypeWord
  · exact Or.inr (Or.inr (Or.inl ⟨isDoctype, by simp [isHyphens, isCdata, isDoctype]⟩))
  · refine Or.inr (Or.inr (Or.inr ⟨isHyphens, isCdata, isDoctype, ?_⟩))
    simp only [isHyphens, isCdata, isDoctype, if_false, Bool.or_eq_true,
      List.isPrefixOf_iff_prefix]
    by_cases begins :
        (characters <+: ['-', '-'] ∨ characters <+: cdataWord) ∨
          characters.map Char.toUpper <+: doctypeWord
    · exact Or.inl (by simp only [begins, if_true])
    · right
      simp only [begins, if_false, true_and]
      simp only [not_or] at begins
      exact ⟨begins.1.1, begins.1.2, begins.2⟩

theorem not_opensSection_append {before : List Char} {c : Char} (closed : ¬ OpensSection before)
    (notHyphens : before ++ [c] ≠ ['-', '-']) (notCdata : before ++ [c] ≠ cdataWord)
    (notDoctype : (before ++ [c]).map Char.toUpper ≠ doctypeWord) :
    ¬ OpensSection (before ++ [c]) := by
  rintro (hyphens | cdata | doctype)
  · rcases List.prefix_concat_iff.mp hyphens with whole | earlier
    · exact notHyphens whole.symm
    · exact closed (Or.inl earlier)
  · rcases List.prefix_concat_iff.mp cdata with whole | earlier
    · exact notCdata whole.symm
    · exact closed (Or.inr (Or.inl earlier))
  · rw [List.map_append, List.map_singleton] at doctype notDoctype
    rcases List.prefix_concat_iff.mp doctype with whole | earlier
    · exact notDoctype whole.symm
    · exact closed (Or.inr (Or.inr earlier))

/-- Characters that neither open a section nor begin to do so never will. -/
theorem not_opensSection_of_not_prefix {characters more : List Char}
    (closed : ¬ OpensSection characters) (notHyphens : ¬ characters <+: ['-', '-'])
    (notCdata : ¬ characters <+: cdataWord)
    (notDoctype : ¬ characters.map Char.toUpper <+: doctypeWord) :
    ¬ OpensSection (characters ++ more) := by
  rintro (hyphens | cdata | doctype)
  · rcases List.prefix_or_prefix_of_prefix hyphens (List.prefix_append characters more) with
      opens | begins
    · exact closed (Or.inl opens)
    · exact notHyphens begins
  · rcases List.prefix_or_prefix_of_prefix cdata (List.prefix_append characters more) with
      opens | begins
    · exact closed (Or.inr (Or.inl opens))
    · exact notCdata begins
  · rw [List.map_append] at doctype
    rcases List.prefix_or_prefix_of_prefix doctype (List.prefix_append _ _) with opens | begins
    · exact closed (Or.inr (Or.inr opens))
    · exact notDoctype begins

theorem inMarkup_declaration_progresses {start : Position} {reversed source : List Char}
    {c : Char} (reads : MarkupReads reversed.reverse source .declaration) :
    (inMarkup start reversed c .declaration).Progresses none (source ++ [c]) := by
  obtain ⟨rfl, noAngle, closed⟩ := reads
  unfold inMarkup
  by_cases angle : c = '>'
  · subst angle
    simp only [if_true]
    exact Turn.progresses_of_construct (.bogusComment .exclamation reversed.reverse true)
      (by simp [Construct.source, BogusMark.char]) rfl rfl
      (fun _ => ⟨noAngle, fun _ => closed, by rintro ⟨⟩⟩) ⟨rfl, rfl⟩
  · simp only [angle, if_false, List.reverse_cons]
    have noAngleMore : '>' ∉ reversed.reverse ++ [c] := by
      simpa [Ne.symm angle] using noAngle
    rcases declared_cases (reversed.reverse ++ [c]) with
      ⟨whole, kind⟩ | ⟨whole, kind⟩ | ⟨whole, kind⟩ | ⟨notHyphens, notCdata, notDoctype, kind⟩
    · rw [kind]
      refine Turn.progresses_of_pending ⟨rfl, ?_, by simp, by simp, by simp⟩
      rw [List.append_assoc, whole]
      rfl
    · rw [kind]
      refine Turn.progresses_of_pending ⟨rfl, ?_, by simp⟩
      rw [List.append_assoc, whole]
      simp
    · rw [kind]
      exact Turn.progresses_of_pending ⟨rfl, reversed.reverse ++ [c], whole, by simp, by simp⟩
    · have closedMore : ¬ OpensSection (reversed.reverse ++ [c]) :=
        not_opensSection_append closed notHyphens notCdata notDoctype
      rcases kind with kind | ⟨kind, unbegunHyphens, unbegunCdata, unbegunDoctype⟩
      · rw [kind]
        exact Turn.progresses_of_pending
          ⟨rfl, by simp, by simpa using noAngleMore, by simpa using closedMore⟩
      · rw [kind]
        refine Turn.progresses_of_pending
          ⟨rfl, .exclamation, reversed.reverse ++ [c], by simp [BogusMark.content],
            by simp [BogusMark.char], noAngleMore, ?_⟩
        intro _ more
        exact not_opensSection_of_not_prefix closedMore unbegunHyphens unbegunCdata
          unbegunDoctype

/-! ## Comments -/

theorem isCommentContent_append {content : List Char} {c : Char}
    (isContent : IsCommentContent content)
    (notClosed : c = '>' → content ≠ [] ∧ content ≠ ['-'] ∧ ¬ ['-', '-'] <:+ content) :
    IsCommentContent (content ++ [c]) := by
  refine ⟨?_, ?_, ?_⟩
  · intro closing
    rcases List.infix_concat_iff.mp closing with ends | earlier
    · have split : ['-', '-'] ++ ['>'] <:+ content ++ [c] := ends
      obtain ⟨before, equality⟩ := split
      rw [← List.append_assoc] at equality
      have parts := List.append_inj' equality rfl
      exact (notClosed (by simpa using parts.2.symm)).2.2 ⟨before, parts.1⟩
    · exact isContent.closed earlier
  · intro begins
    rcases List.prefix_concat_iff.mp begins with whole | earlier
    · cases content with
      | nil =>
          simp only [List.nil_append, List.cons.injEq, and_true] at whole
          exact (notClosed whole.symm).1 rfl
      | cons first rest => simp at whole
    · exact isContent.notAngle earlier
  · intro begins
    rcases List.prefix_concat_iff.mp begins with whole | earlier
    · have split : ['-'] ++ ['>'] = content ++ [c] := whole
      have parts := List.append_inj' split rfl
      exact (notClosed (by simpa using parts.2.symm)).2.1 parts.1.symm
    · exact isContent.notHyphenAngle earlier

theorem inMarkup_comment_progresses {start : Position} {reversed source : List Char}
    {c : Char} (reads : MarkupReads reversed.reverse source .comment) :
    (inMarkup start reversed c .comment).Progresses none (source ++ [c]) := by
  obtain ⟨rfl, isContent⟩ := reads
  have goesOn (notClosed : c = '>' → reversed.reverse ≠ [] ∧ reversed.reverse ≠ ['-'] ∧
      ¬ ['-', '-'] <:+ reversed.reverse) :
      Turn.Progresses { mode := .markup start .comment (c :: reversed) } none
        (['<', '!', '-', '-'] ++ reversed.reverse ++ [c]) :=
    Turn.progresses_of_pending
      ⟨rfl, by simp, by simpa using isCommentContent_append isContent notClosed⟩
  unfold inMarkup
  by_cases angle : c = '>'
  · subst angle
    simp only [if_true]
    split
    · exact Turn.progresses_of_construct (.abruptComment .angle) rfl rfl rfl
        (fun _ => trivial) ⟨rfl, rfl⟩
    · exact Turn.progresses_of_construct (.abruptComment .hyphenAngle) rfl rfl rfl
        (fun _ => trivial) ⟨rfl, rfl⟩
    · next content =>
        have isShorter : IsCommentContent content.reverse := by
          have isPrefix : content.reverse <+: ('-' :: '-' :: content).reverse := by simp
          exact
            { closed := fun holds => isContent.closed (holds.trans isPrefix.isInfix)
              notAngle := fun begins => isContent.notAngle (begins.trans isPrefix)
              notHyphenAngle := fun begins => isContent.notHyphenAngle (begins.trans isPrefix) }
        exact Turn.progresses_of_construct (.comment content.reverse true)
          (by simp [Construct.source]) rfl rfl (fun _ => ⟨isShorter, by rintro ⟨⟩⟩) ⟨rfl, rfl⟩
    · next notEmpty notHyphen notHyphens =>
        refine goesOn fun _ => ⟨by simpa using notEmpty, ?_, ?_⟩
        · intro isHyphen
          exact notHyphen (by simpa using congrArg List.reverse isHyphen)
        · intro found
          obtain ⟨before, ends⟩ := found
          exact notHyphens before.reverse (by simpa using (congrArg List.reverse ends).symm)
  · simp only [angle, if_false]
    exact goesOn fun isAngle => absurd isAngle angle

theorem inMarkup_bogusComment_progresses {start : Position} {reversed source : List Char}
    {c : Char} (reads : MarkupReads reversed.reverse source .bogusComment) :
    (inMarkup start reversed c .bogusComment).Progresses none (source ++ [c]) := by
  obtain ⟨mark, after, content, rfl, noAngle, closed⟩ := reads
  unfold inMarkup
  by_cases angle : c = '>'
  · subst angle
    simp only [if_true, content]
    exact Turn.progresses_of_construct (.bogusComment mark after true)
      (by simp [Construct.source]) rfl rfl
      (fun _ => ⟨noAngle, fun isMark => by simpa using closed isMark [], by rintro ⟨⟩⟩)
      ⟨rfl, rfl⟩
  · simp only [angle, if_false]
    refine Turn.progresses_of_pending ⟨rfl, mark, after ++ [c], ?_, by simp, ?_, ?_⟩
    · rw [List.reverse_cons, content]
      cases mark <;> rfl
    · simpa [Ne.symm angle] using noAngle
    · intro isMark more
      simpa using closed isMark (c :: more)

theorem inMarkup_doctype_progresses {start : Position} {reversed source : List Char}
    {c : Char} (reads : MarkupReads reversed.reverse source .doctype) :
    (inMarkup start reversed c .doctype).Progresses none (source ++ [c]) := by
  obtain ⟨keyword, isKeyword, rfl, noAngle⟩ := reads
  unfold inMarkup
  by_cases angle : c = '>'
  · subst angle
    simp only [if_true]
    exact Turn.progresses_of_construct (.doctype keyword reversed.reverse true)
      (by simp [Construct.source]) rfl rfl (fun _ => ⟨isKeyword, noAngle, by rintro ⟨⟩⟩)
      ⟨rfl, rfl⟩
  · simp only [angle, if_false]
    refine Turn.progresses_of_pending ⟨rfl, keyword, isKeyword, by simp, ?_⟩
    simpa [Ne.symm angle] using noAngle

theorem inMarkup_cdata_progresses {start : Position} {reversed source : List Char}
    {c : Char} (reads : MarkupReads reversed.reverse source .cdata) :
    (inMarkup start reversed c .cdata).Progresses none (source ++ [c]) := by
  obtain ⟨rfl, unclosed⟩ := reads
  have goesOn (notClosed : c = '>' → ¬ [']', ']'] <:+ reversed.reverse) :
      Turn.Progresses { mode := .markup start .cdata (c :: reversed) } none
        (['<', '!'] ++ cdataWord ++ reversed.reverse ++ [c]) := by
    refine Turn.progresses_of_pending ⟨rfl, by simp, ?_⟩
    rw [List.reverse_cons]
    intro closing
    rcases List.infix_concat_iff.mp closing with ⟨before, equality⟩ | earlier
    · have split : (before ++ [']', ']']) ++ ['>'] = reversed.reverse ++ [c] := by
        simpa using equality
      have parts := List.append_inj' split rfl
      exact notClosed (by simpa using parts.2.symm) ⟨before, parts.1⟩
    · exact unclosed earlier
  unfold inMarkup
  by_cases angle : c = '>'
  · subst angle
    simp only [if_true]
    split
    · next content =>
        have unclosedBefore : ¬ [']', ']', '>'] <:+: content.reverse := by
          have isPrefix : content.reverse <+: (']' :: ']' :: content).reverse := by simp
          exact fun holds => unclosed (holds.trans isPrefix.isInfix)
        exact Turn.progresses_of_construct (.cdata content.reverse true)
          (by simp [Construct.source]) rfl rfl (fun _ => ⟨unclosedBefore, by rintro ⟨⟩⟩)
          ⟨rfl, rfl⟩
    · next notBrackets =>
        refine goesOn fun _ => ?_
        intro found
        obtain ⟨before, ends⟩ := found
        exact notBrackets before.reverse (by simpa using (congrArg List.reverse ends).symm)
  · simp only [angle, if_false]
    exact goesOn fun isAngle => absurd isAngle angle

end Lexer

end JsxFragment
