import JsxFragment.Proofs.Jsx.Letters
import JsxFragment.Proofs.Jsx.Spelling
import JsxFragment.Proofs.Jsx.StyleCut

/-!
# Styles with nothing in them

A style has nothing in it, no declaration and no part that is none, if it is of blanks and semicolons
alone. It passes for an empty style if moreover its blanks are blanks of HTML. A style of blanks with
others among them is thus kept as a string, and nothing is told of what is wrong with it.
-/

namespace JsxFragment.Jsx

open Text

namespace Style

/-! ## Blank pieces -/

theorem step_of_isBlank {c : Char} (blank : isBlank c = true) : Enclosure.step {} c = {} := by
  have notQuote : ¬(decide (c = '\'') || decide (c = '"')) = true := by
    simp only [Bool.or_eq_true, decide_eq_true_eq]
    rintro (rfl | rfl) <;> exact absurd blank (by decide)
  have notOpening : c ≠ '(' := by
    rintro rfl
    exact absurd blank (by decide)
  have notClosing : c ≠ ')' := by
    rintro rfl
    exact absurd blank (by decide)
  simp only [Enclosure.step, if_neg notQuote, if_neg notOpening, if_neg notClosing]

/-- Blanks and semicolons alone are cut at each semicolon. -/
theorem isBlank_of_mem_piecesFrom {text : List Char}
    (blank : ∀ c ∈ text, isBlank c = true ∨ c = ';') :
    ∀ piece ∈ piecesFrom {} text, ∀ c ∈ piece, isBlank c = true := by
  induction text with
  | nil => simp [piecesFrom]
  | cons c text inductionHypothesis =>
      obtain ⟨first, others⟩ := List.forall_mem_cons.mp blank
      have behind := inductionHypothesis others
      rw [piecesFrom]
      split
      · exact List.forall_mem_cons.mpr ⟨List.forall_mem_nil _, behind⟩
      · next kept =>
          have isBlankFirst : isBlank c = true := by
            refine first.resolve_right ?_
            rintro rfl
            exact kept rfl
          obtain ⟨piece, rest, pieces⟩ := exists_piecesFrom_eq {} text
          rw [step_of_isBlank isBlankFirst, pieces, List.modifyHead_cons]
          rw [pieces, List.forall_mem_cons] at behind
          exact List.forall_mem_cons.mpr
            ⟨List.forall_mem_cons.mpr ⟨isBlankFirst, behind.1⟩, behind.2⟩

/-- What is in no piece is a semicolon. -/
theorem eq_or_mem_of_mem_piecesFrom (enclosure : Enclosure) {c : Char} {text : List Char}
    (member : c ∈ text) : c = ';' ∨ ∃ piece ∈ piecesFrom enclosure text, c ∈ piece := by
  obtain ⟨first, others, pieces⟩ := exists_piecesFrom_eq enclosure text
  rw [← intercalate_piecesFrom enclosure text, pieces, intercalate_cons_eq] at member
  rw [pieces]
  exact eq_or_mem_of_mem_append_flatMap member

theorem forall_trim_eq_nil_iff {text : List Char} :
    (∀ piece ∈ split text, trim piece = []) ↔ ∀ c ∈ text, isBlank c = true ∨ c = ';' := by
  rw [split_eq_piecesFrom]
  simp only [trim_eq_nil_iff]
  constructor
  · intro blank c member
    refine (eq_or_mem_of_mem_piecesFrom {} member).symm.imp_left ?_
    rintro ⟨piece, isPiece, inPiece⟩
    exact blank piece isPiece c inPiece
  · exact isBlank_of_mem_piecesFrom

/-! ## Conversions of nothing -/

/-- There are no declarations, and nothing that is none. -/
structure Conversion.HoldsNothing (conversion : Conversion) : Prop where
  declarations : conversion.declarations = []
  skipped : conversion.skipped = []

/-- Every piece that is not blank is either a declaration or listed as none. -/
theorem holdsNothing_convert_iff (style : String) :
    (convert style).HoldsNothing ↔ ∀ c ∈ style.toList, isBlank c = true ∨ c = ';' := by
  rw [← forall_trim_eq_nil_iff]
  constructor
  · intro nothing piece isPiece
    by_contra some
    have counts : trim piece ∈ ((split style.toList).map trim).filter (!·.isEmpty) := by
      rw [List.mem_filter]
      exact ⟨List.mem_map_of_mem isPiece, by simpa using some⟩
    cases declared : declaration? (trim piece) with
    | some declaration =>
        have listed : declaration ∈ (convert style).declarations :=
          List.mem_filterMap.mpr ⟨_, counts, declared⟩
        exact absurd listed (by simp [nothing.declarations])
    | none =>
        have listed : String.ofList (trim piece) ∈ (convert style).skipped :=
          List.mem_map_of_mem (List.mem_filter.mpr ⟨counts, by simp [declared]⟩)
        exact absurd listed (by simp [nothing.skipped])
  · intro blank
    have none : ((split style.toList).map trim).filter (!·.isEmpty) = [] := by
      rw [List.filter_eq_nil_iff, List.forall_mem_map]
      exact fun piece isPiece => by simp [blank piece isPiece]
    constructor
    · simp only [convert, none, List.filterMap_nil]
    · simp only [convert, none, List.filter_nil, List.map_nil]

theorem isEmptySource_convert_iff (style : String) :
    (convert style).isEmptySource = true ↔
      ∀ c ∈ style.toList, isMarkupBlank c = true ∨ c = ';' := by
  simp only [Conversion.isEmptySource, convert, List.all_eq_true, isMarkupBlank, Bool.or_eq_true,
    decide_eq_true_eq]
  exact forall₂_congr fun c _ => by tauto

/-- A style of blanks and semicolons alone that has a blank which is none of HTML. -/
structure HasStrayBlank (style : String) : Prop where
  blank : ∀ c ∈ style.toList, isBlank c = true ∨ c = ';'
  stray : ∃ c ∈ style.toList, isBlank c = true ∧ isMarkupBlank c = false

/-- An empty style has nothing in it. -/
theorem holdsNothing_of_isEmptySource {style : String}
    (empty : (convert style).isEmptySource = true) : (convert style).HoldsNothing := by
  rw [holdsNothing_convert_iff]
  exact fun c member =>
    ((isEmptySource_convert_iff style).mp empty c member).imp_left isBlank_of_isMarkupBlank

theorem hasStrayBlank_iff (style : String) :
    HasStrayBlank style ↔
      (convert style).HoldsNothing ∧ (convert style).isEmptySource = false := by
  rw [holdsNothing_convert_iff, Bool.eq_false_iff, ne_eq, isEmptySource_convert_iff]
  constructor
  · rintro ⟨blank, c, member, isBlankStray, stray⟩
    refine ⟨blank, fun markup => ?_⟩
    rcases markup c member with isMarkup | rfl
    · exact absurd isMarkup (by simp [stray])
    · exact absurd isBlankStray (by decide)
  · rintro ⟨blank, notMarkup⟩
    push Not at notMarkup
    obtain ⟨c, member, stray, notSemicolon⟩ := notMarkup
    exact ⟨blank, c, member, (blank c member).resolve_right notSemicolon, by simpa using stray⟩

/-- Each member of an object has a colon in its text. -/
theorem colon_mem_intercalate (declared : String × String) (others : List (String × String)) :
    ':' ∈ [',', ' '].intercalate ((declared :: others).map memberText) := by
  cases others with
  | nil => simp [memberText]
  | cons next rest =>
      rw [List.map_cons, List.map_cons, List.intercalate_cons_cons]
      simp [memberText]

theorem expression_toList (conversion : Conversion) :
    conversion.expression.toList = '\x7b' :: '\x7b' ::
      ([',', ' '].intercalate (conversion.declarations.map memberText) ++ ['\x7d', '\x7d']) := by
  rw [← objectExpression_toList, List.append_nil, Conversion.expression]

theorem eq_nil_of_expression_eq {conversion : Conversion}
    (empty : conversion.expression = "\x7b\x7b\x7d\x7d") : conversion.declarations = [] := by
  cases declarations : conversion.declarations with
  | nil => rfl
  | cons declared others =>
      have colon : ':' ∈ conversion.expression.toList := by
        rw [expression_toList, declarations]
        simp only [List.mem_cons, List.mem_append, colon_mem_intercalate, true_or, or_true]
      rw [empty] at colon
      exact absurd colon (by decide)

end Style

/-! ## Attributes -/

theorem isNameChar_of_toLower_mem_style : ∀ c : Char, c.toNat < 0x80 →
    c.toLower ∈ "style".toList → isWordChar c = true ∧ isDecimalDigit c = false ∧ c ≠ ':' :=
  of_ascii (by decide +kernel)

section StyleAttribute

variable {name : String} (isStyle : lower name = "style")

include isStyle

theorem attributeName_of_style : attributeName name = name := by
  apply attributeName_of_not_mem
  intro spelling listed
  exact (ne_style_of_mem listed).1 isStyle

theorem isAttributeName_of_style : isAttributeName name = true := by
  have ascii := ascii_of_lower isStyle (by decide)
  have lowered : name.toList.map Char.toLower = "style".toList := by
    rw [← lowerText_of_ascii ascii, ← isStyle, lower, String.toList_ofList]
  have isNameChar : ∀ c ∈ name.toList,
      isWordChar c = true ∧ isDecimalDigit c = false ∧ c ≠ ':' := by
    intro c member
    have isLetter : c.toLower ∈ "style".toList := lowered ▸ List.mem_map_of_mem member
    exact isNameChar_of_toLower_mem_style c (ascii c member) isLetter
  have undivided : splitOn ':' name.toList = [name.toList] :=
    splitOn_of_not_mem fun member => (isNameChar ':' member).2.2 rfl
  rw [isAttributeName, undivided]
  cases characters : name.toList with
  | nil => simp [characters] at lowered
  | cons first rest =>
      rw [characters, List.forall_mem_cons] at isNameChar
      obtain ⟨begins, continues⟩ := isNameChar
      have others : rest.all isNameRest = true :=
        List.all_eq_true.mpr fun c member => by simp [isNameRest, (continues c member).1]
      simp [isNamePart, begins.1, begins.2.1, others]

theorem writeAttribute?_of_style (style : String) :
    writeAttribute? { name, value := some style } =
      some ("style=" ++ if (Style.convert style).succeeded then (Style.convert style).expression
        else quoteValue style) := by
  simp only [writeAttribute?, style?, attributeName_of_style isStyle,
    isAttributeName_of_style isStyle, isStyle, Bool.not_true, Bool.false_eq_true, if_false, if_true]
  split <;> rfl

theorem attributeNotices_of_style (tag style : String) :
    attributeNotices tag { name, value := some style } =
      (Style.convert style).skipped.map (.skippedDeclaration tag)
        ++ if (Style.convert style).succeeded then [] else [.keptStyle tag style] := by
  simp only [attributeNotices, style?, attributeName_of_style isStyle,
    isAttributeName_of_style isStyle, isStyle, Bool.not_true, Bool.false_eq_true, if_false, if_true]

end StyleAttribute

theorem Style.succeeded_eq_false_iff {conversion : Style.Conversion} :
    conversion.succeeded = false ↔
      conversion.declarations = [] ∧ conversion.isEmptySource = false := by
  simp [Conversion.succeeded]

theorem head?_quoteValue (value : String) :
    (quoteValue value).toList.head? = some '"' ∨ (quoteValue value).toList.head? = some '\'' := by
  unfold quoteValue
  dsimp only
  split
  · exact Or.inl (by simp)
  · split
    · exact Or.inr (by simp)
    · left
      rw [String.append_assoc, String.toList_append]
      rfl

theorem expression_ne_quoteValue (conversion : Style.Conversion) (value : String) :
    conversion.expression ≠ quoteValue value := by
  intro same
  have brace : (quoteValue value).toList.head? = some '\x7b' := by
    rw [← same, Style.expression_toList, List.head?_cons]
  rcases head?_quoteValue value with quote | quote
  · exact absurd (brace.symm.trans quote) (by decide)
  · exact absurd (brace.symm.trans quote) (by decide)

/-- A style passes for an empty one just if it has nothing in it, but for a style with a stray blank.
In the end an object without members stands for a style with nothing in it, and a style that is kept
as a string has parts that are listed as no declarations before that is told, but for one with a stray
blank again. -/
theorem isEmptySource_iff_holdsNothing {name : String} (isStyle : lower name = "style")
    (tag style : String) :
    (((Style.convert style).isEmptySource = true ↔ (Style.convert style).HoldsNothing) ↔
        ¬Style.HasStrayBlank style) ∧
      (writeAttribute? { name, value := some style } = some "style=\x7b\x7b\x7d\x7d" →
        (Style.convert style).HoldsNothing) ∧
      (writeAttribute? { name, value := some style } = some ("style=" ++ quoteValue style) →
        ∃ reported, attributeNotices tag { name, value := some style } =
            reported ++ [.keptStyle tag style] ∧
          reported = (Style.convert style).skipped.map (.skippedDeclaration tag) ∧
          (reported = [] ↔ Style.HasStrayBlank style)) := by
  have nothing := @Style.holdsNothing_of_isEmptySource style
  rw [writeAttribute?_of_style isStyle, attributeNotices_of_style isStyle,
    Style.hasStrayBlank_iff, Option.some.injEq, Option.some.injEq]
  refine ⟨?_, ?_, ?_⟩
  · cases empty : (Style.convert style).isEmptySource with
    | true => simp [nothing empty]
    | false => simp
  · intro written
    have parted : "style=\x7b\x7b\x7d\x7d" = "style=" ++ "\x7b\x7b\x7d\x7d" := by decide
    have written := (String.append_right_inj "style=").mp (written.trans parted)
    split at written
    · next succeeded =>
        have noDeclarations := Style.eq_nil_of_expression_eq written
        refine nothing ?_
        simpa [Style.Conversion.succeeded, noDeclarations] using succeeded
    · have noMembers : ({ source := "" } : Style.Conversion).expression =
          "\x7b\x7b\x7d\x7d" := by decide
      exact absurd (noMembers.trans written.symm) (expression_ne_quoteValue _ style)
  · intro written
    have written := (String.append_right_inj _).mp written
    split at written
    · exact absurd written (expression_ne_quoteValue _ style)
    · next failed =>
        obtain ⟨noDeclarations, notEmpty⟩ := Style.succeeded_eq_false_iff.mp (by simpa using failed)
        refine ⟨_, by rw [if_neg failed], rfl, ?_⟩
        rw [List.map_eq_nil_iff]
        exact ⟨fun noneSkipped => ⟨⟨noDeclarations, noneSkipped⟩, notEmpty⟩,
          fun stray => stray.1.skipped⟩

/-- In any spelling of the name: a style with a part that is no declaration, and no other part. -/
theorem isEmptySource_iff_holdsNothing_of_no_declaration :
    lower "STYLE" = "style" ∧
      writeAttribute? { name := "STYLE", value := some " a; " } =
        some ("style=" ++ quoteValue " a; ") ∧
      (∃ reported, attributeNotices "p" { name := "STYLE", value := some " a; " } =
          reported ++ [.keptStyle "p" " a; "] ∧
        reported = (Style.convert " a; ").skipped.map (.skippedDeclaration "p") ∧
        (reported = [] ↔ Style.HasStrayBlank " a; ")) ∧
      (Style.convert " a; ").skipped = ["a"] := by
  have isStyle : lower "STYLE" = "style" := by decide
  have written : writeAttribute? { name := "STYLE", value := some " a; " } =
      some ("style=" ++ quoteValue " a; ") := by decide +kernel
  exact ⟨isStyle, written, (isEmptySource_iff_holdsNothing isStyle "p" " a; ").2.2 written,
    by decide⟩

/-- A no-break space alone is neither an empty style nor one that has anything in it. It is kept as a
string, with no part of it told to be no declaration. -/
theorem not_isEmptySource_of_no_break_space :
    (Style.convert "\xa0").HoldsNothing ∧ (Style.convert "\xa0").isEmptySource = false ∧
      writeAttribute? { name := "style", value := some "\xa0" } =
        some ("style=" ++ quoteValue "\xa0") ∧
      attributeNotices "p" { name := "style", value := some "\xa0" } = [.keptStyle "p" "\xa0"] := by
  refine ⟨⟨?_, ?_⟩, ?_, ?_, ?_⟩
  · decide
  · decide
  · decide
  · decide +kernel
  · decide +kernel

end JsxFragment.Jsx
