import JsxFragment.Proofs.Jsx.LeafScan
import JsxFragment.Proofs.Text.Split

/-!
# Reading text back

What a stretch of JSX makes of the state of the reader, whatever follows it. The text between two
breaks of lines is read as it stands, if it neither begins nor ends with a blank.
-/

namespace JsxFragment.Jsx

open Text

/-! ## Cleaning -/

/-- A break between two lines, or nothing: a line end, and blanks at the beginning of a line. -/
def IsBreak (text : List Char) : Prop :=
  text = [] ∨ ∃ blanks, text = '\n' :: blanks ∧ ∀ c ∈ blanks, isLineBlank c = true

/-- A character that breaks no line. -/
def BreaksNoLine (c : Char) : Prop :=
  c ≠ '\n' ∧ c ≠ '\r'
  deriving Decidable

theorem breaksNoLine_of_isLineBlank {c : Char} (blank : isLineBlank c = true) : BreaksNoLine c := by
  simp only [isLineBlank, Bool.or_eq_true, decide_eq_true_eq] at blank
  rcases blank with rfl | rfl
  · decide
  · decide

theorem map_lineEnd_of_breaksNoLine {text : List Char} (noBreak : ∀ c ∈ text, BreaksNoLine c) :
    (text.map fun c => if c = '\r' then '\n' else c) = text := by
  rw [List.map_congr_left (g := id), List.map_id]
  intro c member
  exact if_neg (noBreak c member).2

theorem textLines_of_breaksNoLine {text : List Char} (noBreak : ∀ c ∈ text, BreaksNoLine c) :
    textLines text = [text] := by
  rw [textLines, map_lineEnd_of_breaksNoLine noBreak,
    splitOn_of_not_mem fun member => (noBreak '\n' member).1 rfl]

theorem textLines_append_cons {text : List Char} (rest : List Char)
    (noBreak : ∀ c ∈ text, BreaksNoLine c) :
    textLines (text ++ '\n' :: rest) = text :: textLines rest := by
  have lineEnd : (if '\n' = '\r' then '\n' else '\n') = '\n' := rfl
  rw [textLines, List.map_append, map_lineEnd_of_breaksNoLine noBreak, List.map_cons, lineEnd,
    splitOn_append_cons, splitOn_of_not_mem fun member => (noBreak '\n' member).1 rfl,
    List.singleton_append, textLines]

theorem dropWhile_isLineBlank {blanks text : List Char}
    (blank : ∀ c ∈ blanks, isLineBlank c = true)
    (begins : ∀ c ∈ text.head?, isLineBlank c = false) :
    (blanks ++ text).dropWhile isLineBlank = text := by
  rw [List.dropWhile_append_of_pos blank]
  cases text with
  | nil => rfl
  | cons c rest => simp [begins c rfl]

theorem trimLine_first {text : List Char} (ends : ∀ c ∈ text.getLast?, isLineBlank c = false) :
    trimLine true false text = text := by
  have reversed : text.reverse.dropWhile isLineBlank = text.reverse :=
    @dropWhile_isLineBlank [] text.reverse nofun (by simpa using ends)
  simp [trimLine, reversed]

theorem trimLine_last {blanks text : List Char} (blank : ∀ c ∈ blanks, isLineBlank c = true)
    (begins : ∀ c ∈ text.head?, isLineBlank c = false) :
    trimLine false true (blanks ++ text) = text := by
  simp [trimLine, dropWhile_isLineBlank blank begins]

theorem trimLine_middle {blanks text : List Char} (blank : ∀ c ∈ blanks, isLineBlank c = true)
    (begins : ∀ c ∈ text.head?, isLineBlank c = false)
    (ends : ∀ c ∈ text.getLast?, isLineBlank c = false) :
    trimLine false false (blanks ++ text) = text := by
  have last := trimLine_first ends
  simp only [trimLine, if_true, Bool.false_eq_true, if_false] at last
  simp [trimLine, dropWhile_isLineBlank blank begins, last]

theorem cleanText_between {left text right : List Char} (breakLeft : IsBreak left)
    (breakRight : IsBreak right) (noBreak : ∀ c ∈ text, BreaksNoLine c)
    (begins : left ≠ [] → ∀ c ∈ text.head?, isLineBlank c = false)
    (ends : right ≠ [] → ∀ c ∈ text.getLast?, isLineBlank c = false) :
    cleanText (left ++ text ++ right) = text := by
  have single (line : List Char) :
      [' '].intercalate ([line].filter fun line => !line.isEmpty) = line := by
    cases line with
    | nil => rfl
    | cons c rest => simp
  have beforeBlank (line : List Char) :
      [' '].intercalate ([line, []].filter fun line => !line.isEmpty) = line := by
    cases line with
    | nil => rfl
    | cons c rest => simp
  have blankLine {blanks : List Char} (blank : ∀ c ∈ blanks, isLineBlank c = true) :
      trimLine false true blanks = [] := by
    simpa using @trimLine_last blanks [] blank (by simp)
  unfold cleanText
  rcases breakLeft with rfl | ⟨before, rfl, blankBefore⟩
  · rcases breakRight with rfl | ⟨after, rfl, blankAfter⟩
    · rw [List.nil_append, List.append_nil, textLines_of_breaksNoLine noBreak]
      exact single text
    · have noBreakAfter := fun c member => breaksNoLine_of_isLineBlank (blankAfter c member)
      rw [List.nil_append, textLines_append_cons _ noBreak,
        textLines_of_breaksNoLine noBreakAfter]
      simp only [trimLines, blankLine blankAfter, trimLine_first (ends (by simp))]
      exact beforeBlank text
  · have noBreakBefore := fun c member => breaksNoLine_of_isLineBlank (blankBefore c member)
    have noBreakLine : ∀ c ∈ before ++ text, BreaksNoLine c :=
      List.forall_mem_append.mpr ⟨noBreakBefore, noBreak⟩
    have first := @textLines_append_cons []
    rcases breakRight with rfl | ⟨after, rfl, blankAfter⟩
    · rw [List.append_nil, List.cons_append, ← List.nil_append ('\n' :: _), first _ nofun,
        textLines_of_breaksNoLine noBreakLine]
      simp only [trimLines, trimLine_last blankBefore (begins (by simp))]
      simpa [trimLine] using single text
    · have noBreakAfter := fun c member => breaksNoLine_of_isLineBlank (blankAfter c member)
      rw [List.cons_append, List.cons_append, ← List.nil_append ('\n' :: _), first _ nofun,
        textLines_append_cons _ noBreakLine, textLines_of_breaksNoLine noBreakAfter]
      simp only [trimLines, blankLine blankAfter,
        trimLine_middle blankBefore (begins (by simp)) (ends (by simp))]
      simpa [trimLine] using beforeBlank text

/-! ## Children -/

/-- Whether a child is a text. -/
def Child.isText : Child → Bool
  | .text _ => true
  | _ => false

@[simp]
theorem addText_nil (children : List Child) : addText [] children = children :=
  rfl

theorem addText_addText (first second : List Char) (children : List Child) :
    addText second (addText first children) = addText (first ++ second) children := by
  cases first with
  | nil => rfl
  | cons c first =>
      cases second with
      | nil => simp
      | cons d second =>
          cases children with
          | nil => simp [addText, String.append_assoc]
          | cons child others =>
              cases child <;> simp [addText, String.ofList_append, String.append_assoc]

theorem addText_of_not_isText {children : List Child}
    (notText : ∀ child ∈ children.head?, child.isText = false) (content : List Char) :
    addText content children =
      if content.isEmpty then children else .text (String.ofList content) :: children := by
  unfold addText
  cases children with
  | nil => rfl
  | cons child others =>
      cases child with
      | text earlier => exact absurd (notText _ rfl) (by simp [Child.isText])
      | element tag attributes inner => rfl
      | comment content => rfl

/-! ## Readings -/

/-- Reading a text leads from one state to another, whatever follows. -/
def Reads (state : ReaderState) (text : List Char) (next : ReaderState) : Prop :=
  ∀ rest, state.readFrom? (text ++ rest) = next.readFrom? rest

namespace Reads

variable {state between next : ReaderState} {first second : List Char}

theorem nil (state : ReaderState) : Reads state [] state :=
  fun _ => rfl

theorem append (readsFirst : Reads state first between) (readsSecond : Reads between second next) :
    Reads state (first ++ second) next := by
  intro rest
  rw [List.append_assoc, readsFirst, readsSecond]

theorem symbol {text : List Char} (symbol : Symbol)
    (scanned : ∀ rest, scanSymbol? (text ++ rest) = some (symbol, rest))
    (stepped : state.step? symbol = some next) : Reads state text next := by
  intro rest
  have nonempty : text ≠ [] := by
    rintro rfl
    exact absurd (scanned []) (by simp [scanSymbol?])
  have positive := List.length_pos_iff.mpr nonempty
  have notEmpty : (text ++ rest).isEmpty = false := by simp [nonempty]
  rw [ReaderState.readFrom?.eq_def, notEmpty, scanned]
  simp only [Bool.false_eq_true, if_false, stepped]
  rw [if_pos]
  rw [List.length_append]
  omega

theorem readFrom?_eq {text : List Char} (reads : Reads state text next) :
    state.readFrom? text = some next := by
  have whole := reads []
  rw [List.append_nil, ReaderState.readFrom?.eq_def next] at whole
  exact whole

/-- A reading of no text at all leads nowhere else. -/
theorem eq_of_nil (reads : Reads state [] next) : next = state := by
  have whole := reads.readFrom?_eq
  rw [ReaderState.readFrom?.eq_def] at whole
  simpa using whole.symm

end Reads

/-- A character of text that stands for itself. -/
def IsPlain (c : Char) : Prop :=
  c ≠ '<' ∧ c ≠ '>' ∧ c ≠ '\x7b' ∧ c ≠ '\x7d'
  deriving Decidable

theorem scanSymbol?_of_isPlain {c : Char} (plain : IsPlain c) (rest : List Char) :
    scanSymbol? ([c] ++ rest) = some (.char c, rest) := by
  obtain ⟨notLess, notGreater, notOpening, notClosing⟩ := plain
  rw [List.singleton_append, scanSymbol?.eq_def]
  split
  · next equality => simp at equality
  · next equality => exact absurd (List.cons.inj equality).1 notLess
  · next equality => exact absurd (List.cons.inj equality).1 notOpening
  · next equality =>
      obtain ⟨rfl, rfl⟩ := List.cons.inj equality
      simp [notGreater, notClosing]

theorem reads_plain {text : List Char} (plain : ∀ c ∈ text, IsPlain c) (state : ReaderState) :
    Reads state text { state with run := state.run ++ text } := by
  induction text generalizing state with
  | nil =>
      rw [List.append_nil]
      exact Reads.nil state
  | cons c text inductionHypothesis =>
      obtain ⟨plainFirst, plainRest⟩ := List.forall_mem_cons.mp plain
      have first : Reads state [c] { state with run := state.run ++ [c] } :=
        Reads.symbol (.char c) (scanSymbol?_of_isPlain plainFirst) rfl
      have others := inductionHypothesis plainRest { state with run := state.run ++ [c] }
      simpa using first.append others

theorem isPlain_of_isBreak {text : List Char} (isBreak : IsBreak text) : ∀ c ∈ text, IsPlain c := by
  have ofBlank (c : Char) (blank : isLineBlank c = true) : IsPlain c := by
    simp only [isLineBlank, Bool.or_eq_true, decide_eq_true_eq] at blank
    rcases blank with rfl | rfl
    · decide
    · decide
  rcases isBreak with rfl | ⟨blanks, rfl, blank⟩
  · simp
  · exact List.forall_mem_cons.mpr ⟨by decide, fun c member => ofBlank c (blank c member)⟩

/-- These are the children, whether the text after the last of them ends here or at a break. -/
def ReaderState.Settles (state : ReaderState) (children : List Child) : Prop :=
  ∀ right, IsBreak right → addText (cleanText (state.run ++ right)) state.children = children

theorem ReaderState.Settles.settled_eq {state : ReaderState} {children : List Child}
    (settles : state.Settles children) {right : List Char} (isBreak : IsBreak right) :
    ReaderState.settled { state with run := state.run ++ right } = children :=
  settles right isBreak

theorem cleanText_of_isBreak {right : List Char} (isBreak : IsBreak right) :
    cleanText right = [] := by
  simpa using @cleanText_between [] [] right (Or.inl rfl) isBreak (by simp) (by simp) (by simp)

theorem settles_of_run_eq_nil (children : List Child) (outer : List OpenChild) :
    ReaderState.Settles { children, outer, run := [] } children := by
  intro right isBreak
  rw [List.nil_append, cleanText_of_isBreak isBreak, addText_nil]

/-! ## Texts in braces -/

theorem scanSymbol?_brace (text : List Char) :
    scanSymbol? ('\x7b' :: text) = scanExpression? text :=
  rfl

theorem scanSymbol?_literal (content rest : List Char) :
    scanSymbol?
        ('\x7b' :: '"' :: (content.flatMap Json.escapeChar ++ '"' :: '\x7d' :: rest)) =
      some (.text (String.ofList content), rest) := by
  rw [scanSymbol?_brace]
  simp only [scanExpression?, scanLiteral?_flatMap]

theorem reads_literal (content : List Char) (state : ReaderState) :
    Reads state ('\x7b' :: '"' :: (content.flatMap Json.escapeChar ++ ['"', '\x7d']))
      { state with children := addText content state.settled, run := [] } := by
  refine Reads.symbol (.text (String.ofList content)) ?_ ?_
  · intro rest
    simpa using scanSymbol?_literal content rest
  · simp [ReaderState.step?]

theorem reads_stringExpression (text : String) (state : ReaderState) :
    Reads state (stringExpression text).toList
      { state with
        children := addText (Entity.decodeAll text.toList) state.settled
        run := [] } := by
  have written : (stringExpression text).toList = '\x7b' :: '"' ::
      ((Entity.decodeAll text.toList).flatMap Json.escapeChar ++ ['"', '\x7d']) := by
    simp [stringExpression, inBraces, Json.literal]
  rw [written]
  exact reads_literal (Entity.decodeAll text.toList) state

theorem reads_space (state : ReaderState) :
    Reads state space.toList { state with children := addText [' '] state.settled, run := [] } :=
  reads_literal [' '] state

theorem reads_templateExpression (text : String) (state : ReaderState) :
    Reads state (templateExpression text).toList
      { state with children := addText text.toList state.settled, run := [] } := by
  refine Reads.symbol (.text text) ?_ rfl
  intro rest
  have written : (templateExpression text).toList ++ rest =
      '\x7b' :: '\x60' :: (escapeTemplate text.toList ++ '\x60' :: '\x7d' :: rest) := by
    simp [templateExpression, inBraces]
  rw [written, scanSymbol?_brace]
  simp only [scanExpression?, scanTemplate?_escapeTemplate, String.ofList_toList]

theorem reads_comment (content : String) (state : ReaderState) :
    Reads state (comment content).toList
      { state with children := normalComment content :: state.settled, run := [] } := by
  unfold comment normalComment
  dsimp only
  split
  · exact Reads.symbol (.comment " ") (fun _ => rfl) rfl
  · refine Reads.symbol (.comment (String.ofList
      (' ' :: breakTerminators (trim content.toList) ++ [' ']))) ?_ rfl
    intro rest
    have written : (inBraces ("/* " ++ String.ofList (breakTerminators (trim content.toList))
        ++ " */")).toList ++ rest = '\x7b' :: '/' :: '*' :: ' ' ::
          (breakTerminators (trim content.toList) ++ ' ' :: '*' :: '/' :: '\x7d' :: rest) := by
      simp [inBraces]
    rw [written, scanSymbol?_brace]
    simp only [scanExpression?, scanComment?_between_spaces]

/-! ## Flowing text -/

/-- A character of flowing text: it is no bracket of a tag and breaks no line. -/
def Flows (c : Char) : Prop :=
  c ≠ '<' ∧ c ≠ '>' ∧ BreaksNoLine c
  deriving Decidable

/-- A character of text, with a brace as a string expression. -/
def escapeBrace (c : Char) : List Char :=
  if c = '\x7b' || c = '\x7d' then ['\x7b', '"', c, '"', '\x7d'] else [c]

theorem escapeTextChar_eq_flatMap (c : Char) :
    escapeTextChar c = (referTextChar c).flatMap escapeBrace := by
  by_cases opening : c = '\x7b'
  · subst opening
    rfl
  by_cases closing : c = '\x7d'
  · subst closing
    rfl
  by_cases less : c = '<'
  · subst less
    rfl
  by_cases greater : c = '>'
  · subst greater
    rfl
  simp only [escapeTextChar, opening, closing, less, greater, if_false, referTextChar,
    List.flatMap_singleton, escapeBrace, decide_false, Bool.or_self, Bool.false_eq_true]

theorem reads_brace {c : Char} (brace : c = '\x7b' ∨ c = '\x7d') (state : ReaderState) :
    Reads state (escapeBrace c)
      { state with children := addText [c] state.settled, run := [] } := by
  rcases brace with rfl | rfl
  · exact reads_literal ['\x7b'] state
  · exact reads_literal ['\x7d'] state

/-- A brace ends the text before it, which may follow a break. -/
theorem reads_brace_after {c : Char} (brace : c = '\x7b' ∨ c = '\x7d') {left live : List Char}
    (isBreak : IsBreak left) (noBreak : ∀ d ∈ live, BreaksNoLine d)
    (begins : left ≠ [] → ∀ d ∈ live.head?, isLineBlank d = false)
    (children : List Child) (outer : List OpenChild) :
    Reads { children, outer, run := left ++ live } (escapeBrace c)
      { children := addText (live ++ [c]) children, outer, run := [] } := by
  have clean : cleanText (left ++ live) = live := by
    simpa using cleanText_between isBreak (Or.inl rfl) noBreak begins (by simp)
  have reads := reads_brace brace { children, outer, run := left ++ live }
  rw [ReaderState.settled, clean, addText_addText] at reads
  exact reads

/-- Text with its braces as string expressions settles as the text. What has been read of it since
the last brace is `live`; before the first brace it may follow a break. -/
theorem reads_flow {text : List Char}
    (flowing : ∀ c ∈ text, Flows c) (outer : List OpenChild) :
    ∀ (left live : List Char) (children : List Child), IsBreak left →
      (∀ c ∈ live, BreaksNoLine c) →
      (left ≠ [] → ∀ c ∈ (live ++ text).head?, isLineBlank c = false) →
      (∀ c ∈ (live ++ text).getLast?, isLineBlank c = false) →
      ∃ next : ReaderState,
        Reads { children, outer, run := left ++ live } (text.flatMap escapeBrace) next ∧
          next.outer = outer ∧ next.Settles (addText (live ++ text) children) := by
  induction text with
  | nil =>
      intro left live children isBreak noBreak begins ends
      rw [List.append_nil] at begins ends ⊢
      refine ⟨_, Reads.nil _, rfl, ?_⟩
      intro right isBreakRight
      rw [cleanText_between isBreak isBreakRight noBreak begins fun _ => ends]
  | cons c text inductionHypothesis =>
      intro left live children isBreak noBreak begins ends
      obtain ⟨⟨notLess, notGreater, breaksNoLine⟩, flowingRest⟩ := List.forall_mem_cons.mp flowing
      rw [List.flatMap_cons]
      by_cases brace : c = '\x7b' ∨ c = '\x7d'
      · have beginsLive : left ≠ [] → ∀ d ∈ live.head?, isLineBlank d = false := by
          intro nonempty d head
          refine begins nonempty d ?_
          rw [List.head?_append, Option.mem_def.mp head]
          rfl
        have endsRest : ∀ d ∈ ([] ++ text).getLast?, isLineBlank d = false := by
          intro d last
          refine ends d ?_
          rw [List.nil_append] at last
          simp [List.getLast?_append, List.getLast?_cons, Option.mem_def.mp last]
        obtain ⟨next, reads, outerEq, settles⟩ := inductionHypothesis flowingRest [] []
          (addText (live ++ [c]) children) (Or.inl rfl) nofun
          (fun absurdity => absurd rfl absurdity) endsRest
        refine ⟨next, ?_, outerEq, ?_⟩
        · exact (reads_brace_after brace isBreak noBreak beginsLive children outer).append reads
        · rw [addText_addText] at settles
          simpa using settles
      · have escaped : escapeBrace c = [c] := by
          simpa [escapeBrace] using brace
        have plain : ∀ d ∈ [c], IsPlain d := by
          simpa [IsPlain, notLess, notGreater] using brace
        have noBreakLive : ∀ d ∈ live ++ [c], BreaksNoLine d := by
          simpa [or_imp, forall_and, breaksNoLine] using noBreak
        obtain ⟨next, reads, outerEq, settles⟩ := inductionHypothesis flowingRest left
          (live ++ [c]) children isBreak noBreakLive (by simpa using begins) (by simpa using ends)
        refine ⟨next, ?_, outerEq, by simpa using settles⟩
        rw [escaped]
        have first := reads_plain plain { children, outer, run := left ++ live }
        rw [List.append_assoc] at first
        exact first.append reads

end JsxFragment.Jsx
