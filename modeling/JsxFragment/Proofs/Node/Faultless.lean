import JsxFragment.Proofs.Node.Balance
import JsxFragment.Proofs.Node.EventRun

/-!
# Reading without recoveries

Nesting notes a recovery for every tag that does not fit, so it notes none exactly where the tags
are balanced and no start tag repeats the name of an attribute.
-/

namespace JsxFragment

open Text Number

/-! ## Tags and attributes of phrases -/

namespace Phrase

/-- The tag that the phrase is, if it is one. -/
def tag? : Phrase → Option Tag
  | startTag name _ selfClosing => some (.start name selfClosing)
  | endTag name => some (.finish name)
  | text _ | cdata _ | comment _ | doctype _ => none

/-- The attributes of the phrase have different names, in any case. -/
def HasDistinctNames : Phrase → Prop
  | startTag _ attributes _ => (attributes.map fun given => lower given.name).Nodup
  | _ => True

end Phrase

theorem Event.filterMap_tag?_joinText (content : String) (events : List Event) :
    (joinText content events).filterMap tag? = events.filterMap tag? := by
  cases events with
  | nil => rfl
  | cons event rest => cases event <;> rfl

theorem Tag.ofLexemes_phrases (phrases : List Phrase) :
    ofLexemes (phrases.flatMap Phrase.lexemes) = phrases.filterMap Phrase.tag? := by
  induction phrases with
  | nil => rfl
  | cons phrase rest inductionHypothesis =>
      unfold ofLexemes at inductionHypothesis ⊢
      rw [List.flatMap_cons, Event.ofLexemes_phrase]
      cases phrase with
      | text content | cdata content =>
          rw [Phrase.before, Event.filterMap_tag?_joinText, inductionHypothesis]
          rfl
      | comment content | doctype content =>
          exact inductionHypothesis
      | startTag name attributes selfClosing | endTag name =>
          exact congrArg (_ :: ·) inductionHypothesis

theorem attributeNames_attributes (name : String) (attributes : List Attribute) (marker : String)
    (rest : List Lexeme) :
    attributeNames (⟨.tagName, name⟩ :: (attributes.flatMap Attribute.lexemes ++
        ⟨.tagEnd, marker⟩ :: rest)) = attributes.map (·.name) := by
  have inTag : ∀ lexeme ∈ attributes.flatMap Attribute.lexemes,
      decide (lexeme.kind ≠ .tagEnd) = true := by
    intro lexeme member
    rcases Event.attribute_lexemes_kind member with kind | kind <;> simp [kind]
  have names :
      ((attributes.flatMap Attribute.lexemes).filter (·.kind = .attributeName)).map (·.value) =
        attributes.map (·.name) := by
    induction attributes with
    | nil => rfl
    | cons given others inductionHypothesis =>
        rw [List.flatMap_cons, List.filter_append, List.map_append, inductionHypothesis]
        · cases value : given.value <;> simp [Attribute.lexemes, value]
        · intro lexeme member
          exact inTag lexeme (List.mem_append_right _ member)
  unfold attributeNames
  rw [List.takeWhile_cons_of_pos (by simp), List.takeWhile_append_of_pos inTag,
    List.takeWhile_cons_of_neg (by simp), List.append_nil, List.filter_cons_of_neg (by simp), names]

/-- Lexemes without the `<` of a start tag have no attributes to compare. -/
theorem haveDistinctNames_append {first : List Lexeme} (rest : List Lexeme)
    (noStart : ∀ lexeme ∈ first, lexeme ≠ ⟨.tagStart, "<"⟩) :
    HaveDistinctNames (first ++ rest) ↔ HaveDistinctNames rest := by
  induction first with
  | nil => rfl
  | cons lexeme others inductionHypothesis =>
      rw [List.forall_mem_cons] at noStart
      rw [List.cons_append, haveDistinctNames_cons, inductionHypothesis noStart.2]
      simp [noStart.1]

theorem haveDistinctNames_phrase (phrase : Phrase) (rest : List Lexeme) :
    HaveDistinctNames (phrase.lexemes ++ rest) ↔
      phrase.HasDistinctNames ∧ HaveDistinctNames rest := by
  cases phrase with
  | text content | cdata content | comment content | doctype content | endTag name =>
      rw [haveDistinctNames_append rest (by simp [Phrase.lexemes])]
      simp [Phrase.HasDistinctNames]
  | startTag name attributes selfClosing =>
      have noStart : ∀ lexeme ∈ attributes.flatMap Attribute.lexemes,
          lexeme ≠ ⟨.tagStart, "<"⟩ := by
        rintro lexeme member rfl
        rcases Event.attribute_lexemes_kind member with kind | kind <;> cases kind
      simp only [Phrase.lexemes, List.cons_append, List.append_assoc, List.nil_append]
      rw [haveDistinctNames_cons, haveDistinctNames_cons, haveDistinctNames_append _ noStart,
        haveDistinctNames_cons, attributeNames_attributes]
      simp [Phrase.HasDistinctNames, List.map_map, Function.comp_def]

theorem haveDistinctNames_phrases (phrases : List Phrase) :
    HaveDistinctNames (phrases.flatMap Phrase.lexemes) ↔
      ∀ phrase ∈ phrases, phrase.HasDistinctNames := by
  induction phrases with
  | nil => simp [haveDistinctNames_nil]
  | cons phrase rest inductionHypothesis =>
      rw [List.flatMap_cons, haveDistinctNames_phrase, inductionHypothesis, List.forall_mem_cons]

namespace Nesting.State

/-! ## What is noted -/

theorem notes_startTag {maxDepth : Amount} {state next : State} {tag : PendingTag}
    {selfClosing : Bool} (succeeds : startTag maxDepth state tag selfClosing = .ok next) :
    next.notes = ((repetitions tag).map Note.recovered).reverse ++ state.notes := by
  rcases startTag_cases succeeds with ⟨_, rfl⟩ | ⟨_, _, rfl⟩
  · rw [notes_append]
    rfl
  · rfl

@[simp]
theorem notes_closeInnermost (state : State) : state.closeInnermost.notes = state.notes := by
  unfold closeInnermost
  split
  · rfl
  · simp

theorem notes_closeEach (state : State) (elements : List OpenElement)
    (cause : OpenElement → RecoveryCause) :
    (state.closeEach elements cause).notes =
      (elements.map fun element => .recovered ⟨cause element, element.position⟩).reverse
        ++ state.notes := by
  unfold closeEach
  induction elements generalizing state with
  | nil => rfl
  | cons element rest inductionHypothesis =>
      rw [List.foldl_cons, inductionHypothesis, notes_closeInnermost]
      simp [recover]

/-! ## Faultless reading -/

/-- No recovery has been noted. -/
def IsFaultless (state : State) : Prop :=
  ∀ note ∈ state.notes, note.recovery? = none

theorem not_isFaultless_recover (state : State) (cause : RecoveryCause) (position : Position) :
    ¬(state.recover cause position).IsFaultless := by
  intro faultless
  have first := faultless _ List.mem_cons_self
  exact absurd first (by simp [Note.recovery?])

/-- Where these recoveries are noted, there was no fault if there are none of them. -/
theorem isFaultless_iff_of_notes {state next : State} {recoveries : List Recovery}
    (notes : next.notes = (recoveries.map Note.recovered).reverse ++ state.notes) :
    next.IsFaultless ↔ recoveries = [] ∧ state.IsFaultless := by
  unfold IsFaultless
  rw [notes, List.forall_mem_append]
  refine and_congr_left fun _ => ?_
  cases recoveries with
  | nil => simp
  | cons recovery others => simp [Note.recovery?]

theorem isFaultless_of_notes_eq {state next : State} (notes : next.notes = state.notes) :
    next.IsFaultless ↔ state.IsFaultless := by
  rw [IsFaultless, notes]
  rfl

theorem isFaultless_startTag {maxDepth : Amount} {state next : State} {tag : PendingTag}
    {selfClosing : Bool} (succeeds : startTag maxDepth state tag selfClosing = .ok next) :
    next.IsFaultless ↔
      (tag.attributes.reverse.map fun given => lower given.name).Nodup ∧ state.IsFaultless := by
  rw [isFaultless_iff_of_notes (notes_startTag succeeds), repetitions, List.map_eq_nil_iff,
    splitRepeated_snd_eq_nil_iff]

/-- An end tag is noted unless it closes the innermost element. -/
theorem isFaultless_endTag (state : State) (tag : PendingTag) :
    (state.endTag tag).IsFaultless ↔
      state.IsFaultless ∧ isVoidTag tag.name = false ∧
        ∃ innermost outer, state.openTags = innermost :: outer ∧
          lower innermost = lower tag.name := by
  rcases endTag_cases state tag with
    ⟨isVoid, equality⟩ | ⟨_, unmatched, equality⟩ |
      ⟨notVoid, inner, closed, outer, stack, others, same, equality⟩
  · rw [equality]
    simp [not_isFaultless_recover, isVoid]
  · rw [equality]
    refine iff_of_false (not_isFaultless_recover _ _ _) ?_
    rintro ⟨_, _, innermost, tags, opened, sameName⟩
    obtain ⟨element, elements, stack, rfl, _⟩ := List.map_eq_cons_iff.mp opened
    exact unmatched element (by simp [stack]) (element.key_eq.trans sameName)
  · have notes : (state.endTag tag).notes =
        ((inner.map fun element =>
          Recovery.mk (.implicitlyClosed element.tag tag.name) element.position).map
            Note.recovered).reverse ++ state.notes := by
      rw [equality, notes_closeInnermost, notes_closeEach, List.map_map]
      rfl
    rw [isFaultless_iff_of_notes notes, List.map_eq_nil_iff, and_comm]
    refine and_congr_right fun _ => ?_
    simp only [notVoid, true_and, openTags, stack]
    -- Only the innermost element is closed where nothing inside it is.
    cases inner with
    | nil => simp [← closed.key_eq, same]
    | cons element rest =>
        have otherName : lower element.tag ≠ lower tag.name := by
          rw [← element.key_eq]
          exact others element List.mem_cons_self
        simp [otherName]

theorem isFaultless_finish (state : State) :
    state.finish.IsFaultless ↔ state.openTags = [] ∧ state.IsFaultless := by
  have noTags : state.openTags = [] ↔ state.flush.stack.map
      (fun element => Recovery.mk (.unclosedElement element.tag) element.position) = [] := by
    rw [← openTags_flush, openTags, List.map_eq_nil_iff, List.map_eq_nil_iff]
  rw [noTags, ← isFaultless_of_notes_eq (notes_flush state)]
  apply isFaultless_iff_of_notes
  rw [finish, notes_closeEach, List.map_map]
  rfl

/-! ## Phrases -/

/-- A phrase leads from faultless reading to faultless reading if its attributes have different
names and it is a tag that fits what is open. -/
theorem isFaultless_phrase {maxDepth : Amount} {position : Position} {state next : State}
    {phrase : Phrase} (succeeds : state.phrase maxDepth position phrase = .ok next)
    (tags : List Tag) :
    next.IsFaultless ∧ ClosesAll next.openTags tags ↔
      state.IsFaultless ∧ phrase.HasDistinctNames ∧
        ClosesAll state.openTags (phrase.tag?.toList ++ tags) := by
  cases phrase with
  | text content | cdata content =>
      cases succeeds
      simp [Phrase.HasDistinctNames, Phrase.tag?, IsFaultless, openTags]
  | comment content =>
      cases succeeds
      simp [Phrase.HasDistinctNames, Phrase.tag?, IsFaultless]
  | doctype content =>
      cases succeeds
      have sameTags : openTags { state.flush with
          notes := .doctypeDropped content position :: state.flush.notes } = state.openTags :=
        openTags_flush state
      rw [sameTags]
      simp [Phrase.HasDistinctNames, Phrase.tag?, IsFaultless, Note.recovery?]
  | startTag name attributes selfClosing =>
      rw [isFaultless_startTag succeeds, openTags_startTag succeeds, openTags_flush,
        isFaultless_of_notes_eq (notes_flush state), List.reverse_reverse]
      simp only [Phrase.HasDistinctNames, Phrase.tag?, Option.toList_some, List.singleton_append,
        ClosesAll]
      exact and_assoc.trans and_left_comm
  | endTag name =>
      cases succeeds
      rw [isFaultless_endTag, openTags_endTag, openTags_flush,
        isFaultless_of_notes_eq (notes_flush state)]
      simp only [Phrase.HasDistinctNames, Phrase.tag?, Option.toList_some, List.singleton_append,
        ClosesAll, true_and]
      constructor
      · rintro ⟨⟨faultless, notVoid, innermost, outer, isInnermost, sameName⟩, closes⟩
        refine ⟨faultless, notVoid, innermost, outer, isInnermost, sameName, ?_⟩
        simpa [isInnermost, closeTag, notVoid, sameName] using closes
      · rintro ⟨faultless, notVoid, innermost, outer, isInnermost, sameName, closes⟩
        refine ⟨⟨faultless, notVoid, innermost, outer, isInnermost, sameName⟩, ?_⟩
        simpa [isInnermost, closeTag, notVoid, sameName] using closes

theorem isFaultless_takes {maxDepth : Amount} {phrases : List Phrase} {state final : State}
    (takes : Takes maxDepth state phrases final) :
    final.finish.IsFaultless ↔
      state.IsFaultless ∧ (∀ phrase ∈ phrases, phrase.HasDistinctNames) ∧
        ClosesAll state.openTags (phrases.filterMap Phrase.tag?) := by
  induction takes with
  | nil state =>
      rw [isFaultless_finish]
      simp [ClosesAll, and_comm]
  | @cons state next final phrase rest position first _ inductionHypothesis =>
      have step := isFaultless_phrase first (rest.filterMap Phrase.tag?)
      have tags : (phrase :: rest).filterMap Phrase.tag? =
          phrase.tag?.toList ++ rest.filterMap Phrase.tag? := by
        cases isTag : phrase.tag? <;> simp [isTag]
      rw [inductionHypothesis, List.forall_mem_cons, tags]
      constructor
      · rintro ⟨faultless, distinct, closes⟩
        obtain ⟨faultlessBefore, distinctFirst, closesBefore⟩ := step.mp ⟨faultless, closes⟩
        exact ⟨faultlessBefore, ⟨distinctFirst, distinct⟩, closesBefore⟩
      · rintro ⟨faultlessBefore, ⟨distinctFirst, distinct⟩, closesBefore⟩
        obtain ⟨faultless, closes⟩ := step.mpr ⟨faultlessBefore, distinctFirst, closesBefore⟩
        exact ⟨faultless, distinct, closes⟩

end Nesting.State

/-! ## Texts -/

/-- Nothing has to be put right to nest the tags of a text, if and only if no start tag repeats the
name of an attribute and the tags are balanced. -/
theorem recoveries_eq_nil_iff {limits : Limits} {html : String} {reading : Reading}
    (succeeds : read limits html = .ok reading) :
    reading.recoveries = [] ↔
      HaveDistinctNames (reading.tokens.map Token.lexeme) ∧
        Balanced (Tag.ofLexemes (reading.tokens.map Token.lexeme)) := by
  obtain ⟨constructs, final, _, _, lexemes, takes, _, notes⟩ := takes_of_read succeeds
  have faultless := Nesting.State.isFaultless_takes takes
  rw [Reading.recoveries, notes, lexemes, haveDistinctNames_phrases, Tag.ofLexemes_phrases,
    balanced_iff_closesAll, List.filterMap_eq_nil_iff]
  simpa [Nesting.State.IsFaultless, Nesting.State.openTags] using faultless

theorem recoveries_eq_nil_iff_of_nested_tags :
    ∃ reading, read {} "<P a b><br a/><i/>x</p>" = .ok reading ∧
      (reading.recoveries = [] ↔
        HaveDistinctNames (reading.tokens.map Token.lexeme) ∧
          Balanced (Tag.ofLexemes (reading.tokens.map Token.lexeme))) ∧
      Tag.ofLexemes (reading.tokens.map Token.lexeme) =
        [.start "P" false, .start "br" true, .start "i" true, .finish "p"] := by
  obtain ⟨reading, succeeds⟩ : ∃ reading, read {} "<P a b><br a/><i/>x</p>" = .ok reading :=
    ⟨_, rfl⟩
  refine ⟨reading, succeeds, recoveries_eq_nil_iff succeeds, ?_⟩
  obtain ⟨_, _, rfl⟩ := run_of_read succeeds
  dsimp only
  decide

end JsxFragment
