import JsxFragment.Node.Nesting
import Mathlib.Data.List.TakeWhile

/-!
# Tags of any tokens

Tokens may come in any order, and still some of them make up tags: from a token that begins a tag up
to one that ends it, with no other of either kind between the two. All that a tag says is read off
its tokens: its name is the last one that is given, and each attribute has the last value before the
next attribute.
-/

namespace JsxFragment

open Text Nesting

/-! ## What tokens say -/

/-- The value of the last token of the kind. -/
def lastValue? (kind : TokenKind) (tokens : List Token) : Option String :=
  ((tokens.filter (·.kind = kind)).getLast?).map (·.value)

/-- The tokens before the next name of an attribute. -/
def beforeName (tokens : List Token) : List Token :=
  tokens.takeWhile (·.kind ≠ .attributeName)

/-- The attributes that are named by the tokens, each with the last value before the next name. -/
def attributesOf : List Token → List Attribute
  | [] => []
  | token :: rest =>
      if token.kind = .attributeName then
        { name := token.value, value := lastValue? .attributeValue (beforeName rest) }
          :: attributesOf rest
      else attributesOf rest

/-- The attributes whose name, in any case, is not one of `earlier` and has no other attribute of
the list before it. -/
def firstOccurrences (earlier : List String) : List Attribute → List Attribute
  | [] => []
  | given :: rest =>
      let others := firstOccurrences (lower given.name :: earlier) rest
      if lower given.name ∈ earlier then others else given :: others

theorem lastValue?_concat (kind : TokenKind) (tokens : List Token) (token : Token) :
    lastValue? kind (tokens ++ [token]) =
      if token.kind = kind then some token.value else lastValue? kind tokens := by
  unfold lastValue?
  by_cases ofKind : token.kind = kind <;> simp [ofKind]

theorem attributesOf_eq_nil_iff (tokens : List Token) :
    attributesOf tokens = [] ↔ ∀ token ∈ tokens, token.kind ≠ .attributeName := by
  induction tokens with
  | nil => simp [attributesOf]
  | cons token rest inductionHypothesis =>
      rw [attributesOf, List.forall_mem_cons]
      by_cases isName : token.kind = .attributeName <;> simp [isName, inductionHypothesis]

theorem beforeName_of_unnamed {tokens : List Token} (unnamed : attributesOf tokens = []) :
    beforeName tokens = tokens := by
  rw [beforeName, List.takeWhile_eq_self_iff]
  simpa using (attributesOf_eq_nil_iff tokens).mp unnamed

theorem beforeName_append_of_named {tokens : List Token} (named : attributesOf tokens ≠ [])
    (more : List Token) : beforeName (tokens ++ more) = beforeName tokens := by
  unfold beforeName
  rw [List.takeWhile_append, if_neg]
  intro sameLength
  have whole : tokens.takeWhile (·.kind ≠ .attributeName) = tokens :=
    (List.takeWhile_sublist _).eq_of_length sameLength
  apply named
  rw [attributesOf_eq_nil_iff]
  simpa using List.takeWhile_eq_self_iff.mp whole

theorem attributesOf_concat_of_name {token : Token} (isName : token.kind = .attributeName)
    (tokens : List Token) :
    attributesOf (tokens ++ [token]) = attributesOf tokens ++ [{ name := token.value }] := by
  induction tokens with
  | nil => simp [attributesOf, isName, lastValue?, beforeName]
  | cons first rest inductionHypothesis =>
      have sameScope : beforeName (rest ++ [token]) = beforeName rest := by
        by_cases unnamed : attributesOf rest = []
        · have ended : beforeName [token] = [] := by simp [beforeName, isName]
          have all : ∀ other ∈ rest, decide (other.kind ≠ .attributeName) = true := by
            simpa using (attributesOf_eq_nil_iff rest).mp unnamed
          rw [beforeName_of_unnamed unnamed, beforeName, List.takeWhile_append_of_pos all]
          exact (congrArg (rest ++ ·) ended).trans (List.append_nil rest)
        · exact beforeName_append_of_named unnamed [token]
      rw [List.cons_append, attributesOf, attributesOf, sameScope, inductionHypothesis]
      split <;> rfl

theorem attributesOf_concat_of_unnamed {token : Token} (notName : token.kind ≠ .attributeName)
    {tokens : List Token} (unnamed : attributesOf tokens = []) :
    attributesOf (tokens ++ [token]) = [] := by
  rw [attributesOf_eq_nil_iff] at unnamed ⊢
  rw [List.forall_mem_append]
  exact ⟨unnamed, by simpa using notName⟩

/-- A value is that of the last attribute, if there is one. -/
theorem attributesOf_concat_of_value {token : Token} (isValue : token.kind = .attributeValue)
    (tokens : List Token) :
    (attributesOf (tokens ++ [token])).reverse =
      match (attributesOf tokens).reverse with
      | [] => []
      | last :: before => { last with value := some token.value } :: before := by
  have notName : token.kind ≠ .attributeName := by simp [isValue]
  induction tokens with
  | nil => simp [attributesOf, notName]
  | cons first rest inductionHypothesis =>
      rw [List.cons_append, attributesOf, attributesOf]
      by_cases isName : first.kind = .attributeName
      · rw [if_pos isName, if_pos isName, List.reverse_cons, List.reverse_cons,
          inductionHypothesis]
        cases others : (attributesOf rest).reverse with
        | nil =>
            -- The attribute is the last one, so the value stands in its scope.
            have unnamed : attributesOf rest = [] := List.reverse_eq_nil_iff.mp others
            rw [beforeName_of_unnamed (attributesOf_concat_of_unnamed notName unnamed),
              lastValue?_concat, if_pos isValue]
            rfl
        | cons last before =>
            have named : attributesOf rest ≠ [] := by
              intro unnamed
              simp [unnamed] at others
            rw [beforeName_append_of_named named]
            rfl
      · rw [if_neg isName, if_neg isName]
        exact inductionHypothesis

theorem attributesOf_concat_of_other {token : Token} (notName : token.kind ≠ .attributeName)
    (notValue : token.kind ≠ .attributeValue) (tokens : List Token) :
    attributesOf (tokens ++ [token]) = attributesOf tokens := by
  induction tokens with
  | nil => simp [attributesOf, notName]
  | cons first rest inductionHypothesis =>
      have sameValue : lastValue? .attributeValue (beforeName (rest ++ [token])) =
          lastValue? .attributeValue (beforeName rest) := by
        by_cases unnamed : attributesOf rest = []
        · rw [beforeName_of_unnamed (attributesOf_concat_of_unnamed notName unnamed),
            beforeName_of_unnamed unnamed, lastValue?_concat, if_neg notValue]
        · rw [beforeName_append_of_named unnamed]
      rw [List.cons_append, attributesOf, attributesOf, sameValue, inductionHypothesis]

/-! ## Whole tags -/

/-- The token begins or ends a tag. -/
def Token.isTagLimit (token : Token) : Bool :=
  token.kind = .tagStart || token.kind = .tagEnd

/-- The tokens of a tag. -/
structure WholeTag where
  opening : Token
  inner : List Token
  ending : Token

namespace WholeTag

/-- The tag is an end tag. -/
def isEndTag (tag : WholeTag) : Bool :=
  tag.opening.value = "</"

/-- The name of the tag, which is empty if it has none. -/
def name (tag : WholeTag) : String :=
  (lastValue? .tagName tag.inner).getD ""

/-- Whether the tag is closed by `/>`. -/
def selfClosing (tag : WholeTag) : Bool :=
  tag.ending.value = "/>"

/-- The start tag of an element. -/
def startsElement (tag : WholeTag) : Bool :=
  !tag.isEndTag && tag.name ≠ ""

/-- What the tag says about its element: of attributes by one name it is the first that counts. -/
def head (tag : WholeTag) : Head :=
  { tag := tag.name
    attributes := firstOccurrences [] (attributesOf tag.inner)
    isVoid := isVoidTag tag.name
    selfClosing := tag.selfClosing }

end WholeTag

/-- The tags of a token list, in order. -/
def wholeTags : List Token → List WholeTag
  | [] => []
  | token :: rest =>
      let others := wholeTags rest
      if token.kind = .tagStart then
        match rest.dropWhile (!·.isTagLimit) with
        | [] => others
        | limit :: _ =>
            if limit.kind = .tagEnd then ⟨token, rest.takeWhile (!·.isTagLimit), limit⟩ :: others
            else others
      else others

theorem wholeTags_cons_of_ne {token : Token} (notStart : token.kind ≠ .tagStart)
    (rest : List Token) : wholeTags (token :: rest) = wholeTags rest := by
  rw [wholeTags, if_neg notStart]

/-- Tokens without a beginning are in no tag that begins after them. -/
theorem wholeTags_append {inner : List Token} (noLimit : ∀ token ∈ inner, token.isTagLimit = false)
    (rest : List Token) : wholeTags (inner ++ rest) = wholeTags rest := by
  induction inner with
  | nil => rfl
  | cons token others inductionHypothesis =>
      rw [List.forall_mem_cons] at noLimit
      have notStart : token.kind ≠ .tagStart := by
        intro isStart
        simp [Token.isTagLimit, isStart] at noLimit
      rw [List.cons_append, wholeTags_cons_of_ne notStart, inductionHypothesis noLimit.2]

theorem takeWhile_append_limit {inner : List Token}
    (noLimit : ∀ token ∈ inner, token.isTagLimit = false) {limit : Token}
    (isLimit : limit.isTagLimit = true) (rest : List Token) :
    (inner ++ limit :: rest).takeWhile (!·.isTagLimit) = inner ∧
      (inner ++ limit :: rest).dropWhile (!·.isTagLimit) = limit :: rest := by
  have all : ∀ token ∈ inner, (!token.isTagLimit) = true := by simpa using noLimit
  constructor
  · rw [List.takeWhile_append_of_pos all, List.takeWhile_cons_of_neg (by simp [isLimit]),
      List.append_nil]
  · rw [List.dropWhile_append_of_pos all, List.dropWhile_cons_of_neg (by simp [isLimit])]

theorem wholeTags_of_closed {opening ending : Token} {inner : List Token}
    (isStart : opening.kind = .tagStart) (noLimit : ∀ token ∈ inner, token.isTagLimit = false)
    (isEnd : ending.kind = .tagEnd) (rest : List Token) :
    wholeTags (opening :: (inner ++ ending :: rest)) =
      ⟨opening, inner, ending⟩ :: wholeTags rest := by
  have isLimit : ending.isTagLimit = true := by simp [Token.isTagLimit, isEnd]
  obtain ⟨taken, dropped⟩ := takeWhile_append_limit noLimit isLimit rest
  rw [wholeTags, if_pos isStart, taken, dropped, wholeTags_append noLimit,
    wholeTags_cons_of_ne (by simp [isEnd])]
  exact if_pos isEnd

theorem wholeTags_of_reopened {opening next : Token} {inner : List Token}
    (noLimit : ∀ token ∈ inner, token.isTagLimit = false) (nextStarts : next.kind = .tagStart)
    (rest : List Token) :
    wholeTags (opening :: (inner ++ next :: rest)) = wholeTags (next :: rest) := by
  have isLimit : next.isTagLimit = true := by simp [Token.isTagLimit, nextStarts]
  have others : wholeTags (inner ++ next :: rest) = wholeTags (next :: rest) :=
    wholeTags_append noLimit _
  by_cases isStart : opening.kind = .tagStart
  · rw [wholeTags, if_pos isStart, (takeWhile_append_limit noLimit isLimit rest).2, others]
    exact if_neg (by simp [nextStarts])
  · rw [wholeTags_cons_of_ne isStart, others]

theorem wholeTags_of_unclosed {opening : Token} {inner : List Token}
    (noLimit : ∀ token ∈ inner, token.isTagLimit = false) : wholeTags (opening :: inner) = [] := by
  have others : wholeTags inner = [] := by
    simpa [wholeTags] using wholeTags_append noLimit []
  have noneLeft : inner.dropWhile (!·.isTagLimit) = [] := by
    simpa [List.dropWhile_eq_nil_iff] using noLimit
  by_cases isStart : opening.kind = .tagStart
  · rw [wholeTags, if_pos isStart, noneLeft, others]
  · rw [wholeTags_cons_of_ne isStart, others]

/-! ## A tag under way -/

/-- The tag whose first tokens these are. -/
def pendingOf : List Token → Option PendingTag
  | [] => none
  | opening :: inner =>
      some
        { isEndTag := opening.value = "</"
          position := opening.position
          name := (lastValue? .tagName inner).getD ""
          attributes := (attributesOf inner).reverse }

/-- The tag as it is pending until its last token. -/
def WholeTag.pending (tag : WholeTag) : PendingTag :=
  { isEndTag := tag.isEndTag
    position := tag.opening.position
    name := tag.name
    attributes := (attributesOf tag.inner).reverse }

/-- The tokens are the first ones of a tag whose end is still to come, or there are none. -/
inductive IsHeld : List Token → Prop
  | nothing : IsHeld []
  | tag {opening : Token} {inner : List Token} (isStart : opening.kind = .tagStart)
      (noLimit : ∀ token ∈ inner, token.isTagLimit = false) : IsHeld (opening :: inner)

/-- What is held after a token that neither begins nor ends a tag: outside of tags it is not
kept. -/
def hold (token : Token) : List Token → List Token
  | [] => []
  | opening :: inner => opening :: (inner ++ [token])

variable {held : List Token} {token : Token}

theorem IsHeld.hold (isHeld : IsHeld held) (notLimit : token.isTagLimit = false) :
    IsHeld (hold token held) := by
  cases isHeld with
  | nothing => exact .nothing
  | tag isStart noLimit =>
      refine .tag isStart ?_
      intro other member
      rcases List.mem_append.mp member with isEarlier | isLast
      · exact noLimit other isEarlier
      · rw [List.mem_singleton.mp isLast, notLimit]

theorem wholeTags_hold (held : List Token) (notLimit : token.isTagLimit = false)
    (rest : List Token) :
    wholeTags (hold token held ++ rest) = wholeTags (held ++ token :: rest) := by
  cases held with
  | nil =>
      have noLimit : ∀ other ∈ [token], other.isTagLimit = false := by simpa using notLimit
      exact (wholeTags_append noLimit rest).symm
  | cons opening inner => simp [hold]

theorem wholeTags_of_tagStart (isHeld : IsHeld held) (isStart : token.kind = .tagStart)
    (rest : List Token) : wholeTags (held ++ token :: rest) = wholeTags ([token] ++ rest) := by
  cases isHeld with
  | nothing => rfl
  | tag _ noLimit => exact wholeTags_of_reopened noLimit isStart rest

theorem pendingOf_hold_of_tagName (isName : token.kind = .tagName) :
    pendingOf (hold token held) = (pendingOf held).map ({ · with name := token.value }) := by
  cases held with
  | nil => rfl
  | cons opening inner =>
      have attributes : attributesOf (inner ++ [token]) = attributesOf inner :=
        attributesOf_concat_of_other (by simp [isName]) (by simp [isName]) inner
      simp [hold, pendingOf, lastValue?_concat, isName, attributes]

theorem pendingOf_hold_of_attributeName (isName : token.kind = .attributeName) :
    pendingOf (hold token held) =
      (pendingOf held).map fun tag =>
        { tag with attributes := { name := token.value } :: tag.attributes } := by
  cases held with
  | nil => rfl
  | cons opening inner =>
      simp [hold, pendingOf, lastValue?_concat, isName, attributesOf_concat_of_name isName]

theorem pendingOf_hold_of_attributeValue (isValue : token.kind = .attributeValue) :
    pendingOf (hold token held) = (pendingOf held).map (·.setValue token.value) := by
  cases held with
  | nil => rfl
  | cons opening inner =>
      have attributes := attributesOf_concat_of_value isValue inner
      simp only [hold, pendingOf, lastValue?_concat, isValue, Option.map_some, attributes,
        PendingTag.setValue]
      cases (attributesOf inner).reverse <;> rfl

theorem pendingOf_hold_of_other (notTagName : token.kind ≠ .tagName)
    (notName : token.kind ≠ .attributeName) (notValue : token.kind ≠ .attributeValue) :
    pendingOf (hold token held) = pendingOf held := by
  cases held with
  | nil => rfl
  | cons opening inner =>
      simp [hold, pendingOf, lastValue?_concat, notTagName,
        attributesOf_concat_of_other notName notValue]

end JsxFragment
