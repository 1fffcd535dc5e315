import JsxFragment.Proofs.Jsx.Spelling
import JsxFragment.Proofs.Jsx.WrittenTags

/-!
# Attribute names in the output

The attributes of an element differ by their names in lower case, but most are written by a spelling
of their own. Two of them are written alike just if one is named by the spelling of the other one,
and of attributes that are written alike JSX takes the last one.
-/

namespace JsxFragment.Jsx

open Text

/-! ## Names that are written -/

theorem name_normalAttribute? {given : Attribute} {normal : ChildAttribute}
    (form : normalAttribute? given = some normal) :
    normal.name = attributeName given.name ∨
      (lower given.name = "style" ∧ normal.name = "style") := by
  unfold normalAttribute? at form
  dsimp only at form
  split at form
  · exact absurd form (by simp)
  split at form
  · cases form
    exact Or.inl rfl
  · cases form
    exact Or.inl rfl
  · next value style _ isStyle =>
      have named : lower given.name = "style" := by
        by_contra other
        simp [style?, other] at isStyle
      right
      split at form <;> cases form <;> exact ⟨named, rfl⟩

theorem exists_normalAttribute? {given : Attribute}
    (isName : isAttributeName (attributeName given.name) = true) :
    ∃ normal, normalAttribute? given = some normal := by
  unfold normalAttribute?
  simp only [isName, Bool.not_true, Bool.false_eq_true, if_false]
  split
  · exact ⟨_, rfl⟩
  · exact ⟨_, rfl⟩
  · split <;> exact ⟨_, rfl⟩

/-- The name that is written is found in the table, or in lower case it is the name that was
given. -/
theorem written_cases {given : Attribute} {normal : ChildAttribute}
    (form : normalAttribute? given = some normal) :
    (lower given.name, normal.name) ∈ attributeNames ∨
      lower normal.name = lower given.name ∧
        (normal.name = given.name ∨ normal.name = "style") := by
  rcases name_normalAttribute? form with name | ⟨isStyle, name⟩
  · by_cases known : ∃ spelling, (lower given.name, spelling) ∈ attributeNames
    · obtain ⟨spelling, listed⟩ := known
      rw [attributeName_of_mem listed] at name
      exact Or.inl (name ▸ listed)
    · rw [attributeName_of_not_mem (not_exists.mp known)] at name
      exact Or.inr ⟨congrArg lower name, Or.inl name⟩
  · refine Or.inr ⟨?_, Or.inr name⟩
    rw [name, isStyle]
    decide

/-- An attribute whose name is a spelling of the table, and one whose name has that spelling, are
both written by it. -/
theorem written_of_spelling {given other : Attribute}
    (listed : (lower given.name, other.name) ∈ attributeNames) :
    ∃ first second, normalAttribute? given = some first ∧ normalAttribute? other = some second ∧
      first.name = other.name ∧ second.name = other.name := by
  have isName := isAttributeName_spelling listed
  have spelled := attributeName_of_mem listed
  have kept := attributeName_spelling listed
  obtain ⟨first, formFirst⟩ : ∃ first, normalAttribute? given = some first := by
    apply exists_normalAttribute?
    rw [spelled]
    exact isName
  obtain ⟨second, formSecond⟩ : ∃ second, normalAttribute? other = some second := by
    apply exists_normalAttribute?
    rw [kept]
    exact isName
  refine ⟨first, second, formFirst, formSecond, ?_, ?_⟩
  · rcases name_normalAttribute? formFirst with name | ⟨isStyle, _⟩
    · rw [name, spelled]
    · exact absurd isStyle (ne_style_of_mem listed).1
  · rcases name_normalAttribute? formSecond with name | ⟨isStyle, _⟩
    · rw [name, kept]
    · exact absurd isStyle (ne_style_of_mem listed).2

/-- Two attributes that HTML tells apart are written alike only if one is named by the spelling of
the other one. -/
theorem listed_of_written_alike {given other : Attribute} {first second : ChildAttribute}
    (formFirst : normalAttribute? given = some first)
    (formSecond : normalAttribute? other = some second) (alike : first.name = second.name)
    (different : lower given.name ≠ lower other.name) :
    (lower given.name, other.name) ∈ attributeNames ∨
      (lower other.name, given.name) ∈ attributeNames := by
  have notStyle {key spelling : String} (listed : (key, spelling) ∈ attributeNames) :
      spelling ≠ "style" := by
    intro isStyle
    apply (ne_style_of_mem listed).2
    rw [isStyle]
    decide
  rcases written_cases formFirst with listedFirst | ⟨lowerFirst, nameFirst⟩
  · rcases written_cases formSecond with listedSecond | ⟨_, nameSecond⟩
    · rw [alike] at listedFirst
      exact absurd (key_eq_of_spelling listedFirst listedSecond) different
    · rw [alike] at listedFirst
      rcases nameSecond with name | isStyle
      · exact Or.inl (name ▸ listedFirst)
      · exact absurd isStyle (notStyle listedFirst)
  · rcases written_cases formSecond with listedSecond | ⟨lowerSecond, _⟩
    · rw [← alike] at listedSecond
      rcases nameFirst with name | isStyle
      · exact Or.inr (name ▸ listedSecond)
      · exact absurd isStyle (notStyle listedSecond)
    · exact absurd (by rw [← lowerFirst, ← lowerSecond, alike]) different

/-! ## The attributes of an element -/

/-- No attribute is named by the spelling of another one. -/
def KeepsApart (attributes : List Attribute) : Prop :=
  ∀ given ∈ attributes, ∀ other ∈ attributes,
    (lower given.name, other.name) ∈ attributeNames → lower given.name = lower other.name

theorem nodup_written_iff {attributes : List Attribute}
    (distinct : (attributes.map fun given => lower given.name).Nodup) :
    ((attributes.filterMap normalAttribute?).map (·.name)).Nodup ↔ KeepsApart attributes := by
  rw [List.Nodup, List.pairwise_map] at distinct
  rw [List.Nodup, List.pairwise_map, List.pairwise_filterMap]
  constructor
  · intro apart given givenMember other otherMember listed
    by_contra different
    obtain ⟨first, second, formFirst, formSecond, nameFirst, nameSecond⟩ :=
      written_of_spelling listed
    -- The order of the two is not known, so what holds of every pair must be symmetric.
    let Apart := fun given other => ∀ first, normalAttribute? given = some first →
      ∀ second, normalAttribute? other = some second → first.name ≠ second.name
    have symmetric : Std.Symm Apart :=
      ⟨fun _ _ apart _ formFirst _ formSecond => (apart _ formSecond _ formFirst).symm⟩
    have isApart : Apart given other :=
      List.Pairwise.forall apart givenMember otherMember (by rintro rfl; exact different rfl)
    exact isApart first formFirst second formSecond (nameFirst.trans nameSecond.symm)
  · intro apart
    refine distinct.imp_of_mem ?_
    intro given other givenMember otherMember different first formFirst second formSecond alike
    rcases listed_of_written_alike formFirst formSecond alike different with listed | listed
    · exact different (apart given givenMember other otherMember listed)
    · exact different (apart other otherMember given givenMember listed).symm

/-- The attribute that a name stands for: of several attributes by it, JSX takes the last one. -/
def lastNamed? (name : String) (attributes : List ChildAttribute) : Option ChildAttribute :=
  attributes.reverse.find? fun given => given.name = name

theorem lastNamed?_of_nodup {attributes : List ChildAttribute} {given : ChildAttribute}
    (distinct : (attributes.map (·.name)).Nodup) (member : given ∈ attributes) :
    lastNamed? given.name attributes = some given := by
  unfold lastNamed?
  cases found : attributes.reverse.find? fun other => other.name = given.name with
  | none =>
      have unnamed := List.find?_eq_none.mp found given (List.mem_reverse.mpr member)
      exact absurd unnamed (by simp)
  | some other =>
      have same : other.name = given.name := by simpa using List.find?_some found
      have otherMember := List.mem_reverse.mp (List.mem_of_find?_eq_some found)
      rw [List.inj_on_of_nodup_map distinct otherMember member same]

/-- JSX sees the first of the attributes that are spelled with one name, if it can express it. -/
def FirstWins (spelled : List Attribute) (written : List ChildAttribute) : Prop :=
  ∀ before given after, spelled = before ++ given :: after →
    (∀ other ∈ before, lower other.name ≠ lower given.name) →
      ∀ normal, normalAttribute? given = some normal →
        lastNamed? normal.name written = some normal

theorem firstWins_of_keepsApart {spelled : List Attribute}
    (apart : KeepsApart (Nesting.State.splitRepeated spelled).1) :
    FirstWins spelled ((Nesting.State.splitRepeated spelled).1.filterMap normalAttribute?) := by
  have distinct := (nodup_written_iff (Nesting.State.nodup_splitRepeated_fst spelled)).mpr apart
  intro before given after split isFirst normal form
  apply lastNamed?_of_nodup distinct
  refine List.mem_filterMap.mpr ⟨given, ?_, form⟩
  rw [split]
  exact Nesting.State.mem_splitRepeated_fst isFirst

/-! ## The tag of an element -/

/-- The node is written as an element whose first tag has these attributes. -/
def OpensWith (keepComments preformatted : Bool) (unit tag : String)
    (written : List ChildAttribute) (node : Node) : Prop :=
  ∃ block following isClosed rest,
    sibling? keepComments preformatted node = some (.block block) ∧
      (indent unit (lines [block])).toList = '<' :: (tag.toList ++ following) ∧
      scanHead? following = some ((written, isClosed), rest)

theorem opensWith_of_written {keepComments preformatted : Bool} {unit tag : String}
    {attributes : List Attribute} {node : Node} {block : Block} {isClosed : Bool}
    {rest : List Char} (laidOut : sibling? keepComments preformatted node = some (.block block))
    (written : block.written unit 0 =
      '<' :: (tag.toList ++ ((writeAttributes attributes).toList ++ (tagEnd isClosed ++ rest)))) :
    OpensWith keepComments preformatted unit tag (attributes.filterMap normalAttribute?) node := by
  refine ⟨block, _, isClosed, rest, laidOut, ?_, scanHead?_writeAttributes attributes _ _⟩
  rw [indent_lines_singleton, written]

theorem opensWith_element (keepComments preformatted : Bool) (unit : String) (head : Head)
    (children : List Node) :
    OpensWith keepComments preformatted unit (tagName head.tag)
      (head.attributes.filterMap normalAttribute?) (.element head children) := by
  have empty : (Block.line (emptyElement (tagName head.tag)
      (writeAttributes head.attributes))).written unit 0 =
        '<' :: ((tagName head.tag).toList ++ ((writeAttributes head.attributes).toList ++
          (tagEnd true ++ []))) := by
    simp [Block.written, emptyElement, tagEnd]
  have single (content : String) : (Block.line (openingLine (tagName head.tag)
      (writeAttributes head.attributes) ++ content ++ closingLine (tagName head.tag))).written
        unit 0 =
        '<' :: ((tagName head.tag).toList ++ ((writeAttributes head.attributes).toList ++
          (tagEnd false ++ (content ++ closingLine (tagName head.tag)).toList))) := by
    simp [Block.written, openingLine, tagEnd]
  have nest (content : List Block) : ∃ rest, (Block.nest (tagName head.tag)
      (writeAttributes head.attributes) content).written unit 0 =
        '<' :: ((tagName head.tag).toList ++ ((writeAttributes head.attributes).toList ++
          (tagEnd false ++ rest))) := by
    refine ⟨Block.allWritten unit 1 content ++ lineBreak unit 0 ++
      (closingLine (tagName head.tag)).toList, ?_⟩
    simp [Block.written, openingLine, tagEnd]
  by_cases isVoid : head.isVoid = true
  · refine opensWith_of_written ?_ empty
    simp [sibling?, isVoid]
  by_cases isRaw : (RawElement.ofTag? head.tag).isSome = true
  · have laidOut : sibling? keepComments preformatted (.element head children) =
        some (.block (rawBlock (tagName head.tag) (writeAttributes head.attributes)
          (Node.textContent children))) := by
      simp [sibling?, isVoid, isRaw]
    unfold rawBlock at laidOut
    split at laidOut
    · exact opensWith_of_written laidOut empty
    · exact opensWith_of_written laidOut (single _)
  · obtain ⟨content, laidOut⟩ : ∃ content,
        sibling? keepComments preformatted (.element head children) =
          some (.block (elementBlock (tagName head.tag) (writeAttributes head.attributes)
            content)) := by
      simp only [sibling?, isVoid, isRaw, if_false, Bool.false_eq_true]
      exact ⟨_, rfl⟩
    unfold elementBlock at laidOut
    split at laidOut
    · exact opensWith_of_written laidOut empty
    · exact opensWith_of_written laidOut (single _)
    · obtain ⟨rest, written⟩ := nest _
      exact opensWith_of_written laidOut written

end JsxFragment.Jsx

namespace JsxFragment

open Jsx Text

/-! ## The elements of a text -/

/-- An element has the attributes that a start tag among the phrases leaves it. -/
def Node.StemsFrom (phrases : List Phrase) : Node → Prop
  | .element head _ => ∃ spelled selfClosing, .startTag head.tag spelled selfClosing ∈ phrases ∧
      head.attributes = (Nesting.State.splitRepeated spelled).1
  | _ => True

theorem stemsFrom_of_read {limits : Limits} {html : String} {reading : Reading}
    (succeeds : read limits html = .ok reading) :
    ∃ phrases, reading.tokens.map Token.lexeme = phrases.flatMap Phrase.lexemes ∧
      ∀ node ∈ Node.preorder reading.nodes, node.StemsFrom phrases := by
  obtain ⟨constructs, final, _, _, lexemes, takes, nodes, _⟩ := takes_of_read succeeds
  refine ⟨constructs.flatMap Construct.phrases, lexemes, ?_⟩
  rw [nodes]
  refine Nesting.State.forall_mem_preorder_of_takes takes (fun _ => trivial) (fun _ => trivial) ?_
  intro phrase member
  cases phrase with
  | startTag name attributes selfClosing =>
      exact fun _ _ => ⟨attributes, selfClosing, member, rfl⟩
  | _ => trivial

/-- Every element is written with attributes that have different names, if and only if none of its
attributes is named by the JSX spelling of another one. Then of those by one name in HTML the first
one is what JSX sees. -/
theorem written_of_read {limits : Limits} {html : String} {reading : Reading}
    (succeeds : read limits html = .ok reading) (keepComments preformatted : Bool)
    (unit : String) :
    ∃ phrases : List Phrase,
      reading.tokens.map Token.lexeme = phrases.flatMap Phrase.lexemes ∧
      ∀ head children, .element head children ∈ Node.preorder reading.nodes →
        ∃ spelled selfClosing written,
          .startTag head.tag spelled selfClosing ∈ phrases ∧
          head.attributes = (Nesting.State.splitRepeated spelled).1 ∧
          OpensWith keepComments preformatted unit (tagName head.tag) written
            (.element head children) ∧
          ((written.map (·.name)).Nodup ↔ KeepsApart head.attributes) ∧
          (KeepsApart head.attributes → FirstWins spelled written) := by
  obtain ⟨phrases, lexemes, stems⟩ := stemsFrom_of_read succeeds
  refine ⟨phrases, lexemes, fun head children member => ?_⟩
  obtain ⟨spelled, selfClosing, inPhrases, kept⟩ := stems _ member
  refine ⟨spelled, selfClosing, head.attributes.filterMap normalAttribute?, inPhrases, kept,
    opensWith_element keepComments preformatted unit head children, ?_, ?_⟩
  · apply nodup_written_iff
    rw [kept]
    exact Nesting.State.nodup_splitRepeated_fst spelled
  · rw [kept]
    exact firstWins_of_keepsApart

theorem written_of_read_of_repeated_class :
    ∃ reading children written, read {} "<a CLASS=x class=y>" = .ok reading ∧
      .element { tag := "a", attributes := [⟨"CLASS", some "x"⟩] } children ∈
        Node.preorder reading.nodes ∧
      OpensWith true false "  " "a" written
        (.element { tag := "a", attributes := [⟨"CLASS", some "x"⟩] } children) ∧
      (written.map (·.name)).Nodup := by
  have output : htmlToJsx {} "<a CLASS=x class=y>" = .ok "<a className=\"x\" />" := by
    decide +kernel
  obtain ⟨reading, _, isRead, _⟩ := output_of_htmlToJsx output
  have isWritten : (read {} "<a CLASS=x class=y>").toOption.any (fun reading =>
      { tag := "a", attributes := [⟨"CLASS", some "x"⟩] } ∈ allWrittenHeads reading.nodes) =
        true := by
    decide +kernel
  rw [isRead] at isWritten
  obtain ⟨children, member⟩ :=
    exists_element_of_mem_allWrittenHeads (of_decide_eq_true isWritten)
  obtain ⟨_, _, each⟩ := written_of_read isRead true false "  "
  obtain ⟨_, _, written, _, _, opens, distinct, _⟩ := each _ _ member
  have apart : KeepsApart [⟨"CLASS", some "x"⟩] := by simp [KeepsApart]
  exact ⟨reading, children, written, isRead, member, opens, distinct.mpr apart⟩

/-- The spelling of a name beside the name itself is written too, and wins. -/
theorem not_nodup_written_of_class_and_className :
    htmlToJsx {} "<a class=x className=y>" = .ok "<a className=\"x\" className=\"y\" />" ∧
      ∃ reading head children written,
        read {} "<a class=x className=y>" = .ok reading ∧
        .element head children ∈ Node.preorder reading.nodes ∧
        OpensWith true false "  " "a" written (.element head children) ∧
        ¬(written.map (·.name)).Nodup ∧
        lastNamed? "className" written = some { name := "className", value := .quoted "y" } := by
  have output : htmlToJsx {} "<a class=x className=y>" =
      .ok "<a className=\"x\" className=\"y\" />" := by
    decide +kernel
  obtain ⟨reading, _, isRead, _⟩ := output_of_htmlToJsx output
  have isWritten : (read {} "<a class=x className=y>").toOption.any (fun reading =>
      { tag := "a", attributes := [⟨"class", some "x"⟩, ⟨"className", some "y"⟩] } ∈
        allWrittenHeads reading.nodes) = true := by
    decide +kernel
  rw [isRead] at isWritten
  obtain ⟨children, member⟩ :=
    exists_element_of_mem_allWrittenHeads (of_decide_eq_true isWritten)
  have written : [⟨"class", some "x"⟩, ⟨"className", some "y"⟩].filterMap normalAttribute? =
      [⟨"className", .quoted "x"⟩, ⟨"className", .quoted "y"⟩] := by
    decide +kernel
  refine ⟨output, reading, _, children, _, isRead, member,
    opensWith_element true false "  " _ children, ?_, ?_⟩
  · rw [written]
    decide
  · rw [written]
    rfl

end JsxFragment
