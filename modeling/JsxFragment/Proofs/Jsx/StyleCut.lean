import JsxFragment.Jsx.Style
import Mathlib.Data.List.Basic

/-!
# Cutting styles

A style is cut at every semicolon outside quotes and parentheses, and at no other. The pieces joined
again are the style. Conversely, pieces that are not cut any further, and that all but the last close
what they open, are the pieces of their join.
-/

namespace JsxFragment.Jsx.Style

/-! ## What encloses a character -/

/-- What encloses a character of a style: the quotes that it stands in, if any, and the number of
parentheses around it. -/
structure Enclosure where
  quote : Option Char := none
  depth : Nat := 0
  deriving DecidableEq, Repr

namespace Enclosure

/-- What encloses the character after this one. Parentheses in quotes do not count, and neither does
one that closes nothing. -/
def step (enclosure : Enclosure) (c : Char) : Enclosure :=
  match enclosure.quote with
  | some quote => if c = quote then { enclosure with quote := none } else enclosure
  | none =>
    if c = '\'' || c = '"' then { enclosure with quote := some c }
    else if c = '(' then { enclosure with depth := enclosure.depth + 1 }
    else if c = ')' then { enclosure with depth := enclosure.depth - 1 }
    else enclosure

/-- What encloses the character after a text. -/
def after (enclosure : Enclosure) (text : List Char) : Enclosure :=
  text.foldl step enclosure

theorem after_cons (enclosure : Enclosure) (c : Char) (text : List Char) :
    enclosure.after (c :: text) = (enclosure.step c).after text :=
  rfl

/-- Whether a character is a separator, given what encloses it. -/
def separates (enclosure : Enclosure) (c : Char) : Bool :=
  c = ';' && enclosure = {}

theorem eq_of_separates {enclosure : Enclosure} {c : Char}
    (separator : enclosure.separates c = true) : c = ';' ∧ enclosure = {} := by
  simpa [separates] using separator

end Enclosure

/-- Whether all quotes and parentheses that a text opens are closed at its end. -/
def endsOutside (text : String) : Bool :=
  Enclosure.after {} text.toList = {}

/-! ## Pieces -/

/-- The pieces of a text, given what encloses its first character. -/
def piecesFrom (enclosure : Enclosure) : List Char → List (List Char)
  | [] => [[]]
  | c :: rest =>
    if enclosure.separates c then [] :: piecesFrom {} rest
    else (piecesFrom (enclosure.step c) rest).modifyHead (c :: ·)

theorem modifyHead_nil_append (pieces : List (List Char)) :
    pieces.modifyHead ([] ++ ·) = pieces := by
  cases pieces <;> rfl

section Cut

variable (cut : Cut)

/-- What encloses the next character. -/
def Cut.enclosure : Enclosure :=
  { quote := cut.quote, depth := cut.depth }

theorem Cut.step_of_separates {c : Char} (separator : cut.enclosure.separates c = true) :
    cut.step c = { cut with pieces := cut.current.reverse :: cut.pieces, current := [] } := by
  obtain ⟨rfl, outside⟩ := Enclosure.eq_of_separates separator
  obtain ⟨pieces, current, quote, depth⟩ := cut
  cases outside
  rfl

theorem Cut.step_of_not_separates {c : Char} (kept : cut.enclosure.separates c = false) :
    cut.step c =
      { pieces := cut.pieces
        current := c :: cut.current
        quote := (cut.enclosure.step c).quote
        depth := (cut.enclosure.step c).depth } := by
  obtain ⟨pieces, current, quote, depth⟩ := cut
  cases quote with
  | some quote =>
      simp only [Cut.step, Cut.enclosure, Enclosure.step]
      split
      · rfl
      · rfl
  | none =>
      simp only [Enclosure.separates, Cut.enclosure, Bool.and_eq_false_iff, decide_eq_false_iff_not,
        Enclosure.mk.injEq, true_and] at kept
      simp only [Cut.step, Cut.enclosure, Enclosure.step]
      grind

theorem Cut.pieces_foldl (text : List Char) :
    ((text.foldl Cut.step cut).current.reverse :: (text.foldl Cut.step cut).pieces).reverse =
      cut.pieces.reverse
        ++ (piecesFrom cut.enclosure text).modifyHead (cut.current.reverse ++ ·) := by
  induction text generalizing cut with
  | nil => simp [piecesFrom]
  | cons c text inductionHypothesis =>
      rw [List.foldl_cons, inductionHypothesis, piecesFrom]
      split
      · next separator =>
          have outside := (Enclosure.eq_of_separates separator).2
          rw [Cut.step_of_separates cut separator]
          change _ ++ (piecesFrom cut.enclosure text).modifyHead ([] ++ ·) = _
          simp only [outside, modifyHead_nil_append, List.reverse_cons, List.append_assoc,
            List.singleton_append, List.modifyHead_cons, List.append_nil]
      · next kept =>
          rw [Cut.step_of_not_separates cut (by simpa using kept), List.modifyHead_modifyHead]
          simp [Cut.enclosure, Function.comp_def]

end Cut

theorem split_eq_piecesFrom (text : List Char) : split text = piecesFrom {} text := by
  have pieces := Cut.pieces_foldl {} text
  rw [List.reverse_nil, List.nil_append, List.reverse_nil, modifyHead_nil_append] at pieces
  exact pieces

section Enclosed

variable (enclosure : Enclosure)

theorem piecesFrom_ne_nil (text : List Char) : piecesFrom enclosure text ≠ [] := by
  induction text generalizing enclosure with
  | nil => simp [piecesFrom]
  | cons c text inductionHypothesis =>
      rw [piecesFrom]
      split
      · simp
      · simpa using inductionHypothesis (enclosure.step c)

theorem exists_piecesFrom_eq (text : List Char) :
    ∃ first others, piecesFrom enclosure text = first :: others :=
  List.exists_cons_of_ne_nil (piecesFrom_ne_nil enclosure text)

/-- A text is cut where it would be cut without what follows, and what follows is cut where it would
be behind the text; between the two there is no cut. -/
theorem exists_piecesFrom_append (before : List Char) :
    ∃ earlier last, piecesFrom enclosure before = earlier ++ [last] ∧
      ∀ rest, piecesFrom enclosure (before ++ rest) =
        earlier ++ (piecesFrom (enclosure.after before) rest).modifyHead (last ++ ·) := by
  induction before generalizing enclosure with
  | nil => exact ⟨[], [], rfl, fun rest => (modifyHead_nil_append _).symm⟩
  | cons c before inductionHypothesis =>
      cases separator : enclosure.separates c with
      | true =>
          have outside := Enclosure.eq_of_separates separator
          obtain ⟨earlier, last, alone, followed⟩ := inductionHypothesis {}
          refine ⟨[] :: earlier, last, by simp [piecesFrom, separator, alone], fun rest => ?_⟩
          have sameAfter : enclosure.after (c :: before) = Enclosure.after {} before := by
            rw [outside.1, outside.2]
            rfl
          rw [List.cons_append, piecesFrom, if_pos separator, followed, sameAfter, List.cons_append]
      | false =>
          have kept : ¬enclosure.separates c = true := by simp [separator]
          obtain ⟨earlier, last, alone, followed⟩ := inductionHypothesis (enclosure.step c)
          cases earlier with
          | nil =>
              refine ⟨[], c :: last, by simp [piecesFrom, separator, alone], fun rest => ?_⟩
              rw [List.cons_append, piecesFrom, if_neg kept, followed, Enclosure.after_cons,
                List.nil_append, List.nil_append, List.modifyHead_modifyHead]
              rfl
          | cons first earlier =>
              refine ⟨(c :: first) :: earlier, last, by simp [piecesFrom, separator, alone],
                fun rest => ?_⟩
              rw [List.cons_append, piecesFrom, if_neg kept, followed, Enclosure.after_cons]
              rfl

/-- A semicolon outside quotes and parentheses parts the pieces before it from those after it. -/
theorem piecesFrom_append_semicolon {before : List Char} (closed : enclosure.after before = {})
    (rest : List Char) :
    piecesFrom enclosure (before ++ ';' :: rest) =
      piecesFrom enclosure before ++ piecesFrom {} rest := by
  obtain ⟨earlier, last, alone, followed⟩ := exists_piecesFrom_append enclosure before
  have separator : Enclosure.separates {} ';' = true := rfl
  rw [followed, closed, piecesFrom, if_pos separator, List.modifyHead_cons, List.append_nil, alone,
    List.append_assoc, List.singleton_append]

/-- Any other semicolon stays within a piece, and the pieces before that one stay as they are. -/
theorem exists_piecesFrom_append_semicolon {before : List Char}
    (enclosed : enclosure.after before ≠ {}) (rest : List Char) :
    ∃ earlier last first later, piecesFrom enclosure before = earlier ++ [last] ∧
      piecesFrom enclosure (before ++ ';' :: rest) =
        earlier ++ (last ++ ';' :: first) :: later := by
  obtain ⟨earlier, last, alone, followed⟩ := exists_piecesFrom_append enclosure before
  obtain ⟨first, later, behind⟩ := exists_piecesFrom_eq ((enclosure.after before).step ';') rest
  have kept : ¬(enclosure.after before).separates ';' = true := by
    simpa [Enclosure.separates] using enclosed
  refine ⟨earlier, last, first, later, alone, ?_⟩
  rw [followed, piecesFrom, if_neg kept, behind]
  rfl

/-! ## Joining -/

theorem intercalate_modifyHead_cons (c : Char) {pieces : List (List Char)} (some : pieces ≠ []) :
    [';'].intercalate (pieces.modifyHead (c :: ·)) = c :: [';'].intercalate pieces := by
  match pieces with
  | [piece] => rfl
  | piece :: next :: rest => rfl

theorem intercalate_piecesFrom (text : List Char) :
    [';'].intercalate (piecesFrom enclosure text) = text := by
  induction text generalizing enclosure with
  | nil => rfl
  | cons c text inductionHypothesis =>
      rw [piecesFrom]
      split
      · next separator =>
          obtain ⟨first, others, pieces⟩ := exists_piecesFrom_eq {} text
          have joined := inductionHypothesis {}
          rw [pieces] at joined ⊢
          rw [List.intercalate_cons_cons, joined, (Enclosure.eq_of_separates separator).1]
          rfl
      · rw [intercalate_modifyHead_cons c (piecesFrom_ne_nil _ text), inductionHypothesis]

end Enclosed

/-- Pieces that are not cut any further, and that all but the last close what is open before their
first character and what they open. -/
def ArePieces (enclosure : Enclosure) : List (List Char) → Prop
  | [] => False
  | [last] => piecesFrom enclosure last = [last]
  | piece :: next :: rest =>
    piecesFrom enclosure piece = [piece] ∧ enclosure.after piece = {} ∧ ArePieces {} (next :: rest)

theorem ArePieces.modifyHead_cons {enclosure : Enclosure} {c : Char}
    (kept : ¬enclosure.separates c = true) {pieces : List (List Char)}
    (arePieces : ArePieces (enclosure.step c) pieces) :
    ArePieces enclosure (pieces.modifyHead (c :: ·)) := by
  have whole {piece : List Char} (uncut : piecesFrom (enclosure.step c) piece = [piece]) :
      piecesFrom enclosure (c :: piece) = [c :: piece] := by
    rw [piecesFrom, if_neg kept, uncut, List.modifyHead_cons]
  match pieces, arePieces with
  | [last], uncut => exact whole uncut
  | piece :: next :: rest, ⟨uncut, closed, others⟩ => exact ⟨whole uncut, closed, others⟩

theorem arePieces_piecesFrom (enclosure : Enclosure) (text : List Char) :
    ArePieces enclosure (piecesFrom enclosure text) := by
  induction text generalizing enclosure with
  | nil => rfl
  | cons c text inductionHypothesis =>
      rw [piecesFrom]
      split
      · next separator =>
          obtain ⟨first, others, pieces⟩ := exists_piecesFrom_eq {} text
          have behind := inductionHypothesis {}
          rw [pieces] at behind ⊢
          exact ⟨rfl, (Enclosure.eq_of_separates separator).2, behind⟩
      · next kept => exact (inductionHypothesis _).modifyHead_cons kept

theorem ArePieces.piecesFrom_intercalate {enclosure : Enclosure} {pieces : List (List Char)}
    (arePieces : ArePieces enclosure pieces) :
    piecesFrom enclosure ([';'].intercalate pieces) = pieces := by
  induction pieces generalizing enclosure with
  | nil => exact arePieces.elim
  | cons piece others inductionHypothesis =>
      cases others with
      | nil =>
          rw [List.intercalate_singleton]
          exact arePieces
      | cons next rest =>
          obtain ⟨uncut, closed, behind⟩ := arePieces
          rw [List.intercalate_cons_cons, List.append_assoc, List.singleton_append,
            piecesFrom_append_semicolon enclosure closed, uncut, inductionHypothesis behind]
          rfl

theorem arePieces_iff {pieces : List (List Char)} :
    ArePieces {} pieces ↔ pieces ≠ [] ∧ (∀ piece ∈ pieces, piecesFrom {} piece = [piece]) ∧
      ∀ piece ∈ pieces.dropLast, Enclosure.after {} piece = {} := by
  induction pieces with
  | nil => simp [ArePieces]
  | cons piece others inductionHypothesis =>
      cases others with
      | nil => simp [ArePieces]
      | cons next rest =>
          simp only [ArePieces, inductionHypothesis, List.dropLast_cons_cons, List.forall_mem_cons,
            ne_eq, reduceCtorEq, not_false_eq_true, true_and]
          tauto

/-! ## Strings -/

theorem splitDeclarations_eq_iff_split {style : String} {pieces : List String} :
    splitDeclarations style = pieces ↔ split style.toList = pieces.map String.toList := by
  constructor
  · rintro rfl
    simp [splitDeclarations, Function.comp_def]
  · intro same
    simp [splitDeclarations, same, Function.comp_def]

theorem splitDeclarations_append (before rest : String) :
    if endsOutside before then
      splitDeclarations (before ++ ";" ++ rest) = splitDeclarations before ++ splitDeclarations rest
    else
      ∃ earlier last first later, splitDeclarations before = earlier ++ [last] ∧
        splitDeclarations (before ++ ";" ++ rest) = earlier ++ (last ++ ";" ++ first) :: later := by
  have parted : (before ++ ";" ++ rest).toList = before.toList ++ ';' :: rest.toList := by simp
  split
  · next closed =>
      rw [endsOutside, decide_eq_true_eq] at closed
      simp only [splitDeclarations, split_eq_piecesFrom, parted,
        piecesFrom_append_semicolon {} closed, List.map_append]
  · next enclosed =>
      rw [endsOutside, decide_eq_true_eq] at enclosed
      obtain ⟨earlier, last, first, later, alone, followed⟩ :=
        exists_piecesFrom_append_semicolon {} enclosed rest.toList
      refine ⟨earlier.map String.ofList, String.ofList last, String.ofList first,
        later.map String.ofList, ?_, ?_⟩
      · simp [splitDeclarations, split_eq_piecesFrom, alone]
      · simp [splitDeclarations, split_eq_piecesFrom, followed, String.append_assoc]

/-- The pieces joined are the style. None of them is cut any further, and all but the last end outside
quotes and parentheses. -/
structure IsCutInto (style : String) (pieces : List String) : Prop where
  nonempty : pieces ≠ []
  joined : ";".intercalate pieces = style
  uncut : ∀ piece ∈ pieces, splitDeclarations piece = [piece]
  closed : ∀ piece ∈ pieces.dropLast, endsOutside piece = true

theorem isCutInto_iff {style : String} {pieces : List String} :
    IsCutInto style pieces ↔
      [';'].intercalate (pieces.map String.toList) = style.toList ∧
        ArePieces {} (pieces.map String.toList) := by
  have joined : ";".intercalate pieces = style ↔
      [';'].intercalate (pieces.map String.toList) = style.toList := by
    rw [← String.toList_inj, String.toList_intercalate]
    rfl
  rw [arePieces_iff, ← joined, ← List.map_dropLast, List.forall_mem_map, List.forall_mem_map]
  simp only [← split_eq_piecesFrom, ne_eq, List.map_eq_nil_iff]
  constructor
  · rintro ⟨nonempty, joined, uncut, closed⟩
    refine ⟨joined, nonempty, fun piece member => ?_, fun piece member => ?_⟩
    · simpa using splitDeclarations_eq_iff_split.mp (uncut piece member)
    · simpa [endsOutside] using closed piece member
  · rintro ⟨joined, nonempty, uncut, closed⟩
    refine ⟨nonempty, joined, fun piece member => ?_, fun piece member => ?_⟩
    · exact splitDeclarations_eq_iff_split.mpr (by simpa using uncut piece member)
    · simpa [endsOutside] using closed piece member

/-- The pieces of a style are the one list that joined is the style, with no piece that is cut any
further and none but the last that leaves quotes or parentheses open. A semicolon outside quotes and
parentheses parts the pieces before it from those after it; any other stays in its piece. -/
theorem splitDeclarations_eq_iff :
    (∀ style pieces, splitDeclarations style = pieces ↔ IsCutInto style pieces) ∧
      ∀ before rest,
        if endsOutside before then
          splitDeclarations (before ++ ";" ++ rest) =
            splitDeclarations before ++ splitDeclarations rest
        else
          ∃ earlier last first later, splitDeclarations before = earlier ++ [last] ∧
            splitDeclarations (before ++ ";" ++ rest) =
              earlier ++ (last ++ ";" ++ first) :: later := by
  refine ⟨fun style pieces => ?_, splitDeclarations_append⟩
  rw [splitDeclarations_eq_iff_split, isCutInto_iff, split_eq_piecesFrom]
  constructor
  · intro same
    rw [← same]
    exact ⟨intercalate_piecesFrom {} style.toList, arePieces_piecesFrom {} style.toList⟩
  · rintro ⟨joined, arePieces⟩
    rw [← joined]
    exact arePieces.piecesFrom_intercalate

/-- Within quotes a parenthesis opens nothing. -/
example : splitDeclarations "a: '(' ; b: (;) ; c" = ["a: '(' ", " b: (;) ", " c"] := by
  decide

end JsxFragment.Jsx.Style
