import JsxFragment.Proofs.Json.Literal
import JsxFragment.Proofs.Json.Part
import JsxFragment.Proofs.Json.WholeNumber

/-!
# Reading values back

The text of a value over several lines is read as the value, if the value holds no floating-point
number, if no object in it has two members of one name, and if its whole numbers are not too long.
-/

namespace JsxFragment.Json

open Text

/-! ## How values begin -/

/-- Whether a character is neither a gap nor the end of something nor a mark before the text. -/
def beginsValue (c : Char) : Bool :=
  !isGap c && c ≠ ']' && c ≠ '\x7d' && c ≠ '\uFEFF'

theorem beginsValue_digitChar : ∀ digit < 10, beginsValue (Nat.digitChar digit) = true := by
  decide

/-- A text that begins with a value or with a member. -/
def IsEntry (text : List Char) : Prop :=
  ∃ first rest, text = first :: rest ∧ beginsValue first = true

/-- How a value begins tells it from the end of what it stands in. -/
theorem isEntry_prettyAt (depth : Nat) {value : Json} (isExact : ∀ x, .real x ∉ value.parts) :
    IsEntry (prettyAt depth value) := by
  cases value with
  | null => exact ⟨_, _, rfl, rfl⟩
  | bool value => cases value <;> exact ⟨_, _, rfl, rfl⟩
  | whole n =>
      obtain ⟨digit, small, rest, digits⟩ := exists_cons_unsignedDigits n
      rw [prettyAt, toList_toString_int]
      split
      · exact ⟨_, _, rfl, rfl⟩
      · exact ⟨_, _, digits, beginsValue_digitChar digit small⟩
  | real x => exact absurd (List.mem_singleton.mpr rfl) (isExact x)
  | string value => exact ⟨_, _, rfl, rfl⟩
  | array items =>
      rw [prettyAt]
      split <;> exact ⟨_, _, rfl, rfl⟩
  | object members =>
      rw [prettyAt]
      split <;> exact ⟨_, _, rfl, rfl⟩

section
variable {text : List Char}

theorem IsEntry.append (entry : IsEntry text) (rest : List Char) : IsEntry (text ++ rest) := by
  obtain ⟨first, others, rfl, begins⟩ := entry
  exact ⟨first, others ++ rest, rfl, begins⟩

theorem IsEntry.separate (entry : IsEntry text) (depth : Nat) (others : List (List Char)) :
    IsEntry (separate depth (text :: others)) :=
  entry.append _

theorem skipGap_cons {first : Char} {rest : List Char} (solid : isGap first = false) :
    skipGap (first :: rest) = first :: rest := by
  rw [skipGap, List.dropWhile_cons, solid]
  rfl

theorem IsEntry.skipGap (entry : IsEntry text) : Json.skipGap text = text := by
  obtain ⟨first, rest, rfl, begins⟩ := entry
  simp only [beginsValue, Bool.and_eq_true, Bool.not_eq_true'] at begins
  exact skipGap_cons begins.1.1.1

theorem skipGap_newLine_append (depth : Nat) (text : List Char) :
    skipGap (newLine depth ++ text) = skipGap text := by
  have gap : ∀ c ∈ newLine depth, isGap c = true := by
    intro c member
    rcases List.mem_cons.mp member with rfl | blank
    · rfl
    · rw [List.eq_of_mem_replicate blank]
      rfl
  exact List.dropWhile_append_of_pos gap

end

theorem endsNumber_newLine_append (depth : Nat) (rest : List Char) :
    EndsNumber (newLine depth ++ rest) :=
  endsNumber_cons (by decide)

theorem separate_cons_cons (depth : Nat) (first second : List Char) (rest : List (List Char)) :
    separate depth (first :: second :: rest) =
      first ++ ',' :: (newLine depth ++ separate depth (second :: rest)) := by
  simp [separate]

/-! ## Values that can be read back -/

/-- A value that is read back from its text by a reader of whole numbers with so many digits. -/
structure IsReadable (maxDigits : Nat) (value : Json) : Prop where
  isExact : ∀ x, .real x ∉ value.parts
  fewDigits : ∀ n, .whole n ∈ value.parts → (unsignedDigits n).length ≤ maxDigits
  distinctNames : value.HasDistinctNames

section
variable {maxDigits : Nat}

theorem IsReadable.item {items : List Json} (readable : IsReadable maxDigits (.array items))
    {item : Json} (member : item ∈ items) : IsReadable maxDigits item where
  isExact x part := readable.isExact x (mem_parts_array.mpr (Or.inr ⟨item, member, part⟩))
  fewDigits n part := readable.fewDigits n (mem_parts_array.mpr (Or.inr ⟨item, member, part⟩))
  distinctNames := hasDistinctNames_array.mp readable.distinctNames item member

theorem IsReadable.member {members : List (String × Json)}
    (readable : IsReadable maxDigits (.object members)) {member : String × Json}
    (held : member ∈ members) : IsReadable maxDigits member.2 where
  isExact x part := readable.isExact x (mem_parts_object.mpr (Or.inr ⟨member, held, part⟩))
  fewDigits n part := readable.fewDigits n (mem_parts_object.mpr (Or.inr ⟨member, held, part⟩))
  distinctNames := (hasDistinctNames_object.mp readable.distinctNames).2 member held

end

/-! ## Values that hold no others -/

section
variable {maxDigits : Nat}

/-- The value is read back from its text, at any depth and whatever follows it, with twice as much
fuel as the text is long and with room for as many levels. -/
def ReadsBack (maxDigits : Nat) (value : Json) : Prop :=
  ∀ depth fuel room rest, 2 * (prettyAt depth value).length ≤ fuel →
    (prettyAt depth value).length ≤ room → EndsNumber rest →
    readValue maxDigits fuel room (prettyAt depth value ++ rest) = .ok (value, rest)

theorem readsBack_null : ReadsBack maxDigits .null := by
  intro depth fuel room rest enough _ _
  obtain ⟨fuel, rfl⟩ : ∃ n, fuel = n + 1 := ⟨fuel - 1, by simp [prettyAt] at enough; omega⟩
  rfl

theorem readsBack_bool (value : Bool) : ReadsBack maxDigits (.bool value) := by
  intro depth fuel room rest enough _ _
  obtain ⟨fuel, rfl⟩ : ∃ n, fuel = n + 1 := by
    refine ⟨fuel - 1, ?_⟩
    cases value <;> simp [prettyAt] at enough <;> omega
  cases value <;> rfl

/-- What values that are no numbers begin with, but for the infinite number with a sign. -/
def beginnings : List Char :=
  ['"', '[', '\x7b', 'n', 't', 'f', 'N', 'I']

theorem digitChar_not_mem_beginnings : ∀ digit < 10, Nat.digitChar digit ∉ beginnings := by
  decide

/-- What begins like no other value is read as a number. -/
theorem readValue_eq_readNumber {fuel room : Nat} {first : Char} {rest : List Char}
    (other : first ∉ beginnings) (finite : first = '-' → rest.head? ≠ some 'I') :
    readValue maxDigits (fuel + 1) room (first :: rest) =
      readNumber maxDigits (first :: rest) := by
  simp only [beginnings, List.mem_cons, List.not_mem_nil, or_false, not_or, ← ne_eq] at other
  obtain ⟨quote, bracket, brace, n, t, f, capitalN, capitalI⟩ := other
  have noWord : readWord? (first :: rest) = none := by
    by_cases minus : first = '-'
    · cases rest with
      | nil => simp [readWord?, words, after?, minus]
      | cons second others =>
          have finite : second ≠ 'I' := fun equality => finite minus (congrArg some equality)
          simp [readWord?, words, after?, minus, finite.symm]
    · simp [readWord?, words, after?, n.symm, t.symm, f.symm, capitalN.symm, capitalI.symm,
        Ne.symm minus]
  rw [readValue.eq_def]
  dsimp only
  split
  · next equality => exact absurd (List.cons.inj equality).1 quote
  · next equality => exact absurd (List.cons.inj equality).1 bracket
  · next equality => exact absurd (List.cons.inj equality).1 brace
  · rw [noWord]

theorem readsBack_whole {n : Int} (few : (unsignedDigits n).length ≤ maxDigits) :
    ReadsBack maxDigits (.whole n) := by
  intro depth fuel room rest enough _ ends
  have number := readNumber_toString few ends
  obtain ⟨digit, small, others, digits⟩ := exists_cons_unsignedDigits n
  have notWord := digitChar_not_mem_beginnings digit small
  rw [prettyAt] at enough ⊢
  rw [← number, toList_toString_int, digits]
  rw [toList_toString_int, digits] at enough
  by_cases negative : n < 0
  · rw [if_pos negative] at enough ⊢
    obtain ⟨fuel, rfl⟩ : ∃ n, fuel = n + 1 := ⟨fuel - 1, by simp at enough; omega⟩
    refine readValue_eq_readNumber (by decide) fun _ infinite => notWord ?_
    rw [Option.some.inj infinite]
    decide
  · rw [if_neg negative] at enough ⊢
    obtain ⟨fuel, rfl⟩ : ∃ n, fuel = n + 1 := ⟨fuel - 1, by simp at enough; omega⟩
    exact readValue_eq_readNumber notWord fun minus _ => digitChar_ne_minus digit small minus

theorem readsBack_string (value : String) : ReadsBack maxDigits (.string value) := by
  intro depth fuel room rest enough _ _
  have content := length_le_length_flatMap escapeAsciiChar_ne_nil value.toList
  simp only [prettyAt, asciiLiteral, List.cons_append, List.length_cons,
    List.length_append] at enough
  obtain ⟨fuel, rfl⟩ : ∃ n, fuel = n + 1 := ⟨fuel - 1, by omega⟩
  simp only [prettyAt, asciiLiteral, List.cons_append, List.append_assoc, List.nil_append,
    readValue]
  rw [undoes_escapeAsciiChar.readString_flatMap _ _ _ _ _ (by omega)]
  simp

/-! ## Arrays -/

section
variable {fuel room : Nat} {before : List Json} {text tail rest : List Char} {value : Json}

theorem readItems_last (read : readValue maxDigits fuel room text = .ok (value, tail))
    (ended : skipGap tail = ']' :: rest) :
    readItems maxDigits (fuel + 1) room before text = .ok ((value :: before).reverse, rest) := by
  simp only [readItems, read, ended]

theorem readItems_more (read : readValue maxDigits fuel room text = .ok (value, tail))
    (goesOn : skipGap tail = ',' :: rest) :
    readItems maxDigits (fuel + 1) room before text =
      readItems maxDigits fuel room (value :: before) (skipGap rest) := by
  simp only [readItems, read, goesOn]

theorem readValue_array {items : List Json} {entries : List Char} (entry : IsEntry entries)
    (opened : skipGap text = entries)
    (read : readItems maxDigits fuel room [] entries = .ok (items, rest)) :
    readValue maxDigits (fuel + 1) (room + 1) ('[' :: text) = .ok (.array items, rest) := by
  obtain ⟨first, others, rfl, begins⟩ := entry
  have notEnd : first ≠ ']' := by
    rintro rfl
    exact absurd begins (by decide)
  simp only [readValue, opened]
  split
  · next equality => exact absurd (List.cons.inj equality).1 notEnd
  · rw [read]

end

theorem readItems_separate (depth outer : Nat) {items : List Json} (nonempty : items ≠ [])
    (readable : ∀ item ∈ items, IsReadable maxDigits item)
    (readsBack : ∀ item ∈ items, ReadsBack maxDigits item) :
    ∀ fuel room before rest,
      2 * (separate depth (prettyItems depth items)).length + 1 ≤ fuel →
      (separate depth (prettyItems depth items)).length ≤ room →
      readItems maxDigits fuel room before
          (separate depth (prettyItems depth items) ++ (newLine outer ++ ']' :: rest)) =
        .ok (before.reverse ++ items, rest) := by
  induction items with
  | nil => exact absurd rfl nonempty
  | cons item others inductionHypothesis =>
      intro fuel room before rest enough levels
      obtain ⟨fuel, rfl⟩ : ∃ n, fuel = n + 1 := ⟨fuel - 1, by omega⟩
      have readItem := readsBack item List.mem_cons_self depth fuel room
      cases others with
      | nil =>
          simp only [prettyItems, separate, List.flatMap_nil, List.append_nil] at enough levels ⊢
          have read := readItem _ (by omega) levels (endsNumber_newLine_append outer (']' :: rest))
          rw [readItems_last read (skipGap_newLine_append outer _), List.reverse_cons]
      | cons next others =>
          have entry := isEntry_prettyAt depth (readable next (by simp)).isExact
          have readOthers := inductionHypothesis (List.cons_ne_nil next others)
            (fun item member => readable item (List.mem_cons_of_mem _ member))
            (fun item member => readsBack item (List.mem_cons_of_mem _ member))
            fuel room (item :: before) rest
          simp only [prettyItems] at enough levels readOthers ⊢
          rw [separate_cons_cons] at enough levels ⊢
          simp only [List.length_append, List.length_cons] at enough levels
          rw [List.append_assoc, List.cons_append, List.append_assoc,
            readItems_more (readItem _ (by omega) (by omega) (endsNumber_cons (by decide)))
              (skipGap_cons (by decide)),
            skipGap_newLine_append, ((entry.separate depth _).append _).skipGap,
            readOthers (by omega) (by omega), List.reverse_cons, List.append_assoc]
          rfl

theorem readsBack_array {items : List Json} (readable : IsReadable maxDigits (.array items))
    (readsBack : ∀ item ∈ items, ReadsBack maxDigits item) :
    ReadsBack maxDigits (.array items) := by
  intro depth fuel room rest enough levels _
  cases items with
  | nil =>
      obtain ⟨fuel, rfl⟩ : ∃ n, fuel = n + 1 := ⟨fuel - 1, by simp [prettyAt] at enough; omega⟩
      obtain ⟨room, rfl⟩ : ∃ n, room = n + 1 := ⟨room - 1, by simp [prettyAt] at levels; omega⟩
      rfl
  | cons item others =>
      have entry := isEntry_prettyAt (depth + 1) (readable.item List.mem_cons_self).isExact
      have read := readItems_separate (depth + 1) depth (List.cons_ne_nil item others)
        (fun _ => readable.item) readsBack
      simp only [prettyAt, List.isEmpty_cons, Bool.false_eq_true, if_false, List.cons_append,
        List.append_assoc, List.length_cons, List.length_append] at enough levels ⊢
      obtain ⟨fuel, rfl⟩ : ∃ n, fuel = n + 1 := ⟨fuel - 1, by omega⟩
      obtain ⟨room, rfl⟩ : ∃ n, room = n + 1 := ⟨room - 1, by omega⟩
      have entries := (entry.separate (depth + 1) (prettyItems (depth + 1) others)).append
        (newLine depth ++ ']' :: rest)
      exact readValue_array entries ((skipGap_newLine_append _ _).trans entries.skipGap)
        (read fuel room [] rest (by omega) (by omega))

/-! ## Objects -/

theorem put_of_not_mem {members : List (String × Json)} {name : String}
    (new : name ∉ members.map Prod.fst) (value : Json) :
    put members name value = members ++ [(name, value)] := by
  have none : members.any (·.1 = name) = false := by
    rw [List.any_eq_false]
    intro member held same
    exact new (List.mem_map.mpr ⟨member, held, of_decide_eq_true same⟩)
  rw [put, none]
  rfl

/-- The text of a member. -/
def prettyMember (depth : Nat) (member : String × Json) : List Char :=
  asciiLiteral member.1 ++ ':' :: ' ' :: prettyAt depth member.2

theorem prettyMembers_cons (depth : Nat) (member : String × Json) (rest : List (String × Json)) :
    prettyMembers depth (member :: rest) = prettyMember depth member :: prettyMembers depth rest :=
  rfl

theorem isEntry_prettyMember (depth : Nat) (member : String × Json) :
    IsEntry (prettyMember depth member) :=
  ⟨_, _, rfl, rfl⟩

section
variable {fuel room depth : Nat} {before : List (String × Json)} {member : String × Json}
  {text tail rest further : List Char}

/-- How reading an object goes on behind one of its members. -/
def membersAfter (maxDigits fuel room : Nat) (read : List (String × Json)) (rest : List Char) :
    Reading (List (String × Json)) :=
  match skipGap rest with
  | '\x7d' :: further => .ok (read, further)
  | ',' :: further => readMembers maxDigits fuel room read (skipGap further)
  | other => .error (.malformed .comma other)

/-- A member is read as its name and its value, which follows a colon and a blank. -/
theorem readMembers_member (entry : IsEntry (prettyAt depth member.2))
    (enough : member.1.length < fuel)
    (read :
      readValue maxDigits fuel room (prettyAt depth member.2 ++ tail) = .ok (member.2, rest)) :
    readMembers maxDigits (fuel + 1) room before (prettyMember depth member ++ tail) =
      membersAfter maxDigits fuel room (put before member.1 member.2) rest := by
  have value : skipGap (' ' :: (prettyAt depth member.2 ++ tail)) =
      prettyAt depth member.2 ++ tail :=
    (entry.append tail).skipGap
  simp only [prettyMember, asciiLiteral, List.cons_append, List.append_assoc, List.nil_append,
    readMembers]
  rw [undoes_escapeAsciiChar.readString_flatMap _ _ _ _ _ enough]
  have colon : skipGap (':' :: ' ' :: (prettyAt depth member.2 ++ tail)) =
      ':' :: ' ' :: (prettyAt depth member.2 ++ tail) :=
    skipGap_cons (by decide)
  simp only [colon, value, read, List.reverse_nil, List.nil_append, String.ofList_toList]
  rfl

theorem readMembers_last (entry : IsEntry (prettyAt depth member.2))
    (enough : member.1.length < fuel)
    (read : readValue maxDigits fuel room (prettyAt depth member.2 ++ tail) = .ok (member.2, rest))
    (ended : skipGap rest = '\x7d' :: further) :
    readMembers maxDigits (fuel + 1) room before (prettyMember depth member ++ tail) =
      .ok (put before member.1 member.2, further) := by
  simp only [readMembers_member entry enough read, membersAfter, ended]

theorem readMembers_more (entry : IsEntry (prettyAt depth member.2))
    (enough : member.1.length < fuel)
    (read : readValue maxDigits fuel room (prettyAt depth member.2 ++ tail) = .ok (member.2, rest))
    (goesOn : skipGap rest = ',' :: further) :
    readMembers maxDigits (fuel + 1) room before (prettyMember depth member ++ tail) =
      readMembers maxDigits fuel room (put before member.1 member.2) (skipGap further) := by
  simp only [readMembers_member entry enough read, membersAfter, goesOn]

theorem readValue_object {members : List (String × Json)} {entries : List Char}
    (entry : IsEntry entries) (opened : skipGap text = entries)
    (read : readMembers maxDigits fuel room [] entries = .ok (members, rest)) :
    readValue maxDigits (fuel + 1) (room + 1) ('\x7b' :: text) = .ok (.object members, rest) := by
  obtain ⟨first, others, rfl, begins⟩ := entry
  have notEnd : first ≠ '\x7d' := by
    rintro rfl
    exact absurd begins (by decide)
  simp only [readValue, opened]
  split
  · next equality => exact absurd (List.cons.inj equality).1 notEnd
  · rw [read]

end

theorem length_prettyMember (depth : Nat) (member : String × Json) :
    member.1.length + (prettyAt depth member.2).length + 4 ≤
      (prettyMember depth member).length := by
  have content := length_le_length_flatMap escapeAsciiChar_ne_nil member.1.toList
  simp only [prettyMember, asciiLiteral, List.length_append, List.length_cons, List.length_nil,
    String.length_toList] at content ⊢
  omega

theorem readMembers_separate (depth outer : Nat) {members : List (String × Json)}
    (nonempty : members ≠ []) (readable : ∀ member ∈ members, IsReadable maxDigits member.2)
    (readsBack : ∀ member ∈ members, ReadsBack maxDigits member.2) :
    ∀ fuel room before rest, ((before ++ members).map Prod.fst).Nodup →
      2 * (separate depth (prettyMembers depth members)).length + 1 ≤ fuel →
      (separate depth (prettyMembers depth members)).length ≤ room →
      readMembers maxDigits fuel room before
          (separate depth (prettyMembers depth members) ++ (newLine outer ++ '\x7d' :: rest)) =
        .ok (before ++ members, rest) := by
  induction members with
  | nil => exact absurd rfl nonempty
  | cons member others inductionHypothesis =>
      intro fuel room before rest distinct enough levels
      obtain ⟨fuel, rfl⟩ : ∃ n, fuel = n + 1 := ⟨fuel - 1, by omega⟩
      have length := length_prettyMember depth member
      have entry := isEntry_prettyAt depth (readable member List.mem_cons_self).isExact
      have readValue := readsBack member List.mem_cons_self depth fuel room
      have new : member.1 ∉ before.map Prod.fst := by
        rw [List.map_append, List.map_cons, List.nodup_append] at distinct
        exact fun held => distinct.2.2 _ held _ List.mem_cons_self rfl
      have added : put before member.1 member.2 = before ++ [member] := put_of_not_mem new member.2
      cases others with
      | nil =>
          have alone : separate depth (prettyMembers depth [member]) = prettyMember depth member :=
            List.append_nil _
          rw [alone] at enough levels ⊢
          rw [readMembers_last entry (by omega)
            (readValue _ (by omega) (by omega) (endsNumber_newLine_append outer _))
            (skipGap_newLine_append outer _), added]
      | cons next others =>
          have readOthers := inductionHypothesis (List.cons_ne_nil next others)
            (fun member held => readable member (List.mem_cons_of_mem _ held))
            (fun member held => readsBack member (List.mem_cons_of_mem _ held))
            fuel room (before ++ [member]) rest (by rwa [List.append_assoc])
          rw [prettyMembers_cons] at enough levels ⊢
          rw [prettyMembers_cons] at enough levels readOthers ⊢
          rw [separate_cons_cons] at enough levels ⊢
          simp only [List.length_append, List.length_cons] at enough levels
          rw [List.append_assoc, List.cons_append, List.append_assoc,
            readMembers_more entry (by omega)
              (readValue _ (by omega) (by omega) (endsNumber_cons (by decide)))
              (skipGap_cons (by decide)),
            skipGap_newLine_append,
            (((isEntry_prettyMember depth next).separate depth _).append _).skipGap, added,
            readOthers (by omega) (by omega), List.append_assoc]
          rfl

theorem readsBack_object {members : List (String × Json)}
    (readable : IsReadable maxDigits (.object members))
    (readsBack : ∀ member ∈ members, ReadsBack maxDigits member.2) :
    ReadsBack maxDigits (.object members) := by
  intro depth fuel room rest enough levels _
  cases members with
  | nil =>
      obtain ⟨fuel, rfl⟩ : ∃ n, fuel = n + 1 := ⟨fuel - 1, by simp [prettyAt] at enough; omega⟩
      obtain ⟨room, rfl⟩ : ∃ n, room = n + 1 := ⟨room - 1, by simp [prettyAt] at levels; omega⟩
      rfl
  | cons member others =>
      have distinct := (hasDistinctNames_object.mp readable.distinctNames).1
      have read := readMembers_separate (depth + 1) depth (List.cons_ne_nil member others)
        (fun _ => readable.member) readsBack
      simp only [prettyAt, List.isEmpty_cons, Bool.false_eq_true, if_false, List.cons_append,
        List.append_assoc, List.length_cons, List.length_append] at enough levels ⊢
      obtain ⟨fuel, rfl⟩ : ∃ n, fuel = n + 1 := ⟨fuel - 1, by omega⟩
      obtain ⟨room, rfl⟩ : ∃ n, room = n + 1 := ⟨room - 1, by omega⟩
      have entries := ((isEntry_prettyMember (depth + 1) member).separate (depth + 1)
        (prettyMembers (depth + 1) others)).append (newLine depth ++ '\x7d' :: rest)
      exact readValue_object entries ((skipGap_newLine_append _ _).trans entries.skipGap)
        (read fuel room [] rest distinct (by omega) (by omega))

/-! ## All values -/

/-- A readable value is read back from its text. -/
theorem IsReadable.readsBack {value : Json} (readable : IsReadable maxDigits value) :
    ReadsBack maxDigits value := by
  induction value using inductionOn with
  | null => exact readsBack_null
  | bool value => exact readsBack_bool value
  | whole n => exact readsBack_whole (readable.fewDigits n (List.mem_singleton.mpr rfl))
  | real x => exact absurd (List.mem_singleton.mpr rfl) (readable.isExact x)
  | string value => exact readsBack_string value
  | array items inductionHypothesis =>
      exact readsBack_array readable fun item member =>
        inductionHypothesis item member (readable.item member)
  | object members inductionHypothesis =>
      exact readsBack_object readable fun member held =>
        inductionHypothesis member held (readable.member held)

/-! ## Whole texts -/

/-- A reader with room for as many levels as there are characters reads a readable value back. -/
theorem readText_pretty {value : Json} (readable : IsReadable maxDigits value) {maxLevels : Nat}
    (room : value.pretty.length ≤ maxLevels) :
    readText maxDigits maxLevels value.pretty.toList = .ok value := by
  have entry := isEntry_prettyAt 0 readable.isExact
  have noMark : (prettyAt 0 value).head? ≠ some '\uFEFF' := by
    obtain ⟨first, rest, text, begins⟩ := entry
    rw [text]
    rintro ⟨rfl⟩
    exact absurd begins (by decide)
  simp only [pretty, String.length_ofList, String.toList_ofList] at room ⊢
  have read := readable.readsBack 0 (2 * ((prettyAt 0 value).length + 1)) maxLevels [] (by omega)
    room endsNumber_nil
  rw [List.append_nil] at read
  simp only [readText, if_neg noMark, entry.skipGap, read]
  rfl

end

/-! ## Without limits -/

theorem length_le_length_separate (depth : Nat) {text : List Char} {texts : List (List Char)}
    (member : text ∈ texts) : text.length ≤ (separate depth texts).length := by
  induction texts with
  | nil => exact absurd member List.not_mem_nil
  | cons first rest inductionHypothesis =>
      rcases List.mem_cons.mp member with rfl | later
      · simp [separate]
      · cases rest with
        | nil => exact absurd later List.not_mem_nil
        | cons second rest =>
            have shorter := inductionHypothesis later
            rw [separate_cons_cons, List.length_append, List.length_cons, List.length_append]
            omega

theorem mem_prettyItems (depth : Nat) {item : Json} {items : List Json} (member : item ∈ items) :
    prettyAt depth item ∈ prettyItems depth items := by
  induction items with
  | nil => exact absurd member List.not_mem_nil
  | cons first rest inductionHypothesis =>
      rcases List.mem_cons.mp member with rfl | later
      · exact List.mem_cons_self
      · exact List.mem_cons_of_mem _ (inductionHypothesis later)

theorem mem_prettyMembers (depth : Nat) {member : String × Json}
    {members : List (String × Json)} (held : member ∈ members) :
    prettyMember depth member ∈ prettyMembers depth members := by
  induction members with
  | nil => exact absurd held List.not_mem_nil
  | cons first rest inductionHypothesis =>
      rcases List.mem_cons.mp held with rfl | later
      · exact List.mem_cons_self
      · exact List.mem_cons_of_mem _ (inductionHypothesis later)

/-- The text of a value holds the texts of its parts. -/
theorem length_prettyAt_part {value part : Json} (isPart : part ∈ value.parts) (depth : Nat) :
    ∃ inner, (prettyAt inner part).length ≤ (prettyAt depth value).length := by
  induction value using inductionOn generalizing depth with
  | null | bool | whole | real | string =>
      rw [List.mem_singleton.mp isPart]
      exact ⟨depth, Nat.le_refl _⟩
  | array items inductionHypothesis =>
      rcases mem_parts_array.mp isPart with rfl | ⟨item, member, inside⟩
      · exact ⟨depth, Nat.le_refl _⟩
      · obtain ⟨inner, shorter⟩ := inductionHypothesis item member inside (depth + 1)
        have among := length_le_length_separate (depth + 1) (mem_prettyItems (depth + 1) member)
        refine ⟨inner, Nat.le_trans shorter ?_⟩
        have nonempty : items.isEmpty = false :=
          List.isEmpty_eq_false_iff.mpr (List.ne_nil_of_mem member)
        simp only [prettyAt, nonempty, Bool.false_eq_true, if_false, List.length_append,
          List.length_cons]
        omega
  | object members inductionHypothesis =>
      rcases mem_parts_object.mp isPart with rfl | ⟨member, held, inside⟩
      · exact ⟨depth, Nat.le_refl _⟩
      · obtain ⟨inner, shorter⟩ := inductionHypothesis member held inside (depth + 1)
        have own := length_prettyMember (depth + 1) member
        have among := length_le_length_separate (depth + 1) (mem_prettyMembers (depth + 1) held)
        refine ⟨inner, Nat.le_trans shorter ?_⟩
        have nonempty : members.isEmpty = false :=
          List.isEmpty_eq_false_iff.mpr (List.ne_nil_of_mem held)
        simp only [prettyAt, nonempty, Bool.false_eq_true, if_false, List.length_append,
          List.length_cons]
        omega

theorem length_unsignedDigits_le {value : Json} {n : Int} (isPart : .whole n ∈ value.parts) :
    (unsignedDigits n).length ≤ value.pretty.length := by
  obtain ⟨inner, shorter⟩ := length_prettyAt_part isPart 0
  rw [pretty, String.length_ofList]
  refine Nat.le_trans ?_ shorter
  rw [prettyAt, toList_toString_int]
  split
  · exact Nat.le_succ _
  · exact Nat.le_refl _

/-- A value without floating-point numbers is read back by the reader without limits. -/
theorem parseUnbounded_pretty {value : Json} (isExact : ∀ x, .real x ∉ value.parts)
    (distinctNames : value.HasDistinctNames) : parseUnbounded value.pretty = .ok value := by
  have readable : IsReadable value.pretty.length value :=
    ⟨isExact, fun _ => length_unsignedDigits_le, distinctNames⟩
  exact readText_pretty readable (Nat.le_succ _)

theorem parse_pretty {value : Json} (readable : IsReadable Number.maxDecimalDigits value) :
    parse value.pretty = .ok value :=
  readText_pretty readable (Nat.le_succ _)

end JsxFragment.Json
