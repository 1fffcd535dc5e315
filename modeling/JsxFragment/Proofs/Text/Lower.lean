import JsxFragment.TagName
import JsxFragment.Text.WordChar
import Mathlib.Data.List.Forall2

/-!
# Names in lower case

Outside ASCII no character becomes a letter of ASCII in lower case but the Kelvin sign, which
becomes a k. A name whose lower-case form is spelled with other letters is itself of ASCII. Blanks
and the marks of ASCII have no case, and no other character becomes one of them.
-/

namespace JsxFragment

namespace Text

/-- What holds of the characters of ASCII, looked at one by one, holds of every one of them. -/
theorem of_ascii {property : Char → Prop} (each : ∀ n < 0x80, property (Char.ofNat n)) :
    ∀ c : Char, c.toNat < 0x80 → property c := by
  intro c ascii
  have holds := each c.toNat ascii
  rwa [Char.ofNat_toNat] at holds

theorem lowerRuns_not_ascii :
    ∀ run ∈ lowerRuns, 0x80 ≤ (run.first : Int) + run.shift ∨
      run.first = 0x212A ∧ run.last = 0x212A ∧ run.shift = -8383 := by
  decide +kernel

theorem isAsciiLetter_eq_false {c : Char} (notAscii : c.toNat = 0 ∨ 0x80 ≤ c.toNat) :
    isAsciiLetter c = false := by
  simp only [isAsciiLetter, Bool.or_eq_false_iff, Bool.and_eq_false_iff, decide_eq_false_iff_not]
  omega

theorem toNat_ofNat_cases (n : Nat) :
    (Char.ofNat n).toNat = 0 ∨ (Char.ofNat n).toNat = n := by
  by_cases valid : n.isValidChar
  · have same : Char.ofNat n = Char.ofNatAux n valid := dif_pos valid
    rw [same]
    exact Or.inr rfl
  · have zero : Char.ofNat n = Char.ofNat 0 := dif_neg valid
    rw [zero]
    exact Or.inl rfl

/-- In lower case a character outside ASCII is spelled with one that is no letter of ASCII, or is a
k. -/
theorem lowerChar_not_letter {c : Char} (notAscii : 0x80 ≤ c.toNat) :
    ∃ d ∈ lowerChar c, isAsciiLetter d = false ∨ d = 'k' := by
  unfold lowerChar
  rw [if_neg (by omega)]
  split
  · exact ⟨'\u0307', by simp, Or.inl (by decide)⟩
  · refine ⟨_, List.mem_singleton_self _, ?_⟩
    unfold CaseRun.shiftIn
    dsimp only
    split
    · next run found =>
        have within := List.find?_some found
        simp only [Bool.and_eq_true, decide_eq_true_eq] at within
        rcases lowerRuns_not_ascii run (List.mem_of_find?_eq_some found) with
          above | ⟨first, last, shift⟩
        · left
          apply isAsciiLetter_eq_false
          have shifted := toNat_ofNat_cases ((c.toNat : Int) + run.shift).toNat
          omega
        · right
          have kelvin : ((c.toNat : Int) + run.shift).toNat = 107 := by omega
          rw [kelvin]
    · exact Or.inl (isAsciiLetter_eq_false (Or.inr notAscii))

theorem ascii_of_lowerText {text : List Char}
    (letters : ∀ d ∈ lowerText text, isAsciiLetter d = true ∧ d ≠ 'k') :
    ∀ c ∈ text, c.toNat < 0x80 := by
  unfold lowerText at letters
  split at letters
  · next ascii => simpa using ascii
  have fromHere : ∀ (afterCased : Bool) (rest : List Char),
      (∀ d ∈ lowerFrom afterCased rest, isAsciiLetter d = true ∧ d ≠ 'k') →
        ∀ c ∈ rest, c.toNat < 0x80 := by
    intro afterCased rest
    induction rest generalizing afterCased with
    | nil => simp
    | cons c others inductionHypothesis =>
        intro letters
        unfold lowerFrom at letters
        dsimp only at letters
        split at letters
        · have sigma := letters _ List.mem_cons_self
          split at sigma <;> exact absurd sigma.1 (by decide)
        · rw [List.forall_mem_append] at letters
          rw [List.forall_mem_cons]
          refine ⟨?_, inductionHypothesis _ letters.2⟩
          by_contra notAscii
          obtain ⟨d, member, notLetter | isK⟩ := lowerChar_not_letter (Nat.not_lt.mp notAscii)
          · exact absurd (letters.1 d member).1 (by simp [notLetter])
          · exact (letters.1 d member).2 isK
  exact fromHere false text letters

/-- A string that is made of letters other than `k` in lower case is of ASCII. -/
theorem ascii_of_lower {name lowered : String} (isLowered : lower name = lowered)
    (letters : (lowered.toList.all fun d => isAsciiLetter d && d != 'k') = true) :
    ∀ c ∈ name.toList, c.toNat < 0x80 := by
  have characters : lowerText name.toList = lowered.toList := by
    rw [← isLowered, lower, String.toList_ofList]
  apply ascii_of_lowerText
  rw [characters]
  simpa using letters

theorem lowerText_of_ascii {text : List Char} (ascii : ∀ c ∈ text, c.toNat < 0x80) :
    lowerText text = text.map Char.toLower := by
  unfold lowerText
  rw [if_pos (by simpa using ascii)]

/-! ## Characters without case -/

/-- Code points that no change of case leads to or from, among them all of ASCII that are no letters
and all blanks. -/
def caselessRanges : List (Nat × Nat) :=
  [(0x01, 0x40), (0x5B, 0x60), (0x7B, 0xA0), (0x1680, 0x1680), (0x2000, 0x200A),
   (0x2028, 0x2029), (0x202F, 0x202F), (0x205F, 0x205F), (0x3000, 0x3000)]

/-- A character of one of these code points. -/
def isCaseless (c : Char) : Bool :=
  inRanges caselessRanges c.toNat

theorem lowerRuns_apart_from_caseless :
    ∀ run ∈ lowerRuns, ∀ range ∈ caselessRanges,
      (run.last < range.1 ∨ range.2 < run.first) ∧
        ((run.last : Int) + run.shift < range.1 ∨ (range.2 : Int) < run.first + run.shift) := by
  decide +kernel

theorem isCaseless_of_isBlank {c : Char} (blank : isBlank c = true) : isCaseless c = true := by
  rw [isCaseless, inRanges_eq_true_iff]
  simp only [isBlank, Bool.or_eq_true, Bool.and_eq_true, decide_eq_true_eq, beq_iff_eq] at blank
  simp only [caselessRanges, List.mem_cons, List.not_mem_nil, or_false, exists_eq_or_imp,
    exists_eq_left]
  omega

theorem toLower_of_isCaseless : ∀ c : Char, c.toNat < 0x80 →
    isCaseless c.toLower = true ∨ isCaseless c = true → c.toLower = c :=
  of_ascii (by decide)

/-- A run of the table neither begins nor ends at a character without case. -/
theorem isCaseless_shift_eq_false {run : CaseRun} (member : run ∈ lowerRuns) {c : Char}
    (within : run.first ≤ c.toNat ∧ c.toNat ≤ run.last) :
    isCaseless c = false ∧ isCaseless (Char.ofNat (Int.toNat (c.toNat + run.shift))) = false := by
  have apart := lowerRuns_apart_from_caseless run member
  have notCaseless {d : Char} (outside : ∀ range ∈ caselessRanges,
      ¬(range.1 ≤ d.toNat ∧ d.toNat ≤ range.2)) : isCaseless d = false := by
    rw [isCaseless, ← Bool.not_eq_true, inRanges_eq_true_iff]
    rintro ⟨range, isRange, inside⟩
    exact outside range isRange inside
  have positive : ∀ range ∈ caselessRanges, 0 < range.1 := by decide
  refine ⟨notCaseless fun range isRange => ?_, notCaseless fun range isRange => ?_⟩
  · have source := (apart range isRange).1
    omega
  · have image := (apart range isRange).2
    have lowest := positive range isRange
    have shifted := toNat_ofNat_cases (Int.toNat (c.toNat + run.shift))
    omega

/-- The lower-case form of a character has a character without case only if it is that character. -/
theorem mem_lowerChar_iff {c d : Char} (caseless : isCaseless d = true) :
    d ∈ lowerChar c ↔ c = d := by
  unfold lowerChar
  split
  · next ascii =>
      have fixed := toLower_of_isCaseless c ascii
      rw [List.mem_singleton]
      constructor
      · rintro rfl
        exact (fixed (Or.inl caseless)).symm
      · rintro rfl
        exact (fixed (Or.inr caseless)).symm
  -- One character has a lower-case form of two characters.
  split
  · next dotted =>
      have notDotted : isCaseless 'İ' = false ∧ isCaseless 'i' = false ∧
          isCaseless '\u0307' = false := by
        decide
      refine iff_of_false (fun member => ?_) ?_
      · rcases List.mem_cons.mp member with rfl | member
        · exact absurd caseless (by simp [notDotted])
        · rw [List.mem_singleton.mp member] at caseless
          exact absurd caseless (by simp [notDotted])
      · rintro rfl
        rw [dotted] at caseless
        exact absurd caseless (by simp [notDotted])
  · rw [List.mem_singleton, CaseRun.shiftIn]
    split
    · next run found =>
        have within := List.find?_some found
        simp only [Bool.and_eq_true, decide_eq_true_eq] at within
        obtain ⟨source, image⟩ :=
          isCaseless_shift_eq_false (List.mem_of_find?_eq_some found) within.1
        refine iff_of_false ?_ ?_
        · rintro rfl
          exact absurd caseless (by simp [image])
        · rintro rfl
          exact absurd caseless (by simp [source])
    · exact eq_comm

theorem lowerText_eq_lowerFrom (text : List Char) : lowerText text = lowerFrom false text := by
  unfold lowerText
  split
  · next ascii => exact (lowerFrom_of_ascii false (by simpa using ascii)).symm
  · rfl

/-- Lower case leaves the characters without case as they are, and adds none. -/
theorem mem_lowerText_iff {d : Char} (caseless : isCaseless d = true) (text : List Char) :
    d ∈ lowerText text ↔ d ∈ text := by
  rw [lowerText_eq_lowerFrom]
  generalize false = afterCased
  induction text generalizing afterCased with
  | nil => rfl
  | cons c rest inductionHypothesis =>
      unfold lowerFrom
      dsimp only
      rw [List.mem_cons]
      by_cases isSigma : c = 'Σ'
      · have notSigma : d ≠ 'Σ' ∧ d ≠ 'ς' ∧ d ≠ 'σ' := by
          refine ⟨?_, ?_, ?_⟩ <;>
          · rintro rfl
            exact absurd caseless (by decide)
        rw [if_pos isSigma, List.mem_cons, inductionHypothesis, isSigma]
        split <;> simp [notSigma]
      · rw [if_neg isSigma, List.mem_append, inductionHypothesis, mem_lowerChar_iff caseless,
          eq_comm]

end Text

open Text

theorem RawElement.lower_of_ofTag? {element : RawElement} {tag : String}
    (opens : RawElement.ofTag? tag = some element) : lower tag = element.name := by
  unfold ofTag? at opens
  dsimp only at opens
  split at opens
  · next isName =>
      cases opens
      exact isName
  · split at opens
    · next isName =>
        cases opens
        exact isName
    · exact absurd opens (by simp)

/-- A tag that opens raw text spells the name of its element letter by letter. -/
theorem RawElement.forall₂_spells_of_ofTag? {element : RawElement} {tag : String}
    (opens : RawElement.ofTag? tag = some element) :
    List.Forall₂ (fun letter c => RawElement.spells letter c = true)
      element.name.toList tag.toList := by
  have isName : lower tag = element.name := lower_of_ofTag? opens
  have lowered : lowerText tag.toList = element.name.toList := by
    rw [← isName, lower, String.toList_ofList]
  have ascii := ascii_of_lower isName (by cases element <;> decide)
  rw [← lowered, lowerText_of_ascii ascii, List.forall₂_map_left_iff,
    List.forall₂_same]
  intro c _
  simp [spells]

end JsxFragment
