import JsxFragment.Json.Reader
import JsxFragment.Proofs.Text.Digits

/-!
# Reading whole numbers back

A whole number is read back from its digits if what follows them does not go on with the number, and
if there are not too many of them.
-/

namespace JsxFragment.Json

open Text

/-- The digits of a whole number, without its sign. -/
def unsignedDigits (n : Int) : List Char :=
  Nat.toDigits 10 n.natAbs

theorem exists_cons_unsignedDigits (n : Int) :
    ∃ digit < 10, ∃ rest, unsignedDigits n = Nat.digitChar digit :: rest := by
  obtain ⟨first, rest, digits⟩ :=
    List.exists_cons_of_ne_nil (Nat.toDigits_ne_nil (n := n.natAbs) (b := 10))
  have member : first ∈ Nat.toDigits 10 n.natAbs := by
    rw [digits]
    exact List.mem_cons_self
  obtain ⟨digit, small, rfl⟩ := exists_digitChar_of_mem_toDigits (by decide) member
  exact ⟨digit, small, rest, digits⟩

theorem toList_toString_int (n : Int) :
    (toString n).toList = if n < 0 then '-' :: unsignedDigits n else unsignedDigits n := by
  have written : toString n = n.repr := rfl
  rw [written, Int.repr_eq_if]
  by_cases negative : n < 0
  · have natAbs : (-n).toNat = n.natAbs := by omega
    rw [if_neg (by omega), if_pos negative, natAbs]
    simp only [String.toList_append, Nat.repr_eq_ofList_toDigits, String.toList_ofList]
    rfl
  · have natAbs : n.toNat = n.natAbs := by omega
    rw [if_pos (by omega), if_neg negative, Nat.repr_eq_ofList_toDigits, String.toList_ofList,
      natAbs]
    rfl

/-- The rest of a text does not go on with a number. -/
def EndsNumber (rest : List Char) : Prop :=
  ∀ c, rest.head? = some c → isAsciiDigit c = false ∧ c ≠ '.' ∧ c ≠ 'e' ∧ c ≠ 'E'

theorem endsNumber_nil : EndsNumber [] := by
  intro c head
  simp at head

theorem endsNumber_cons {c : Char} {rest : List Char}
    (ends : isAsciiDigit c = false ∧ c ≠ '.' ∧ c ≠ 'e' ∧ c ≠ 'E') : EndsNumber (c :: rest) := by
  intro d head
  obtain rfl := Option.some.inj head
  exact ends

section
variable {rest : List Char}

theorem EndsNumber.takeWhile (ends : EndsNumber rest) : rest.takeWhile isAsciiDigit = [] := by
  cases rest with
  | nil => rfl
  | cons c rest => rw [List.takeWhile_cons, (ends c rfl).1]; rfl

theorem EndsNumber.readFraction (ends : EndsNumber rest) :
    Json.readFraction rest = ([], rest) := by
  unfold Json.readFraction
  split
  · next further => exact absurd rfl (ends '.' rfl).2.1
  · rfl

theorem EndsNumber.readExponent? (ends : EndsNumber rest) :
    Json.readExponent? rest = (none, rest) := by
  unfold Json.readExponent?
  split
  · next letter further =>
      obtain ⟨-, -, notSmall, notCapital⟩ := ends letter rfl
      simp only [notSmall, notCapital, decide_false, Bool.or_self, Bool.false_eq_true, if_false]
  · rfl

theorem wholeDigits_toDigits (n : Nat) (ends : EndsNumber rest) :
    wholeDigits (Nat.toDigits 10 n ++ rest) = Nat.toDigits 10 n := by
  by_cases zero : n = 0
  · rw [zero, Nat.toDigits_zero]
    rfl
  have notZero := head?_toDigits_ne_zero (by decide) (Nat.le_refl 10) zero
  have all : ∀ c ∈ Nat.toDigits 10 n, isAsciiDigit c = true := by
    intro c member
    obtain ⟨digit, small, rfl⟩ := exists_digitChar_of_mem_toDigits (by decide) member
    exact isAsciiDigit_digitChar digit small
  obtain ⟨first, others, digits⟩ :=
    List.exists_cons_of_ne_nil (Nat.toDigits_ne_nil (n := n) (b := 10))
  have taken : (Nat.toDigits 10 n ++ rest).takeWhile isAsciiDigit = Nat.toDigits 10 n := by
    rw [List.takeWhile_append_of_pos all, ends.takeWhile, List.append_nil]
  unfold wholeDigits
  split
  · next further equality =>
      rw [digits, List.cons_append] at equality
      rw [digits, (List.cons.inj equality).1] at notZero
      exact absurd rfl notZero
  · exact taken

theorem readNumber_toString {maxDigits : Nat} {n : Int}
    (few : (unsignedDigits n).length ≤ maxDigits) (ends : EndsNumber rest) :
    readNumber maxDigits ((toString n).toList ++ rest) = .ok (.whole n, rest) := by
  have digits_ne : unsignedDigits n ≠ [] := Nat.toDigits_ne_nil
  have whole : wholeDigits (unsignedDigits n ++ rest) = unsignedDigits n :=
    wholeDigits_toDigits n.natAbs ends
  have dropped : (unsignedDigits n ++ rest).drop (unsignedDigits n).length = rest :=
    List.drop_left
  have value : digitsValue 10 (unsignedDigits n) = n.natAbs :=
    digitsValue_toDigits (by decide) (by decide) n.natAbs
  have notTooMany : ¬maxDigits < (unsignedDigits n).length := by omega
  rw [toList_toString_int]
  unfold readNumber
  by_cases negative : n < 0
  · have signed : -(digitsValue 10 (unsignedDigits n) : Int) = n := by omega
    simp [negative, whole, digits_ne, dropped, ends.readFraction, ends.readExponent?, notTooMany,
      signed]
  · have signed : (digitsValue 10 (unsignedDigits n) : Int) = n := by omega
    have noMinus : (unsignedDigits n ++ rest).head? ≠ some '-' := by
      obtain ⟨digit, small, others, digits⟩ := exists_cons_unsignedDigits n
      rw [digits]
      exact fun minus => digitChar_ne_minus digit small (Option.some.inj minus)
    simp only [if_neg negative, if_neg noMinus]
    simp [whole, digits_ne, dropped, ends.readFraction, ends.readExponent?, notTooMany, signed]

end

end JsxFragment.Json
