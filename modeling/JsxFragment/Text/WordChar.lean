import JsxFragment.Text.AlphanumericTable
import JsxFragment.Text.CodeRange

/-!
Letters, numbers and decimal digits of any script.
-/

namespace JsxFragment.Text

/-- A letter of ASCII. -/
def isAsciiLetter (c : Char) : Bool :=
  (0x41 ≤ c.toNat && c.toNat ≤ 0x5A) || (0x61 ≤ c.toNat && c.toNat ≤ 0x7A)

/-- A digit of ASCII. -/
def isAsciiDigit (c : Char) : Bool :=
  0x30 ≤ c.toNat && c.toNat ≤ 0x39

/-- A letter or a number of any script. -/
def isAlphanumeric (c : Char) : Bool :=
  if c.toNat < 0x80 then isAsciiLetter c || isAsciiDigit c
  else inRanges alphanumericRanges c.toNat

/-- A letter or a number of any script, or the underscore. -/
def isWordChar (c : Char) : Bool :=
  isAlphanumeric c || c = '_'

/-- The value of a decimal digit of any script. -/
def digitValue? (c : Char) : Option Nat :=
  (digitZeros.find? fun first => first ≤ c.toNat && c.toNat ≤ first + 9).map (c.toNat - ·)

/-- A decimal digit of any script. -/
def isDecimalDigit (c : Char) : Bool :=
  (digitValue? c).isSome

/-- The letters and digits of ASCII are letters and numbers. -/
theorem isAlphanumeric_of_isAlphanum {c : Char} (h : c.isAlphanum = true) :
    isAlphanumeric c = true := by
  have bounds : ((65 ≤ c.toNat ∧ c.toNat ≤ 90) ∨ (97 ≤ c.toNat ∧ c.toNat ≤ 122)) ∨
      (48 ≤ c.toNat ∧ c.toNat ≤ 57) := by
    rcases Bool.or_eq_true_iff.mp h with letter | digit
    · rcases Bool.or_eq_true_iff.mp letter with upper | lower
      · exact Or.inl (Or.inl (of_decide_eq_true upper))
      · have ends := Bool.and_eq_true_iff.mp lower
        exact Or.inl (Or.inr ⟨of_decide_eq_true ends.1, of_decide_eq_true ends.2⟩)
    · have ends := Bool.and_eq_true_iff.mp digit
      exact Or.inr ⟨of_decide_eq_true ends.1, of_decide_eq_true ends.2⟩
  have ascii : c.toNat < 0x80 := by omega
  simp only [isAlphanumeric, isAsciiLetter, isAsciiDigit, ascii, if_true, Bool.or_eq_true,
    Bool.and_eq_true, decide_eq_true_eq]
  omega

end JsxFragment.Text
