import JsxFragment.Text.Entity
import JsxFragment.Text.Quoted
import JsxFragment.Text.WordChar

/-!
# Digits

The digits that a number is written with have the value of the number, in every base up to sixteen.
-/

namespace JsxFragment.Text

theorem hexValue_digitChar : ∀ digit < 16, hexValue (Nat.digitChar digit) = digit := by
  decide

theorem isHexDigit_digitChar : ∀ digit < 16, isHexDigit (Nat.digitChar digit) = true := by
  decide

theorem isAsciiDigit_digitChar : ∀ digit < 10, isAsciiDigit (Nat.digitChar digit) = true := by
  decide

theorem digitChar_ne_zero : ∀ digit < 10, digit ≠ 0 → Nat.digitChar digit ≠ '0' := by
  decide

theorem digitChar_ne_minus : ∀ digit < 10, Nat.digitChar digit ≠ '-' := by
  decide

/-! ## Digits in a base -/

theorem digitsValue_concat (base : Nat) (digits : List Char) (last : Char) :
    digitsValue base (digits ++ [last]) = digitsValue base digits * base + hexValue last := by
  rw [digitsValue, List.foldl_append]
  rfl

section
variable {base : Nat}

theorem digitsValue_toDigits (large : 1 < base) (small : base ≤ 16) (n : Nat) :
    digitsValue base (Nat.toDigits base n) = n := by
  induction n using Nat.strongRecOn with
  | ind n inductionHypothesis =>
      rw [Nat.toDigits_eq_if large]
      split
      · next single =>
          rw [← List.nil_append [Nat.digitChar n], digitsValue_concat,
            hexValue_digitChar n (by omega)]
          simp [digitsValue]
      · next several =>
          have fewer : n / base < n := Nat.div_lt_self (by omega) large
          have last : n % base < base := Nat.mod_lt n (by omega)
          rw [digitsValue_concat, inductionHypothesis _ fewer,
            hexValue_digitChar _ (by omega), Nat.div_add_mod']

theorem exists_digitChar_of_mem_toDigits (large : 1 < base) {n : Nat} {c : Char}
    (member : c ∈ Nat.toDigits base n) : ∃ digit < base, c = Nat.digitChar digit := by
  induction n using Nat.strongRecOn with
  | ind n inductionHypothesis =>
      rw [Nat.toDigits_eq_if large] at member
      split at member
      · next single => exact ⟨n, single, List.mem_singleton.mp member⟩
      · next several =>
          rcases List.mem_append.mp member with early | last
          · exact inductionHypothesis _ (Nat.div_lt_self (by omega) large) early
          · exact ⟨_, Nat.mod_lt n (by omega), List.mem_singleton.mp last⟩

/-- No number but zero itself is written with a zero first. -/
theorem head?_toDigits_ne_zero (large : 1 < base) (small : base ≤ 10) {n : Nat} (positive : n ≠ 0) :
    (Nat.toDigits base n).head? ≠ some '0' := by
  induction n using Nat.strongRecOn with
  | ind n inductionHypothesis =>
      rw [Nat.toDigits_eq_if large]
      split
      · next single =>
          intro zero
          exact digitChar_ne_zero n (by omega) positive (Option.some.inj zero)
      · next several =>
          have fewer : n / base < n := Nat.div_lt_self (by omega) large
          have nonzero : n / base ≠ 0 := by
            rw [Nat.div_ne_zero_iff]
            omega
          have early := inductionHypothesis _ fewer nonzero
          obtain ⟨first, rest, digits⟩ :=
            List.exists_cons_of_ne_nil (Nat.toDigits_ne_nil (n := n / base) (b := base))
          rw [digits] at early ⊢
          exact early

end

/-! ## Sixteen digits, and a width -/

theorem length_hexDigits {n : Nat} (small : n < 0x10000) : (hexDigits 4 n).length = 4 := by
  have most : (Nat.toDigits 16 n).length ≤ 4 :=
    (Nat.length_toDigits_le_iff (by decide) (by decide)).mpr small
  rw [hexDigits, List.length_append, List.length_replicate]
  omega

theorem all_isHexDigit_hexDigits (width n : Nat) :
    (hexDigits width n).all isHexDigit = true := by
  rw [hexDigits, List.all_append, Bool.and_eq_true]
  refine ⟨List.all_replicate.trans (by simp; right; decide), List.all_eq_true.mpr ?_⟩
  intro c member
  obtain ⟨digit, small, rfl⟩ := exists_digitChar_of_mem_toDigits (by decide) member
  exact isHexDigit_digitChar digit small

theorem digitsValue_zeros_append (base count : Nat) (digits : List Char) :
    digitsValue base (List.replicate count '0' ++ digits) = digitsValue base digits := by
  induction count with
  | zero => rfl
  | succ count inductionHypothesis =>
      rw [← inductionHypothesis, List.replicate_succ, List.cons_append, digitsValue,
        List.foldl_cons]
      have zero : hexValue '0' = 0 := rfl
      rw [zero, Nat.zero_mul]
      rfl

theorem digitsValue_hexDigits (width n : Nat) : digitsValue 16 (hexDigits width n) = n := by
  rw [hexDigits, digitsValue_zeros_append, digitsValue_toDigits (by decide) (by decide)]

end JsxFragment.Text
