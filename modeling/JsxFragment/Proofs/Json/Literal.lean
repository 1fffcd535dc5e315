import JsxFragment.Json.Reader
import JsxFragment.Json.Writer
import JsxFragment.Proofs.Text.Digits

/-!
# Reading string literals back

A string literal is read as the text that it was written for, whatever follows it, both with the
fewest escapes and in ASCII alone.
-/

namespace JsxFragment.Json

open Text

/-! ## Four digits -/

theorem fourDigits?_hexDigits {n : Nat} (small : n < 0x10000) (rest : List Char) :
    fourDigits? (hexDigits 4 n ++ rest) = some (n, rest) := by
  have length : (hexDigits 4 n).length = 4 := length_hexDigits small
  have taken : (hexDigits 4 n ++ rest).take 4 = hexDigits 4 n := List.take_left' length
  have dropped : (hexDigits 4 n ++ rest).drop 4 = rest := List.drop_left' length
  unfold fourDigits?
  simp only [taken, dropped, length, all_isHexDigit_hexDigits, digitsValue_hexDigits, decide_true,
    Bool.and_self, if_true]

theorem drop_hexDigits {n : Nat} (small : n < 0x10000) (rest : List Char) :
    (hexDigits 4 n ++ rest).drop 4 = rest :=
  List.drop_left' (length_hexDigits small)

/-- A character is never half of a surrogate pair. -/
theorem toNat_not_surrogate (c : Char) : c.toNat < 0xD800 ∨ 0xDFFF < c.toNat ∧ c.toNat < 0x110000 :=
  c.valid

theorem readUnicodeEscape_basic {c : Char} {rest : List Char} (basic : c.toNat < 0x10000)
    (more : rest ≠ []) : readUnicodeEscape (hexDigits 4 c.toNat ++ rest) = .ok (c, rest) := by
  have valid := toNat_not_surrogate c
  have notHigh : ¬(0xD800 ≤ c.toNat ∧ c.toNat ≤ 0xDBFF) := by omega
  have notHalf : ¬(0xD800 ≤ c.toNat ∧ c.toNat ≤ 0xDFFF) := by omega
  have unit : ofUnit c.toNat = c := by
    simp only [ofUnit, Bool.and_eq_true, decide_eq_true_eq, if_neg notHalf, Char.ofNat_toNat]
  unfold readUnicodeEscape
  simp only [drop_hexDigits basic, fourDigits?_hexDigits basic, unit, Bool.and_eq_true,
    decide_eq_true_eq, List.isEmpty_iff, if_neg more]
  rw [if_neg fun high => notHigh high.1]

theorem readUnicodeEscape_units {high low : Nat} {rest : List Char}
    (highRange : 0xD800 ≤ high ∧ high ≤ 0xDBFF) (lowRange : 0xDC00 ≤ low ∧ low ≤ 0xDFFF)
    (more : rest ≠ []) :
    readUnicodeEscape (hexDigits 4 high ++ '\\' :: 'u' :: (hexDigits 4 low ++ rest)) =
      .ok (Char.ofNat (0x10000 + (high - 0xD800) * 0x400 + (low - 0xDC00)), rest) := by
  have highSmall : high < 0x10000 := by omega
  have lowSmall : low < 0x10000 := by omega
  have second : after? "\\u" ('\\' :: 'u' :: (hexDigits 4 low ++ rest)) =
      some (hexDigits 4 low ++ rest) :=
    rfl
  have following : ('\\' :: 'u' :: (hexDigits 4 low ++ rest)).drop 6 = rest :=
    drop_hexDigits lowSmall rest
  unfold readUnicodeEscape
  simp only [drop_hexDigits highSmall, fourDigits?_hexDigits highSmall, second, following,
    fourDigits?_hexDigits lowSmall]
  simp only [List.isEmpty_cons, Bool.false_eq_true, if_false, Bool.and_eq_true, decide_eq_true_eq,
    Bool.not_eq_true', List.isEmpty_eq_false_iff, highRange, lowRange, more, and_self, ne_eq,
    not_false_eq_true, if_true]

theorem readUnicodeEscape_pair {c : Char} {rest : List Char} (beyond : 0x10000 ≤ c.toNat)
    (more : rest ≠ []) :
    readUnicodeEscape
        (hexDigits 4 (0xD800 + (c.toNat - 0x10000) / 0x400)
          ++ '\\' :: 'u' :: (hexDigits 4 (0xDC00 + (c.toNat - 0x10000) % 0x400) ++ rest)) =
      .ok (c, rest) := by
  have valid := toNat_not_surrogate c
  rw [readUnicodeEscape_units (by omega) (by omega) more]
  have joined :
      0x10000 + (0xD800 + (c.toNat - 0x10000) / 0x400 - 0xD800) * 0x400
        + (0xDC00 + (c.toNat - 0x10000) % 0x400 - 0xDC00) = c.toNat := by
    omega
  rw [joined, Char.ofNat_toNat]

/-! ## One character -/

/-- The reader takes an escaped character in one step. -/
def Undoes (escape : Char → List Char) : Prop :=
  ∀ (c : Char) {rest : List Char}, rest ≠ [] → ∀ (start : List Char) (fuel : Nat)
    (before : List Char),
    readString start (fuel + 1) before (escape c ++ rest) = readString start fuel (c :: before) rest

theorem readString_unicodeEscape {c : Char} {escaped rest : List Char}
    (read : readUnicodeEscape escaped = .ok (c, rest)) (start : List Char) (fuel : Nat)
    (before : List Char) :
    readString start (fuel + 1) before ('\\' :: 'u' :: escaped) =
      readString start fuel (c :: before) rest := by
  simp only [readString, read]

theorem readString_escapeControl {c : Char} {rest : List Char} (control : c.toNat < 0x20)
    (more : rest ≠ []) (start : List Char) (fuel : Nat) (before : List Char) :
    readString start (fuel + 1) before (escapeControl c ++ rest) =
      readString start fuel (c :: before) rest := by
  unfold escapeControl
  split
  · next lineFeed => simp [readString, unescape?, lineFeed]
  split
  · next carriageReturn => simp [readString, unescape?, carriageReturn]
  split
  · next tab => simp [readString, unescape?, tab]
  split
  · next backspace => simp [readString, unescape?, backspace]
  split
  · next formFeed => simp [readString, unescape?, formFeed]
  · have basic : c.toNat < 0x10000 := by omega
    exact readString_unicodeEscape (readUnicodeEscape_basic basic more) start fuel before

theorem readString_escapeQuoted {c : Char} (quoted : (c = '"' || c = '\\') = true)
    (rest start : List Char) (fuel : Nat) (before : List Char) :
    readString start (fuel + 1) before (['\\', c] ++ rest) =
      readString start fuel (c :: before) rest := by
  have either : c = '"' ∨ c = '\\' := by simpa using quoted
  rcases either with rfl | rfl
  · simp [readString, unescape?]
  · simp [readString, unescape?]

theorem readString_plain {c : Char} (plain : ¬(c = '"' || c = '\\') = true)
    (large : ¬c.toNat < 0x20) (rest start : List Char) (fuel : Nat) (before : List Char) :
    readString start (fuel + 1) before ([c] ++ rest) =
      readString start fuel (c :: before) rest := by
  have notQuote : c ≠ '"' := by
    rintro rfl
    exact plain rfl
  have notBackslash : c ≠ '\\' := by
    rintro rfl
    exact plain rfl
  rw [List.singleton_append, readString.eq_def]
  simp [large]

theorem undoes_escapeChar : Undoes escapeChar := by
  intro c rest more start fuel before
  unfold escapeChar
  split
  · next quoted => exact readString_escapeQuoted quoted rest start fuel before
  split
  · next control => exact readString_escapeControl control more start fuel before
  · next plain large => exact readString_plain plain large rest start fuel before

theorem undoes_escapeAsciiChar : Undoes escapeAsciiChar := by
  intro c rest more start fuel before
  unfold escapeAsciiChar
  dsimp only
  split
  · next quoted => exact readString_escapeQuoted quoted rest start fuel before
  split
  · next control => exact readString_escapeControl control more start fuel before
  split
  · next plain large _ => exact readString_plain plain large rest start fuel before
  split
  · next basic =>
      exact readString_unicodeEscape (readUnicodeEscape_basic basic more) start fuel before
  · next beyond =>
      have pair := readUnicodeEscape_pair (Nat.le_of_not_lt beyond) more
      rw [List.cons_append, List.cons_append, List.cons_append, List.cons_append,
        List.append_assoc, List.cons_append, List.cons_append]
      exact readString_unicodeEscape pair start fuel before

/-! ## Whole literals -/

section
variable {escape : Char → List Char}

theorem Undoes.readString_flatMap (undoes : Undoes escape) (start content rest before : List Char) :
    ∀ fuel, content.length < fuel →
      readString start fuel before (content.flatMap escape ++ '"' :: rest) =
        .ok (String.ofList (before.reverse ++ content), rest) := by
  induction content generalizing before with
  | nil =>
      intro fuel enough
      obtain ⟨fuel, rfl⟩ : ∃ n, fuel = n + 1 := ⟨fuel - 1, by simp at enough; omega⟩
      simp [readString]
  | cons c content inductionHypothesis =>
      intro fuel enough
      obtain ⟨fuel, rfl⟩ : ∃ n, fuel = n + 1 := ⟨fuel - 1, by simp at enough; omega⟩
      rw [List.flatMap_cons, List.append_assoc, undoes c (by simp),
        inductionHypothesis (c :: before) fuel (by simpa using enough)]
      simp

theorem length_le_length_flatMap (nonempty : ∀ c, escape c ≠ []) (content : List Char) :
    content.length ≤ (content.flatMap escape).length := by
  induction content with
  | nil => simp
  | cons c content inductionHypothesis =>
      have positive := List.length_pos_iff.mpr (nonempty c)
      rw [List.flatMap_cons, List.length_append, List.length_cons]
      omega

end

theorem escapeChar_ne_nil (c : Char) : escapeChar c ≠ [] := by
  unfold escapeChar escapeControl
  grind

theorem escapeAsciiChar_ne_nil (c : Char) : escapeAsciiChar c ≠ [] := by
  unfold escapeAsciiChar escapeControl
  grind

end JsxFragment.Json
