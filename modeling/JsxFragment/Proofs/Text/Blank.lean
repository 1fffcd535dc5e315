import JsxFragment.Text.Blank
import Mathlib.Data.List.TakeWhile

/-!
# Blanks

What trimming and collapsing leave of the blanks of a text.
-/

namespace JsxFragment.Text

theorem isBlank_space : isBlank ' ' = true := by decide

theorem mem_of_mem_trim {c : Char} {text : List Char} (member : c ∈ trim text) : c ∈ text := by
  have atStart : c ∈ trimStart text := by
    simpa [trimEnd] using (List.dropWhile_sublist isBlank).mem (List.mem_reverse.mp member)
  exact (List.dropWhile_sublist isBlank).mem atStart

theorem isBlank_of_head?_dropWhile {c : Char} (text : List Char)
    (head : c ∈ (text.dropWhile isBlank).head?) : isBlank c = false := by
  have first := List.head?_dropWhile_not isBlank text
  rw [Option.mem_def.mp head] at first
  exact first

theorem isBlank_of_head?_trim {c : Char} (text : List Char) (head : c ∈ (trim text).head?) :
    isBlank c = false := by
  have isPrefix : trim text <+: trimStart text := by
    rw [trim, trimEnd, ← List.reverse_suffix, List.reverse_reverse]
    exact List.dropWhile_suffix isBlank
  obtain ⟨rest, equality⟩ := isPrefix
  refine isBlank_of_head?_dropWhile text ?_
  change c ∈ (trimStart text).head?
  rw [← equality, List.head?_append, Option.mem_def.mp head]
  rfl

theorem isBlank_of_getLast?_trim {c : Char} (text : List Char) (last : c ∈ (trim text).getLast?) :
    isBlank c = false := by
  rw [trim, trimEnd, List.getLast?_reverse] at last
  exact isBlank_of_head?_dropWhile _ last

theorem dropWhile_isBlank_eq_self {text : List Char} (first : ∀ c ∈ text.head?, isBlank c = false) :
    text.dropWhile isBlank = text := by
  cases text with
  | nil => rfl
  | cons c rest => exact List.dropWhile_cons_of_neg (by simp [first c rfl])

theorem takeWhile_isBlank_eq_nil {text : List Char} (noBlank : ∀ c ∈ text, isBlank c = false) :
    text.takeWhile isBlank = [] := by
  cases text with
  | nil => rfl
  | cons c rest => simp [noBlank c List.mem_cons_self]

/-- A text without a blank at either end has nothing to trim. -/
theorem trim_eq_self_of_ends {text : List Char} (first : ∀ c ∈ text.head?, isBlank c = false)
    (last : ∀ c ∈ text.getLast?, isBlank c = false) : trim text = text := by
  have reversed : ∀ c ∈ text.reverse.head?, isBlank c = false := by
    rwa [List.head?_reverse]
  rw [trim, trimStart, dropWhile_isBlank_eq_self first, trimEnd,
    dropWhile_isBlank_eq_self reversed, List.reverse_reverse]

theorem trim_eq_self {text : List Char} (noBlank : ∀ c ∈ text, isBlank c = false) :
    trim text = text :=
  trim_eq_self_of_ends (fun c head => noBlank c (List.mem_of_mem_head? head))
    fun c last => noBlank c (List.mem_of_getLast? last)

theorem trim_space_cons (text : List Char) : trim (' ' :: text) = trim text := by
  rw [trim, trim, trimStart, List.dropWhile_cons_of_pos isBlank_space, trimStart]

theorem trim_eq_nil_iff {text : List Char} : trim text = [] ↔ ∀ c ∈ text, isBlank c = true := by
  rw [trim, trimEnd, List.reverse_eq_nil_iff, List.dropWhile_eq_nil_iff]
  simp only [List.mem_reverse]
  constructor
  · intro blank
    have dropped : trimStart text = [] := by
      cases rest : trimStart text with
      | nil => rfl
      | cons c others =>
          have letter := isBlank_of_head?_dropWhile text (c := c)
            (by rw [← trimStart, rest]; rfl)
          exact absurd (blank c (rest ▸ List.mem_cons_self)) (by simp [letter])
    exact List.dropWhile_eq_nil_iff.mp dropped
  · exact fun blank c member => blank c ((List.dropWhile_sublist isBlank).mem member)

theorem collapseBlanks_cons (c : Char) (text : List Char) :
    collapseBlanks (c :: text) =
      if isBlank c then
        if (collapseBlanks text).head? = some ' ' then collapseBlanks text
        else ' ' :: collapseBlanks text
      else c :: collapseBlanks text := by
  unfold collapseBlanks
  rw [List.foldr_cons]

theorem eq_space_of_mem_collapseBlanks {c : Char} {text : List Char}
    (member : c ∈ collapseBlanks text) : isBlank c = false ∨ c = ' ' := by
  induction text with
  | nil => simp [collapseBlanks] at member
  | cons d text inductionHypothesis =>
      rw [collapseBlanks_cons] at member
      split at member
      · split at member
        · exact inductionHypothesis member
        · rcases List.mem_cons.mp member with rfl | later
          · exact Or.inr rfl
          · exact inductionHypothesis later
      · next notBlank =>
          rcases List.mem_cons.mp member with rfl | later
          · exact Or.inl (by simpa using notBlank)
          · exact inductionHypothesis later

theorem collapseBlanks_eq_self {text : List Char} (noBlank : ∀ c ∈ text, isBlank c = false) :
    collapseBlanks text = text := by
  induction text with
  | nil => rfl
  | cons c text inductionHypothesis =>
      obtain ⟨notBlank, others⟩ := List.forall_mem_cons.mp noBlank
      rw [collapseBlanks_cons, notBlank, inductionHypothesis others]
      rfl

/-! ## Collapsing parts of a text -/

theorem collapseBlanks_cons_of_letter {c : Char} (letter : isBlank c = false) (text : List Char) :
    collapseBlanks (c :: text) = c :: collapseBlanks text := by
  rw [collapseBlanks_cons, letter]
  rfl

theorem head?_collapseBlanks_cons_of_blank {c : Char} (blank : isBlank c = true)
    (text : List Char) : (collapseBlanks (c :: text)).head? = some ' ' := by
  rw [collapseBlanks_cons, if_pos blank]
  split
  · assumption
  · rfl

theorem collapseBlanks_of_blank {blanks : List Char} (blank : ∀ c ∈ blanks, isBlank c = true) :
    collapseBlanks blanks = if blanks.isEmpty then [] else [' '] := by
  induction blanks with
  | nil => rfl
  | cons c blanks inductionHypothesis =>
      obtain ⟨first, others⟩ := List.forall_mem_cons.mp blank
      rw [collapseBlanks_cons, if_pos first, inductionHypothesis others]
      cases blanks <;> rfl

theorem collapseBlanks_collapseBlanks (text : List Char) :
    collapseBlanks (collapseBlanks text) = collapseBlanks text := by
  induction text with
  | nil => rfl
  | cons c text inductionHypothesis =>
      rw [collapseBlanks_cons]
      split
      · split
        · exact inductionHypothesis
        · next notSpace =>
            rw [collapseBlanks_cons, if_pos isBlank_space, inductionHypothesis, if_neg notSpace]
      · next letter =>
          rw [collapseBlanks_cons_of_letter (by simpa using letter), inductionHypothesis]

theorem collapseBlanks_collapseBlanks_append (first second : List Char) :
    collapseBlanks (collapseBlanks first ++ second) = collapseBlanks (first ++ second) := by
  induction first with
  | nil => rfl
  | cons c first inductionHypothesis =>
      rw [List.cons_append, collapseBlanks_cons, collapseBlanks_cons c (first ++ second)]
      split
      · next blank =>
          split
          · next isSpace =>
              obtain ⟨rest, collapsed⟩ := List.head?_eq_some_iff.mp isSpace
              have begins : (collapseBlanks (first ++ second)).head? = some ' ' := by
                rw [← inductionHypothesis, collapsed, List.cons_append]
                exact head?_collapseBlanks_cons_of_blank isBlank_space _
              rw [inductionHypothesis, if_pos begins]
          · rw [List.cons_append, collapseBlanks_cons, if_pos isBlank_space, inductionHypothesis]
      · next letter =>
          rw [List.cons_append, collapseBlanks_cons_of_letter (by simpa using letter),
            inductionHypothesis]

theorem collapseBlanks_append_collapseBlanks (first second : List Char) :
    collapseBlanks (first ++ collapseBlanks second) = collapseBlanks (first ++ second) := by
  induction first with
  | nil => exact collapseBlanks_collapseBlanks second
  | cons c first inductionHypothesis =>
      rw [List.cons_append, List.cons_append, collapseBlanks_cons, inductionHypothesis,
        ← collapseBlanks_cons]

/-- What texts are collapsed to does not depend on more of their parts than what these are collapsed
to. -/
theorem collapseBlanks_append_congr {first second others following : List Char}
    (same : collapseBlanks first = collapseBlanks others)
    (sameAfter : collapseBlanks second = collapseBlanks following) :
    collapseBlanks (first ++ second) = collapseBlanks (others ++ following) := by
  rw [← collapseBlanks_collapseBlanks_append, ← collapseBlanks_append_collapseBlanks, same,
    sameAfter, collapseBlanks_append_collapseBlanks, collapseBlanks_collapseBlanks_append]

/-! ## Blanks at the ends -/

section Ends

variable {c : Char} (letter : isBlank c = false) (before after : List Char)

include letter

theorem trimEnd_append_cons_of_letter :
    trimEnd (before ++ c :: after) = before ++ c :: trimEnd after := by
  have kept : (c :: before.reverse).dropWhile isBlank = c :: before.reverse :=
    List.dropWhile_cons_of_neg (by simp [letter])
  have parted : (before ++ c :: after).reverse = after.reverse ++ c :: before.reverse := by simp
  rw [trimEnd, trimEnd, parted, List.dropWhile_append, kept]
  split
  · next allBlank => simp [List.isEmpty_iff.mp allBlank]
  · simp

theorem trailingBlanks_append_cons_of_letter :
    trailingBlanks (before ++ c :: after) = trailingBlanks after := by
  have stops : (c :: before.reverse).takeWhile isBlank = [] :=
    List.takeWhile_cons_of_neg (by simp [letter])
  have parted : (before ++ c :: after).reverse = after.reverse ++ c :: before.reverse := by simp
  rw [trailingBlanks, trailingBlanks, parted, List.takeWhile_append, stops]
  split
  · next whole =>
      rw [List.append_nil, (List.takeWhile_prefix isBlank).eq_of_length whole]
  · rfl

theorem leadingBlanks_append_cons_of_letter {blanks : List Char}
    (blank : ∀ d ∈ blanks, isBlank d = true) : leadingBlanks (blanks ++ c :: after) = blanks := by
  rw [leadingBlanks, List.takeWhile_append_of_pos blank,
    List.takeWhile_cons_of_neg (by simp [letter]), List.append_nil]

theorem collapseBlanks_append_cons_of_letter {blanks : List Char}
    (blank : ∀ d ∈ blanks, isBlank d = true) :
    collapseBlanks (blanks ++ c :: after) =
      (if blanks.isEmpty then [] else [' ']) ++ c :: collapseBlanks after := by
  induction blanks with
  | nil => exact collapseBlanks_cons_of_letter letter after
  | cons d blanks inductionHypothesis =>
      obtain ⟨first, others⟩ := List.forall_mem_cons.mp blank
      rw [List.cons_append, collapseBlanks_cons, if_pos first, inductionHypothesis others]
      cases blanks with
      | cons _ _ => rfl
      | nil =>
          have notSpace : c ≠ ' ' := by
            rintro rfl
            exact absurd letter (by decide)
          simp [notSpace]

end Ends

section Blank

variable {blanks : List Char} (blank : ∀ c ∈ blanks, isBlank c = true)

include blank

theorem trimEnd_of_blank : trimEnd blanks = [] := by
  have reversed : ∀ c ∈ blanks.reverse, isBlank c = true := by simpa using blank
  have dropped := @List.dropWhile_append_of_pos _ isBlank _ [] reversed
  rw [List.append_nil, List.dropWhile_nil] at dropped
  rw [trimEnd, dropped, List.reverse_nil]

theorem trailingBlanks_of_blank : trailingBlanks blanks = blanks := by
  have reversed : ∀ c ∈ blanks.reverse, isBlank c = true := by simpa using blank
  have taken := @List.takeWhile_append_of_pos _ isBlank _ [] reversed
  rw [List.append_nil, List.takeWhile_nil, List.append_nil] at taken
  rw [trailingBlanks, taken, List.reverse_reverse]

end Blank

theorem trim_append_space (text : List Char) : trim (text ++ [' ']) = trim text := by
  have dropped (rest : List Char) : trimEnd (rest ++ [' ']) = trimEnd rest := by
    simp [trimEnd, isBlank_space]
  rw [trim, trim, trimStart, trimStart, List.dropWhile_append]
  split
  · next allBlank =>
      rw [List.isEmpty_iff.mp allBlank, List.dropWhile_cons_of_pos isBlank_space,
        List.dropWhile_nil]
  · exact dropped _

theorem collapseBlanks_append_space (text : List Char) :
    collapseBlanks (text ++ [' ']) = collapseBlanks text ∨
      collapseBlanks (text ++ [' ']) = collapseBlanks text ++ [' '] := by
  induction text with
  | nil => exact Or.inr rfl
  | cons c text inductionHypothesis =>
      rw [List.cons_append, collapseBlanks_cons, collapseBlanks_cons]
      split
      · rcases inductionHypothesis with same | longer
        · exact Or.inl (by rw [same])
        · rw [longer]
          cases collapseBlanks text with
          | nil => exact Or.inl rfl
          | cons first rest =>
              rw [List.cons_append, List.head?_cons, List.head?_cons]
              split
              · exact Or.inr rfl
              · exact Or.inr rfl
      · rcases inductionHypothesis with same | longer
        · exact Or.inl (by rw [same])
        · exact Or.inr (by rw [longer, List.cons_append])

/-- Spaces at the ends of a text make no difference once it is collapsed and trimmed. -/
theorem trim_collapseBlanks_between_spaces (text : List Char) :
    trim (collapseBlanks (' ' :: (text ++ [' ']))) = trim (collapseBlanks text) := by
  have atStart (rest : List Char) :
      trim (collapseBlanks (' ' :: rest)) = trim (collapseBlanks rest) := by
    rw [collapseBlanks_cons, if_pos isBlank_space]
    split
    · rfl
    · exact trim_space_cons _
  rw [atStart]
  rcases collapseBlanks_append_space text with same | longer
  · rw [same]
  · rw [longer, trim_append_space]

end JsxFragment.Text
