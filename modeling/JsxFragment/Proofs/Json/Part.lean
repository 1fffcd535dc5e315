import JsxFragment.Json

/-!
# The parts of a value

A value is a part of itself, and so are the parts of the values in it.
-/

namespace JsxFragment.Json

/-- What holds of every value that holds no others, of every array if it holds of its items, and of
every object if it holds of the values of its members, holds of all values. -/
@[elab_as_elim]
theorem inductionOn {motive : Json → Prop} (value : Json) (null : motive .null)
    (bool : ∀ value, motive (.bool value)) (whole : ∀ value, motive (.whole value))
    (real : ∀ value, motive (.real value)) (string : ∀ value, motive (.string value))
    (array : ∀ items, (∀ item ∈ items, motive item) → motive (.array items))
    (object : ∀ members, (∀ member ∈ members, motive member.2) → motive (.object members)) :
    motive value := by
  induction sizeLe : sizeOf value using Nat.strongRecOn generalizing value with
  | ind size inductionHypothesis =>
      subst sizeLe
      cases value with
      | null => exact null
      | bool value => exact bool value
      | whole value => exact whole value
      | real value => exact real value
      | string value => exact string value
      | array items =>
          refine array items fun item held => inductionHypothesis _ ?_ item rfl
          have smaller := List.sizeOf_lt_of_mem held
          simp only [Json.array.sizeOf_spec]
          omega
      | object members =>
          refine object members fun member held => inductionHypothesis _ ?_ member.2 rfl
          have smaller := List.sizeOf_lt_of_mem held
          obtain ⟨name, value⟩ := member
          simp only [Json.object.sizeOf_spec, Prod.mk.sizeOf_spec] at smaller ⊢
          omega

mutual

/-- The parts of a value. -/
def parts : Json → List Json
  | .array items => .array items :: partsOfItems items
  | .object members => .object members :: partsOfMembers members
  | value => [value]

/-- The parts of several values. -/
def partsOfItems : List Json → List Json
  | [] => []
  | item :: rest => parts item ++ partsOfItems rest

/-- The parts of the values of members. -/
def partsOfMembers : List (String × Json) → List Json
  | [] => []
  | (_, value) :: rest => parts value ++ partsOfMembers rest

end

theorem mem_partsOfItems {part : Json} {items : List Json} :
    part ∈ partsOfItems items ↔ ∃ item ∈ items, part ∈ item.parts := by
  induction items with
  | nil => simp [partsOfItems]
  | cons item rest inductionHypothesis =>
      simp only [partsOfItems, List.mem_append, List.mem_cons, exists_eq_or_imp,
        inductionHypothesis]

theorem mem_partsOfMembers {part : Json} {members : List (String × Json)} :
    part ∈ partsOfMembers members ↔ ∃ member ∈ members, part ∈ member.2.parts := by
  induction members with
  | nil => simp [partsOfMembers]
  | cons member rest inductionHypothesis =>
      obtain ⟨name, value⟩ := member
      simp only [partsOfMembers, List.mem_append, List.mem_cons, exists_eq_or_imp,
        inductionHypothesis]

theorem mem_parts_array {part : Json} {items : List Json} :
    part ∈ (array items).parts ↔ part = .array items ∨ ∃ item ∈ items, part ∈ item.parts := by
  rw [parts, List.mem_cons, mem_partsOfItems]

theorem mem_parts_object {part : Json} {members : List (String × Json)} :
    part ∈ (object members).parts ↔
      part = .object members ∨ ∃ member ∈ members, part ∈ member.2.parts := by
  rw [parts, List.mem_cons, mem_partsOfMembers]

/-- In no object that is part of the value do two members have one name. -/
def HasDistinctNames (value : Json) : Prop :=
  ∀ members, .object members ∈ value.parts → (members.map Prod.fst).Nodup

theorem hasDistinctNames_array {items : List Json} :
    (array items).HasDistinctNames ↔ ∀ item ∈ items, item.HasDistinctNames := by
  simp only [HasDistinctNames, mem_parts_array, reduceCtorEq, false_or]
  exact ⟨fun all item held members part => all members ⟨item, held, part⟩,
    fun all members ⟨item, held, part⟩ => all item held members part⟩

theorem hasDistinctNames_object {members : List (String × Json)} :
    (object members).HasDistinctNames ↔
      (members.map Prod.fst).Nodup ∧ ∀ member ∈ members, member.2.HasDistinctNames := by
  simp only [HasDistinctNames, mem_parts_object, object.injEq]
  constructor
  · intro all
    exact ⟨all members (Or.inl rfl),
      fun member held others part => all others (Or.inr ⟨member, held, part⟩)⟩
  · rintro ⟨own, inside⟩ others (rfl | ⟨member, held, part⟩)
    · exact own
    · exact inside member held others part

end JsxFragment.Json
