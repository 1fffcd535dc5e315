import JsxFragment.Json.Reader
import JsxFragment.Proofs.Json.Part

/-!
# Names in what is read

Of two members with one name the reader keeps the place of the first and the value of the last. So
no object that is read has two members of one name.
-/

namespace JsxFragment.Json

/-! ## Putting members in -/

theorem map_fst_put (members : List (String × Json)) (name : String) (value : Json) :
    (put members name value).map Prod.fst =
      if name ∈ members.map Prod.fst then members.map Prod.fst
      else members.map Prod.fst ++ [name] := by
  have present : members.any (·.1 = name) = true ↔ name ∈ members.map Prod.fst := by
    simp [List.mem_map]
  unfold put
  by_cases there : members.any (·.1 = name) = true
  · rw [if_pos there, if_pos (present.mp there), List.map_map]
    refine List.map_congr_left fun member _ => ?_
    by_cases same : member.1 = name
    · simp [same]
    · simp [same]
  · rw [if_neg there, if_neg fun member => there (present.mpr member), List.map_append]
    rfl

theorem nodup_put {members : List (String × Json)} (distinct : (members.map Prod.fst).Nodup)
    (name : String) (value : Json) : ((put members name value).map Prod.fst).Nodup := by
  rw [map_fst_put]
  split
  · exact distinct
  · next new =>
      rw [List.nodup_append]
      refine ⟨distinct, List.pairwise_singleton _ name, ?_⟩
      rintro first member second only rfl
      exact new (List.mem_singleton.mp only ▸ member)

/-- What holds of the values of all members and of one more value holds of all once that is in. -/
theorem forall_mem_put {property : Json → Prop} {members : List (String × Json)}
    (all : ∀ member ∈ members, property member.2) {value : Json} (one : property value)
    (name : String) : ∀ member ∈ put members name value, property member.2 := by
  intro member held
  unfold put at held
  split at held
  · obtain ⟨old, oldHeld, rfl⟩ := List.mem_map.mp held
    split
    · exact one
    · exact all old oldHeld
  · rcases List.mem_append.mp held with old | new
    · exact all member old
    · rw [List.mem_singleton.mp new]
      exact one

theorem forall_mem_merge {property : Json → Prop} {members others : List (String × Json)}
    (all : ∀ member ∈ members, property member.2) (more : ∀ member ∈ others, property member.2) :
    ∀ member ∈ merge members others, property member.2 := by
  induction others generalizing members with
  | nil => exact all
  | cons other rest inductionHypothesis =>
      exact inductionHypothesis (forall_mem_put all (more other List.mem_cons_self) other.1)
        fun member held => more member (List.mem_cons_of_mem _ held)

theorem HasDistinctNames.put {members : List (String × Json)}
    (distinct : (object members).HasDistinctNames) {value : Json}
    (valueDistinct : value.HasDistinctNames) (name : String) :
    (object (put members name value)).HasDistinctNames := by
  rw [hasDistinctNames_object] at distinct ⊢
  exact ⟨nodup_put distinct.1 name value, forall_mem_put distinct.2 valueDistinct name⟩

/-! ## Reading -/

theorem hasDistinctNames_of_leaf {value : Json} (alone : value.parts = [value])
    (notObject : ∀ members, object members ≠ value) : value.HasDistinctNames := by
  intro members part
  rw [alone] at part
  exact absurd (List.mem_singleton.mp part) (notObject members)

section
variable {text rest : List Char}

theorem hasDistinctNames_of_readWord? {value : Json}
    (read : readWord? text = some (value, rest)) : value.HasDistinctNames := by
  obtain ⟨word, member, found⟩ := List.exists_of_findSome?_eq_some read
  obtain ⟨further, -, result⟩ := Option.map_eq_some_iff.mp found
  obtain rfl : word.2 = value := congrArg Prod.fst result
  simp only [words, List.mem_cons, List.not_mem_nil, or_false] at member
  rcases member with rfl | rfl | rfl | rfl | rfl | rfl <;>
    exact hasDistinctNames_of_leaf rfl fun _ => Json.noConfusion

theorem hasDistinctNames_of_readNumber {maxDigits : Nat} {value : Json}
    (read : readNumber maxDigits text = .ok (value, rest)) : value.HasDistinctNames := by
  have number : (∃ n, value = .whole n) ∨ ∃ x, value = .real x := by
    unfold readNumber at read
    grind
  obtain ⟨n, rfl⟩ | ⟨x, rfl⟩ := number
  · exact hasDistinctNames_of_leaf rfl fun _ => Json.noConfusion
  · exact hasDistinctNames_of_leaf rfl fun _ => Json.noConfusion

end

/-- Names are distinct in what is read with so much fuel. -/
structure ReadsDistinctNames (maxDigits fuel : Nat) : Prop where
  value : ∀ {room text value rest}, readValue maxDigits fuel room text = .ok (value, rest) →
    value.HasDistinctNames
  items : ∀ {room before text items rest}, (array before).HasDistinctNames →
    readItems maxDigits fuel room before text = .ok (items, rest) →
    (array items).HasDistinctNames
  members : ∀ {room before text members rest}, (object before).HasDistinctNames →
    readMembers maxDigits fuel room before text = .ok (members, rest) →
    (object members).HasDistinctNames

section
variable {maxDigits fuel room : Nat} {text rest : List Char}

theorem ReadsDistinctNames.nextValue (less : ReadsDistinctNames maxDigits fuel) {value : Json}
    (read : readValue maxDigits (fuel + 1) room text = .ok (value, rest)) :
    value.HasDistinctNames := by
  have noItems : (array []).HasDistinctNames := hasDistinctNames_array.mpr nofun
  have noMembers : (object []).HasDistinctNames :=
    hasDistinctNames_object.mpr ⟨List.nodup_nil, nofun⟩
  unfold readValue at read
  split at read
  · split at read
    · cases read
    · cases read
      exact hasDistinctNames_of_leaf rfl fun _ => Json.noConfusion
  · split at read
    · cases read
    split at read
    · cases read
      exact noItems
    split at read
    · cases read
    · next inside =>
        cases read
        exact less.items noItems inside
  · split at read
    · cases read
    split at read
    · cases read
      exact noMembers
    split at read
    · cases read
    · next inside =>
        cases read
        exact less.members noMembers inside
  · split at read
    · next word =>
        cases read
        exact hasDistinctNames_of_readWord? word
    · exact hasDistinctNames_of_readNumber read

theorem ReadsDistinctNames.nextItems (less : ReadsDistinctNames maxDigits fuel)
    {before items : List Json} (distinct : (array before).HasDistinctNames)
    (read : readItems maxDigits (fuel + 1) room before text = .ok (items, rest)) :
    (array items).HasDistinctNames := by
  unfold readItems at read
  split at read
  · cases read
  · next value tail first =>
      have more : (array (value :: before)).HasDistinctNames := by
        rw [hasDistinctNames_array] at distinct ⊢
        exact List.forall_mem_cons.mpr ⟨less.value first, distinct⟩
      split at read
      · cases read
        rw [hasDistinctNames_array] at more ⊢
        exact fun item member => more item (List.mem_reverse.mp member)
      · exact less.items more read
      · cases read

theorem ReadsDistinctNames.nextMembers (less : ReadsDistinctNames maxDigits fuel)
    {before members : List (String × Json)} (distinct : (object before).HasDistinctNames)
    (read : readMembers maxDigits (fuel + 1) room before text = .ok (members, rest)) :
    (object members).HasDistinctNames := by
  unfold readMembers at read
  split at read
  · split at read
    · cases read
    split at read
    · split at read
      · cases read
      · next first =>
          have more := distinct.put (less.value first)
          split at read
          · cases read
            exact more _
          · exact less.members (more _) read
          · cases read
    · cases read
  · cases read

end

/-- What is read is read of parts with less fuel. -/
theorem readsDistinctNames (maxDigits fuel : Nat) : ReadsDistinctNames maxDigits fuel := by
  induction fuel with
  | zero =>
      constructor <;> intros <;> simp_all [readValue, readItems, readMembers]
  | succ fuel less => exact ⟨less.nextValue, less.nextItems, less.nextMembers⟩

/-- No object in a value that is read from a text has two members of one name. -/
theorem hasDistinctNames_of_readText {maxDigits maxLevels : Nat} {text : List Char} {value : Json}
    (read : readText maxDigits maxLevels text = .ok value) : value.HasDistinctNames := by
  unfold readText at read
  split at read
  · cases read
  split at read
  · cases read
  · next first =>
      split at read
      · cases read
        exact (readsDistinctNames maxDigits _).value first
      · cases read

end JsxFragment.Json
