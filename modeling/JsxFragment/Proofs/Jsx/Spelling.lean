import JsxFragment.Jsx.AttributeName
import Mathlib.Data.List.Nodup
import Mathlib.Data.List.Pairwise

/-!
# The table of spellings

An attribute name is looked up in lower case, and its spelling in JSX may be looked up again. No
name is an answer to two questions: what an entry is found by, and its spelling in lower case, leads
to no other entry.
-/

namespace JsxFragment.Jsx

open Text

/-- The names in lower case by which an entry of the table could be asked for. -/
def entryNames (entry : String × String) : List String :=
  if lower entry.2 = entry.1 then [entry.1] else [entry.1, lower entry.2]

/-- A number that tells a name apart; numbers are compared faster than texts. -/
def nameCode (name : String) : Nat :=
  name.toByteArray.data.toList.foldl (fun code byte => code * 256 + byte.toNat) 0

theorem attributeNames_distinct :
    (∀ entry ∈ attributeNames,
        isAttributeName entry.2 = true ∧ entry.1 ≠ "style" ∧ lower entry.2 ≠ "style") ∧
      (attributeNames.flatMap fun entry => (entryNames entry).map nameCode).Nodup := by
  decide +kernel

theorem mem_entryNames_key (entry : String × String) : entry.1 ∈ entryNames entry := by
  unfold entryNames
  split <;> simp

theorem mem_entryNames_lower (entry : String × String) : lower entry.2 ∈ entryNames entry := by
  unfold entryNames
  split <;> simp_all

/-- No two entries of the table could be asked for by one name. -/
theorem eq_of_mem_entryNames {first second : String × String} {name : String}
    (inFirst : first ∈ attributeNames) (inSecond : second ∈ attributeNames)
    (ofFirst : name ∈ entryNames first) (ofSecond : name ∈ entryNames second) :
    first = second := by
  let codes := fun entry => (entryNames entry).map nameCode
  have symmetric : Std.Symm (Function.onFun List.Disjoint codes) :=
    ⟨fun _ _ disjoint _ inSecond inFirst => disjoint inFirst inSecond⟩
  by_contra different
  have apart : List.Disjoint (codes first) (codes second) :=
    (List.nodup_flatMap.mp attributeNames_distinct.2).2.forall inFirst inSecond different
  exact apart (List.mem_map_of_mem ofFirst) (List.mem_map_of_mem ofSecond)

theorem attributeName_of_mem {name spelling : String}
    (listed : (lower name, spelling) ∈ attributeNames) : attributeName name = spelling := by
  unfold attributeName
  cases found : attributeNames.lookup (lower name) with
  | none =>
      have absent := List.lookup_eq_none_iff.mp found _ listed
      exact absurd absent (by simp)
  | some other =>
      obtain ⟨before, after, split, _⟩ := List.lookup_eq_some_iff.mp found
      have otherListed : (lower name, other) ∈ attributeNames := by simp [split]
      have same := eq_of_mem_entryNames otherListed listed (mem_entryNames_key _)
        (mem_entryNames_key (lower name, spelling))
      exact congrArg Prod.snd same

theorem attributeName_of_not_mem {name : String}
    (unlisted : ∀ spelling, (lower name, spelling) ∉ attributeNames) :
    attributeName name = name := by
  unfold attributeName
  cases found : attributeNames.lookup (lower name) with
  | none => rfl
  | some spelling =>
      obtain ⟨before, after, split, _⟩ := List.lookup_eq_some_iff.mp found
      exact absurd (by simp [split]) (unlisted spelling)

theorem attributeName_spelling {key spelling : String}
    (listed : (key, spelling) ∈ attributeNames) : attributeName spelling = spelling := by
  by_cases known : ∃ other, (lower spelling, other) ∈ attributeNames
  · obtain ⟨other, otherListed⟩ := known
    have same := eq_of_mem_entryNames otherListed listed (mem_entryNames_key _)
      (mem_entryNames_lower (key, spelling))
    rw [attributeName_of_mem otherListed]
    exact congrArg Prod.snd same
  · exact attributeName_of_not_mem (not_exists.mp known)

theorem key_eq_of_spelling {first second spelling : String}
    (inFirst : (first, spelling) ∈ attributeNames)
    (inSecond : (second, spelling) ∈ attributeNames) : first = second := by
  have same := eq_of_mem_entryNames inFirst inSecond (mem_entryNames_lower _)
    (mem_entryNames_lower (second, spelling))
  exact congrArg Prod.fst same

theorem isAttributeName_spelling {key spelling : String}
    (listed : (key, spelling) ∈ attributeNames) : isAttributeName spelling = true :=
  (attributeNames_distinct.1 (key, spelling) listed).1

/-- A style is neither asked for nor spelled by the table. -/
theorem ne_style_of_mem {key spelling : String} (listed : (key, spelling) ∈ attributeNames) :
    key ≠ "style" ∧ lower spelling ≠ "style" :=
  (attributeNames_distinct.1 (key, spelling) listed).2

end JsxFragment.Jsx
