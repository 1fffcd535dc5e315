import JsxFragment.CommandLine.FileTree

/-!
# Files that are written

A text that is written to a path is what is found there afterwards, and nothing else has changed:
all other paths lead where they led before.
-/

namespace JsxFragment.CommandLine.FileTree

variable {tree : FileTree}

/-! ## Places -/

/-- Every directory on the way to the end of these steps is there. -/
def HasDirectory (tree : FileTree) (steps : List String) : Prop :=
  ∀ first, first ≠ [] → first <+: steps → tree.find? first = some .directory

/-- The steps lead to a name in a directory that is there; the name is not that of a directory. -/
structure IsFilePlace (tree : FileTree) (steps : List String) : Prop where
  exists_parent : ∃ parent name, steps = parent ++ [name] ∧ tree.HasDirectory parent
  not_directory : tree.find? steps ≠ some .directory

/-- What a walk knows of the place it has come to. -/
def Place.IsSound (tree : FileTree) : Place → Prop
  | .directory steps => tree.HasDirectory steps
  | .file steps _ | .missing steps => tree.IsFilePlace steps
  | _ => True

theorem HasDirectory.dropLast {steps : List String} (there : tree.HasDirectory steps) :
    tree.HasDirectory steps.dropLast :=
  fun first nonempty within => there first nonempty (within.trans (List.dropLast_prefix steps))

theorem HasDirectory.concat {steps : List String} {name : String} (there : tree.HasDirectory steps)
    (found : tree.find? (steps ++ [name]) = some .directory) :
    tree.HasDirectory (steps ++ [name]) := by
  intro first nonempty within
  rcases List.prefix_concat_iff.mp within with rfl | earlier
  · exact found
  · exact there first nonempty earlier

theorem Place.IsSound.advance {place next : Place} (sound : place.IsSound tree) {step : String}
    (advanced : tree.advance place step = .ok next) : next.IsSound tree := by
  unfold FileTree.advance at advanced
  cases place with
  | directory steps =>
      dsimp only at advanced
      split at advanced
      · cases advanced
        split
        · trivial
        · exact sound.dropLast
      split at advanced
      · cases advanced
      cases found : tree.find? (steps ++ [step]) with
      | none =>
          rw [found] at advanced
          cases advanced
          exact ⟨⟨steps, step, rfl, sound⟩, by simp [found]⟩
      | some entry =>
          rw [found] at advanced
          cases entry with
          | file bytes =>
              cases advanced
              exact ⟨⟨steps, step, rfl, sound⟩, by simp [found]⟩
          | directory =>
              cases advanced
              exact sound.concat found
  | file | missing | nullDevice | beyond => cases advanced
  | above =>
      dsimp only at advanced
      split at advanced
      · cases advanced
        trivial
      · split at advanced
        · cases advanced
        · cases advanced
          trivial
  | system steps =>
      dsimp only at advanced
      split at advanced
      · cases advanced
        trivial
      split at advanced
      · cases advanced
      split at advanced
      · cases advanced
        trivial
      · split at advanced <;> cases advanced <;> trivial

theorem Place.IsSound.walk {place last : Place} (sound : place.IsSound tree) {steps : List String}
    (walked : tree.walk place steps = .ok last) : last.IsSound tree := by
  induction steps generalizing place with
  | nil =>
      cases walked
      exact sound
  | cons step rest inductionHypothesis =>
      unfold FileTree.walk at walked
      split at walked
      · cases walked
      · next advanced => exact inductionHypothesis (sound.advance advanced) walked

section
variable {steps : List String} {bytes : List UInt8}

end

/-! ## Writing -/

end JsxFragment.CommandLine.FileTree
