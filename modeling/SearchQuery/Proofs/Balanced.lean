import Mathlib.Data.Nat.Log
import SearchQuery.Request

/-!
# Balanced trees

A list is halved over and over, the left half never smaller, and the pieces are joined in the same
way.  Whatever is built like this is treated by one induction: on single items, and on lists whose
two halves have been treated.
-/

set_option autoImplicit false

namespace SearchQuery

/-- Two lists are the halves of one: the left one may have one item more. -/
structure Halves {α : Type} (left right : List α) : Prop where
  nonempty : right ≠ []
  balance : left.length = right.length ∨ left.length = right.length + 1

namespace Halves

variable {α β : Type} {left right : List α}

theorem of_length {first second : List β} (halves : Halves left right)
    (leftLength : first.length = left.length) (rightLength : second.length = right.length) :
    Halves first second where
  nonempty := by
    have positive := List.length_pos_iff.mpr halves.nonempty
    apply List.length_pos_iff.mp
    omega
  balance := by
    have balance := halves.balance
    omega

theorem left_nonempty (halves : Halves left right) : left ≠ [] := by
  have positive := List.length_pos_iff.mpr halves.nonempty
  have balance := halves.balance
  apply List.length_pos_iff.mp
  omega

/-- The joined list has at least two items, and half of it, rounded up, is the left one. -/
theorem exists_append_eq (halves : Halves left right) :
    ∃ first second rest, left ++ right = first :: second :: rest ∧
      (rest.length + 3) / 2 = left.length := by
  have leftPositive := List.length_pos_iff.mpr halves.left_nonempty
  have rightPositive := List.length_pos_iff.mpr halves.nonempty
  have balance := halves.balance
  cases joined : left ++ right with
  | nil =>
      have lengths := congrArg List.length joined
      simp only [List.length_append, List.length_nil] at lengths
      omega
  | cons first tail =>
      have lengths := congrArg List.length joined
      simp only [List.length_append, List.length_cons] at lengths
      cases tail with
      | nil =>
          rw [List.length_nil] at lengths
          omega
      | cons second rest =>
          rw [List.length_cons] at lengths
          exact ⟨first, second, rest, rfl, by omega⟩

theorem clog_right_le (halves : Halves left right) :
    Nat.clog 2 right.length ≤ Nat.clog 2 left.length := by
  have balance := halves.balance
  exact Nat.clog_mono_right 2 (by omega)

theorem clog_length (halves : Halves left right) :
    Nat.clog 2 (left ++ right).length =
      max (Nat.clog 2 left.length) (Nat.clog 2 right.length) + 1 := by
  have rightPositive := List.length_pos_iff.mpr halves.nonempty
  have balance := halves.balance
  have half : ((left ++ right).length + 2 - 1) / 2 = left.length := by
    rw [List.length_append]
    omega
  rw [Nat.clog_of_two_le (by decide) (by rw [List.length_append]; omega), half,
    Nat.max_eq_left halves.clog_right_le]

end Halves

theorem halving_induction {α : Type} {motive : List α → Prop} (nil : motive [])
    (single : ∀ item, motive [item])
    (halves : ∀ left right, Halves left right → motive left → motive right →
      motive (left ++ right)) :
    ∀ items, motive items := by
  intro items
  induction size : items.length using Nat.strongRecOn generalizing items with
  | ind count inductionHypothesis =>
      obtain _ | ⟨first, _ | ⟨second, rest⟩⟩ := items
      · exact nil
      · exact single first
      · let half := (count + 1) / 2
        simp only [List.length_cons] at size
        have leftLength : ((first :: second :: rest).take half).length = half := by
          rw [List.length_take, List.length_cons, List.length_cons]
          omega
        have rightLength : ((first :: second :: rest).drop half).length = count - half := by
          rw [List.length_drop, List.length_cons, List.length_cons]
          omega
        rw [← List.take_append_drop half (first :: second :: rest)]
        refine halves _ _ ⟨?_, ?_⟩ ?_ ?_
        · apply List.length_pos_iff.mp
          omega
        · omega
        · exact inductionHypothesis half (by omega) _ leftLength
        · exact inductionHypothesis (count - half) (by omega) _ rightLength

/-- The items joined two by two, the halves of the list before the whole; there is nothing to join in
an empty list. -/
def balanced {α : Type} (join : α → α → α) (items : List α) : Option α :=
  match items with
  | [] => none
  | [item] => some item
  | first :: second :: rest =>
      let half := (rest.length + 3) / 2
      match balanced join ((first :: second :: rest).take half),
        balanced join ((first :: second :: rest).drop half) with
      | some left, some right => some (join left right)
      | _, _ => none
termination_by items.length
decreasing_by
  · simp only [List.length_take, List.length_cons]
    omega
  · simp only [List.length_drop, List.length_cons]
    omega

section

variable {α : Type} {join : α → α → α}

theorem balanced_nil : balanced join [] = none := by
  rw [balanced]

theorem balanced_single (item : α) : balanced join [item] = some item := by
  rw [balanced]

theorem balanced_halves {left right : List α} (halves : Halves left right) {first second : α}
    (leftJoined : balanced join left = some first)
    (rightJoined : balanced join right = some second) :
    balanced join (left ++ right) = some (join first second) := by
  obtain ⟨item, next, rest, joined, half⟩ := halves.exists_append_eq
  rw [joined, balanced, half, ← joined, List.take_left, List.drop_left, leftJoined, rightJoined]

end

theorem joinBalanced_single (term : List Char) : joinBalanced [term] = term := by
  rw [joinBalanced]

theorem joinBalanced_halves {left right : List (List Char)} (halves : Halves left right) :
    joinBalanced (left ++ right) =
      '(' :: joinBalanced left ++ " AND ".toList ++ joinBalanced right ++ [')'] := by
  obtain ⟨first, second, rest, joined, half⟩ := halves.exists_append_eq
  rw [joined, joinBalanced, half, ← joined, List.take_left, List.drop_left]

end SearchQuery
