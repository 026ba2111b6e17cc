import SearchQuery.Error

/-!
# Runs of characters, and steps that may fail

The longest run of characters of one class at the front of a text, when the text is known to be
such a run followed by something else; and what is known of two steps when both succeed.
-/

set_option autoImplicit false

namespace SearchQuery

namespace Text

variable {inside : Char → Bool} {front rest : List Char}

theorem takeWhile_eq_nil (stops : ∀ c ∈ rest.head?, inside c = false) :
    rest.takeWhile inside = [] := by
  cases rest with
  | nil => rfl
  | cons c others => rw [List.takeWhile_cons_of_neg (by simp [stops c rfl])]

theorem takeWhile_run (allInside : ∀ c ∈ front, inside c = true)
    (stops : rest.takeWhile inside = []) : (front ++ rest).takeWhile inside = front := by
  rw [List.takeWhile_append_of_pos allInside, stops, List.append_nil]

theorem dropWhile_run (allInside : ∀ c ∈ front, inside c = true)
    (stops : rest.takeWhile inside = []) : (front ++ rest).dropWhile inside = rest := by
  have whole := List.takeWhile_append_dropWhile (p := inside) (l := front ++ rest)
  rw [takeWhile_run allInside stops] at whole
  exact List.append_cancel_left whole

/-- A text is divided in one way into a run of characters of the class and a rest that starts with
none. -/
theorem run_append_injective {otherFront otherRest : List Char}
    (allInside : ∀ c ∈ front, inside c = true) (stops : rest.takeWhile inside = [])
    (otherInside : ∀ c ∈ otherFront, inside c = true)
    (otherStops : otherRest.takeWhile inside = [])
    (same : front ++ rest = otherFront ++ otherRest) : front = otherFront ∧ rest = otherRest := by
  constructor
  · rw [← takeWhile_run allInside stops, same, takeWhile_run otherInside otherStops]
  · rw [← dropWhile_run allInside stops, same, dropWhile_run otherInside otherStops]

end Text

theorem bind_eq_ok_iff {α β : Type} (first : Except SearchError α)
    (next : α → Except SearchError β) (result : β) :
    (first >>= next) = .ok result ↔ ∃ value, first = .ok value ∧ next value = .ok result := by
  cases first with
  | error error => simp [bind, Except.bind]
  | ok value => simp [bind, Except.bind]

end SearchQuery
