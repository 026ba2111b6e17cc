/-!
# Worklists

A list of pending entries is worked off from its end: the last entry is taken away and visited, and
the entries that the visit leads to are added at the end.  They are smaller than the entry visited,
so nothing is pending at last.
-/

set_option autoImplicit false

namespace SearchQuery.Worklist

variable {Entry Result : Type} [SizeOf Entry]

def load : List Entry → Nat
  | [] => 0
  | entry :: rest => sizeOf entry + load rest

theorem load_append (front back : List Entry) : load (front ++ back) = load front + load back := by
  induction front with
  | nil => rw [List.nil_append, load, Nat.zero_add]
  | cons entry rest inductionHypothesis =>
      rw [List.cons_append, load, load, inductionHypothesis, Nat.add_assoc]

theorem load_lt_sizeOf (entries : List Entry) : load entries < sizeOf entries := by
  induction entries with
  | nil => simp [load]
  | cons entry rest inductionHypothesis =>
      rw [load, List.cons.sizeOf_spec]
      omega

/-- What becomes of one entry: further entries, and results. -/
structure Visit (Result : Type) (entry : Entry) where
  added : List Entry
  found : List Result
  smaller : load added < sizeOf entry

def run (visit : (entry : Entry) → Visit Result entry) (pending : List Entry)
    (found : List Result) : List Result :=
  match _taken : pending.getLast? with
  | none => found
  | some entry =>
      run visit (pending.dropLast ++ (visit entry).added) (found ++ (visit entry).found)
termination_by load pending
decreasing_by
  obtain ⟨rest, rfl⟩ := List.getLast?_eq_some_iff.mp _taken
  have smaller := (visit entry).smaller
  simp only [List.dropLast_concat, load_append, load]
  omega

variable (visit : (entry : Entry) → Visit Result entry)

theorem run_nil (found : List Result) : run visit [] found = found := by
  rw [run]
  rfl

theorem run_concat (pending : List Entry) (entry : Entry) (found : List Result) :
    run visit (pending ++ [entry]) found =
      run visit (pending ++ (visit entry).added) (found ++ (visit entry).found) := by
  rw [run]
  split
  · simp_all
  · next last taken =>
      rw [List.getLast?_concat, Option.some.injEq] at taken
      rw [List.dropLast_concat, taken]

/-- If what is read of an entry is what its visit finds and then what is read of the entries added,
the last of them first, then a run reads the pending entries, the last of them first. -/
theorem run_eq_flatMap {read : Entry → List Result}
    (reads : ∀ entry,
      read entry = (visit entry).found ++ (visit entry).added.reverse.flatMap read)
    (pending : List Entry) (found : List Result) :
    run visit pending found = found ++ pending.reverse.flatMap read := by
  induction pending, found using run.induct visit with
  | case1 pending found nothing =>
      rw [List.getLast?_eq_none_iff] at nothing
      rw [nothing, run_nil, List.reverse_nil, List.flatMap_nil, List.append_nil]
  | case2 pending found entry taken inductionHypothesis =>
      obtain ⟨rest, rfl⟩ := List.getLast?_eq_some_iff.mp taken
      rw [List.dropLast_concat] at inductionHypothesis
      rw [run_concat, inductionHypothesis, List.reverse_append, List.flatMap_append,
        List.reverse_append, List.flatMap_append, List.reverse_singleton, List.flatMap_singleton,
        reads entry, List.append_assoc, List.append_assoc]

end SearchQuery.Worklist
