import SearchQuery.Proofs.Basic
import SearchQuery.Where

/-!
# The skeleton of a filter

The condition of a filter is fixed by the filter without its values: by the attributes, the
comparisons, the lengths of the lists and the connectives.  The values go, in order, to the
placeholders, and nothing but a list without values stands in the way of a condition.
-/

set_option autoImplicit false

namespace SearchQuery

/-! ## Placeholders -/

/-- The number of a placeholder, counted from those in use.  Numbers have 64 bits. -/
def placeholderAfter (used count : Nat) : Nat :=
  (used + count) % Decimal.wordBound

def placeholdersAfter (used count : Nat) : List Nat :=
  (List.range count).map fun place => placeholderAfter used (place + 1)

theorem placeholdersAfter_succ (used count : Nat) :
    placeholdersAfter used (count + 1) =
      placeholderAfter used 1 :: placeholdersAfter (used + 1) count := by
  have shifted : ∀ place, placeholderAfter used (place + 1 + 1) =
      placeholderAfter (used + 1) (place + 1) := by
    intro place
    simp only [placeholderAfter]
    congr 1
    omega
  simp [placeholdersAfter, List.range_succ_eq_map, Function.comp_def, shifted]

theorem bindValue_run (value : Value) (used : Nat) (bound : List Value) :
    (bindValue value).run ⟨.ofNat used, bound⟩ =
      .ok (placeholderAfter used 1, ⟨.ofNat (used + 1), bound ++ [value]⟩) := by
  have number : (UInt64.ofNat (used + 1)).toNat = placeholderAfter used 1 := UInt64.toNat_ofNat'
  rw [← number, UInt64.ofNat_add]
  rfl

theorem run_bind_of_ok {α β : Type} {first : Binder α} {next : α → Binder β}
    {before after : Bindings} {value : α} (ran : first.run before = .ok (value, after)) :
    (first >>= next).run before = (next value).run after := by
  rw [StateT.run_bind, ran]
  rfl

theorem run_bind_of_error {α β : Type} {first : Binder α} {next : α → Binder β}
    {before : Bindings} {error : SearchError} (failed : first.run before = .error error) :
    (first >>= next).run before = .error error := by
  rw [StateT.run_bind, failed]
  rfl

theorem mapM_bindValue_run (values : List Value) (used : Nat) (bound : List Value) :
    (values.mapM bindValue).run ⟨.ofNat used, bound⟩ =
      .ok (placeholdersAfter used values.length,
        ⟨.ofNat (used + values.length), bound ++ values⟩) := by
  induction values generalizing used bound with
  | nil =>
      rw [List.mapM_nil, List.append_nil]
      rfl
  | cons value rest inductionHypothesis =>
      rw [List.mapM_cons, run_bind_of_ok (bindValue_run value used bound),
        run_bind_of_ok (inductionHypothesis (used + 1) (bound ++ [value])), List.length_cons,
        placeholdersAfter_succ, List.append_assoc, Nat.add_right_comm]
      rfl

/-! ## Filters without values -/

/-- A filter without its values; of a list only the length is left. -/
inductive Skeleton where
  | comparison (name : String) (kind : Comparison)
  | membership (name : String) (count : Nat)
  | isNull (name : String)
  | isNotNull (name : String)
  | and (left right : Skeleton)
  | or (left right : Skeleton)
  | not (inner : Skeleton)
deriving DecidableEq, Repr

namespace Skeleton

def parameterCount : Skeleton → Nat
  | .comparison _ _ => 1
  | .membership _ count => count
  | .isNull _ => 0
  | .isNotNull _ => 0
  | .and left right => left.parameterCount + right.parameterCount
  | .or left right => left.parameterCount + right.parameterCount
  | .not inner => inner.parameterCount

/-- The condition that every filter of this skeleton has, if it has one. -/
def condition (used : Nat) : Skeleton → Condition
  | .comparison name kind =>
      match kind.expression with
      | .sign sign => .compare name sign (placeholderAfter used 1)
      | .pattern _ negated => .like name negated (placeholderAfter used 1)
  | .membership name count => .within name (placeholdersAfter used count)
  | .isNull name => .isNull name
  | .isNotNull name => .isNotNull name
  | .and left right => .and (left.condition used) (right.condition (used + left.parameterCount))
  | .or left right => .or (left.condition used) (right.condition (used + left.parameterCount))
  | .not inner => .not (inner.condition used)

end Skeleton

/-- What a comparison binds: the value itself, or the pattern that is made of it. -/
def Comparison.boundValue (value : Value) : Comparison → Value
  | .like => Anchor.contains.boundPattern value
  | .notLike => Anchor.contains.boundPattern value
  | .startsWith => Anchor.start.boundPattern value
  | .endsWith => Anchor.ending.boundPattern value
  | _ => value

namespace Filter

def skeleton : Filter → Skeleton
  | .comparison name kind _ => .comparison name kind
  | .membership name values => .membership name values.length
  | .isNull name => .isNull name
  | .isNotNull name => .isNotNull name
  | .and left right => .and left.skeleton right.skeleton
  | .or left right => .or left.skeleton right.skeleton
  | .not inner => .not inner.skeleton

/-- The values of the comparisons and of the lists, from left to right. -/
def boundValues : Filter → List Value
  | .comparison _ kind value => [kind.boundValue value]
  | .membership _ values => values
  | .isNull _ => []
  | .isNotNull _ => []
  | .and left right => left.boundValues ++ right.boundValues
  | .or left right => left.boundValues ++ right.boundValues
  | .not inner => inner.boundValues

/-- The attributes of the membership tests without values, from left to right. -/
def emptyMemberships : Filter → List String
  | .comparison _ _ _ => []
  | .membership name values => if values = [] then [name] else []
  | .isNull _ => []
  | .isNotNull _ => []
  | .and left right => left.emptyMemberships ++ right.emptyMemberships
  | .or left right => left.emptyMemberships ++ right.emptyMemberships
  | .not inner => inner.emptyMemberships

theorem length_boundValues (filter : Filter) :
    filter.boundValues.length = filter.skeleton.parameterCount := by
  induction filter with
  | comparison name kind value => rfl
  | membership name values => rfl
  | isNull name => rfl
  | isNotNull name => rfl
  | and left right leftLength rightLength =>
      rw [boundValues, List.length_append, leftLength, rightLength]
      rfl
  | or left right leftLength rightLength =>
      rw [boundValues, List.length_append, leftLength, rightLength]
      rfl
  | not inner innerLength => exact innerLength

/-- If no list is empty, building succeeds: the values come behind those bound before, and the
counter moves on by their number. -/
theorem build_run_ok (filter : Filter) (used : Nat) (bound : List Value)
    (listed : filter.emptyMemberships = []) :
    filter.build.run ⟨.ofNat used, bound⟩ =
      .ok (filter.skeleton.condition used,
        ⟨.ofNat (used + filter.boundValues.length), bound ++ filter.boundValues⟩) := by
  induction filter generalizing used bound with
  | comparison name kind value =>
      cases kind <;> exact run_bind_of_ok (bindValue_run _ used bound)
  | membership name values =>
      cases values with
      | nil => cases listed
      | cons value rest =>
          exact run_bind_of_ok (mapM_bindValue_run (value :: rest) used bound)
  | isNull name =>
      rw [boundValues, List.append_nil]
      rfl
  | isNotNull name =>
      rw [boundValues, List.append_nil]
      rfl
  | and left right leftBuilt rightBuilt =>
      obtain ⟨leftListed, rightListed⟩ := List.append_eq_nil_iff.mp listed
      rw [build, run_bind_of_ok (leftBuilt used bound leftListed),
        run_bind_of_ok (rightBuilt _ _ rightListed), boundValues, List.length_append,
        ← Nat.add_assoc, List.append_assoc, length_boundValues left]
      rfl
  | or left right leftBuilt rightBuilt =>
      obtain ⟨leftListed, rightListed⟩ := List.append_eq_nil_iff.mp listed
      rw [build, run_bind_of_ok (leftBuilt used bound leftListed),
        run_bind_of_ok (rightBuilt _ _ rightListed), boundValues, List.length_append,
        ← Nat.add_assoc, List.append_assoc, length_boundValues left]
      rfl
  | not inner innerBuilt => exact run_bind_of_ok (innerBuilt used bound listed)

/-- If each side of a group fails at its leftmost empty list, so does the group. -/
theorem run_group_error (join : Condition → Condition → Condition) {left right : Filter}
    {used : Nat} {bound : List Value} {name : String} {others : List String}
    (leftFails : ∀ {rest : List String}, left.emptyMemberships = name :: rest →
      left.build.run ⟨.ofNat used, bound⟩ =
        .error (.invalidPredicate (.emptyMembership name)))
    (rightFails : ∀ (used : Nat) (bound : List Value) {rest : List String},
      right.emptyMemberships = name :: rest → right.build.run ⟨.ofNat used, bound⟩ =
        .error (.invalidPredicate (.emptyMembership name)))
    (empty : left.emptyMemberships ++ right.emptyMemberships = name :: others) :
    (do return join (← left.build) (← right.build) : Binder Condition).run ⟨.ofNat used, bound⟩ =
      .error (.invalidPredicate (.emptyMembership name)) := by
  cases leftEmpty : left.emptyMemberships with
  | nil =>
      rw [leftEmpty, List.nil_append] at empty
      rw [run_bind_of_ok (build_run_ok left used bound leftEmpty)]
      exact run_bind_of_error (rightFails _ _ empty)
  | cons found rest =>
      rw [leftEmpty] at empty
      cases empty
      exact run_bind_of_error (leftFails leftEmpty)

/-- Building stops at the leftmost empty list. -/
theorem build_run_error (filter : Filter) (used : Nat) (bound : List Value) {name : String}
    {others : List String} (empty : filter.emptyMemberships = name :: others) :
    filter.build.run ⟨.ofNat used, bound⟩ =
      .error (.invalidPredicate (.emptyMembership name)) := by
  induction filter generalizing used bound others with
  | comparison other kind value => cases empty
  | membership other values =>
      cases values with
      | nil =>
          cases empty
          rfl
      | cons value rest => cases empty
  | isNull other => cases empty
  | isNotNull other => cases empty
  | and left right leftFails rightFails =>
      exact run_group_error .and (leftFails used bound) rightFails empty
  | or left right leftFails rightFails =>
      exact run_group_error .or (leftFails used bound) rightFails empty
  | not inner innerBuilt => exact run_bind_of_error (innerBuilt used bound empty)

/-- What a filter binds is read off the filter; the condition is that of its skeleton, whatever the
values are. -/
theorem toCondition_eq_ok (filter : Filter) (used : Nat) (listed : filter.emptyMemberships = []) :
    filter.toCondition used = .ok ⟨filter.skeleton.condition used, filter.boundValues⟩ := by
  rw [toCondition, build_run_ok filter used [] listed]
  rfl

theorem toCondition_eq_error (filter : Filter) (used : Nat) {name : String} {others : List String}
    (empty : filter.emptyMemberships = name :: others) :
    filter.toCondition used = .error (.invalidPredicate (.emptyMembership name)) := by
  rw [toCondition, build_run_error filter used [] empty]
  rfl

theorem toCondition_eq_ok_iff (filter : Filter) (used : Nat) (bound : BoundCondition) :
    filter.toCondition used = .ok bound ↔
      filter.emptyMemberships = [] ∧
        bound = ⟨filter.skeleton.condition used, filter.boundValues⟩ := by
  cases empty : filter.emptyMemberships with
  | nil => simp [toCondition_eq_ok filter used empty, eq_comm]
  | cons name others => simp [toCondition_eq_error filter used empty]

theorem toCondition_eq_error_iff (filter : Filter) (used : Nat) (error : SearchError) :
    filter.toCondition used = .error error ↔
      ∃ name, filter.emptyMemberships.head? = some name ∧
        error = .invalidPredicate (.emptyMembership name) := by
  cases empty : filter.emptyMemberships with
  | nil => simp [toCondition_eq_ok filter used empty]
  | cons name others => simp [toCondition_eq_error filter used empty, eq_comm]

/-- What holds of every way in which a node of a filter gets its condition holds of every filter
and its condition. -/
theorem toCondition_induction {motive : Filter → Nat → BoundCondition → Prop}
    (compare : ∀ name kind sign value used, kind.expression = .sign sign →
      motive (.comparison name kind value) used
        ⟨.compare name sign (placeholderAfter used 1), [value]⟩)
    (like : ∀ name kind anchor negated value used, kind.expression = .pattern anchor negated →
      motive (.comparison name kind value) used
        ⟨.like name negated (placeholderAfter used 1), [anchor.boundPattern value]⟩)
    (within : ∀ name values used, values ≠ [] →
      motive (.membership name values) used
        ⟨.within name (placeholdersAfter used values.length), values⟩)
    (isNull : ∀ name used, motive (.isNull name) used ⟨.isNull name, []⟩)
    (isNotNull : ∀ name used, motive (.isNotNull name) used ⟨.isNotNull name, []⟩)
    (and : ∀ left right used leftBound rightBound, motive left used leftBound →
      motive right (used + leftBound.parameters.length) rightBound →
      motive (.and left right) used ⟨.and leftBound.condition rightBound.condition,
        leftBound.parameters ++ rightBound.parameters⟩)
    (or : ∀ left right used leftBound rightBound, motive left used leftBound →
      motive right (used + leftBound.parameters.length) rightBound →
      motive (.or left right) used ⟨.or leftBound.condition rightBound.condition,
        leftBound.parameters ++ rightBound.parameters⟩)
    (not : ∀ inner used bound, motive inner used bound →
      motive (.not inner) used ⟨.not bound.condition, bound.parameters⟩) :
    ∀ {filter : Filter} {used : Nat} {bound : BoundCondition},
      filter.toCondition used = .ok bound → motive filter used bound := by
  intro filter used bound built
  obtain ⟨listed, rfl⟩ := (toCondition_eq_ok_iff filter used bound).mp built
  clear built
  induction filter generalizing used with
  | comparison name kind value =>
      cases kind <;> first
        | exact compare name _ _ value used rfl
        | exact like name _ _ _ value used rfl
  | membership name values =>
      cases values with
      | nil => cases listed
      | cons value rest => exact within name (value :: rest) used (List.cons_ne_nil value rest)
  | isNull name => exact isNull name used
  | isNotNull name => exact isNotNull name used
  | and left right leftHypothesis rightHypothesis =>
      obtain ⟨leftListed, rightListed⟩ := List.append_eq_nil_iff.mp listed
      rw [skeleton, Skeleton.condition, ← length_boundValues left]
      exact and left right used ⟨_, _⟩ ⟨_, _⟩ (leftHypothesis leftListed)
        (rightHypothesis rightListed)
  | or left right leftHypothesis rightHypothesis =>
      obtain ⟨leftListed, rightListed⟩ := List.append_eq_nil_iff.mp listed
      rw [skeleton, Skeleton.condition, ← length_boundValues left]
      exact or left right used ⟨_, _⟩ ⟨_, _⟩ (leftHypothesis leftListed)
        (rightHypothesis rightListed)
  | not inner innerHypothesis =>
      exact not inner used ⟨_, inner.boundValues⟩ (innerHypothesis listed)

end Filter

end SearchQuery
