import Mathlib.Data.List.Forall2
import SearchQuery.Filter
import SearchQuery.Proofs.WellFormed

/-!
# From predicates to filters, leaf by leaf

A well-formed predicate becomes a filter if and only if each of its literals is a value of its type,
and otherwise the first literal that is none is reported.  The filter has the leaves of the
predicate in their order, with the values for the literals, and the same connectives, except that of
several negations in a row at most one is left.
-/

set_option autoImplicit false

namespace SearchQuery

/-! ## The leaves of a predicate -/

/-- A leaf of a predicate: an attribute, an operator, and the literals that it is tested against. -/
structure Leaf where
  name : String
  operator : Operator
  literals : List String
deriving DecidableEq, Repr

namespace Predicate

def leaves : Predicate → List Leaf
  | .bare name operator => [⟨name, operator, []⟩]
  | .single name operator literal => [⟨name, operator, [literal]⟩]
  | .multiple name operator literals => [⟨name, operator, literals⟩]
  | .and left right => left.leaves ++ right.leaves
  | .or left right => left.leaves ++ right.leaves
  | .not inner => inner.leaves

/-- Each literal with the attribute it belongs to, from left to right. -/
def literals (predicate : Predicate) : List (String × String) :=
  predicate.leaves.flatMap fun leaf => leaf.literals.map fun literal => (leaf.name, literal)

theorem map_name_leaves_visit (predicate : Predicate) :
    predicate.leaves.map Leaf.name = (visitName predicate).found ++
      (visitName predicate).added.reverse.flatMap fun inner => inner.leaves.map Leaf.name := by
  cases predicate with
  | bare name operator => rfl
  | single name operator literal => rfl
  | multiple name operator literals => rfl
  | and left right => simp [visitName, leaves]
  | or left right => simp [visitName, leaves]
  | not inner => simp [visitName, leaves]

theorem map_name_leaves (predicate : Predicate) :
    predicate.leaves.map Leaf.name = predicate.attributeNames := by
  rw [attributeNames, Worklist.run_eq_flatMap visitName map_name_leaves_visit,
    List.reverse_singleton, List.flatMap_singleton, List.nil_append]

end Predicate

/-! ## The first literal that is no value -/

/-- The literal is no value of the type that its attribute has. -/
def TypeResolver.refuses (types : TypeResolver) (entry : String × String) : Bool :=
  (Value.ofLiteral? entry.2 (types.typeOf entry.1)).isNone

/-- The result of reading some literals: there is one if none of them is refused, and otherwise the
first refused literal is the error. -/
def ReadsLiterals {α : Type} (types : TypeResolver) (entries : List (String × String))
    (result : Except SearchError α) : Prop :=
  match entries.find? types.refuses with
  | none => ∃ value, result = .ok value
  | some entry => result = .error (.valueCoercion entry.1 entry.2 (types.typeOf entry.1))

namespace ReadsLiterals

variable {types : TypeResolver} {α β : Type}

theorem done (value : α) : ReadsLiterals types [] (.ok value) :=
  ⟨value, rfl⟩

theorem bind {front back : List (String × String)} {first : Except SearchError α}
    {next : α → Except SearchError β} (firstReads : ReadsLiterals types front first)
    (nextReads : ∀ value, ReadsLiterals types back (next value)) :
    ReadsLiterals types (front ++ back) (first >>= next) := by
  unfold ReadsLiterals at firstReads ⊢
  rw [List.find?_append]
  cases found : front.find? types.refuses with
  | some entry =>
      rw [found] at firstReads
      rw [firstReads]
      rfl
  | none =>
      rw [found] at firstReads
      obtain ⟨value, rfl⟩ := firstReads
      exact nextReads value

theorem map {entries : List (String × String)} {first : Except SearchError α} (change : α → β)
    (firstReads : ReadsLiterals types entries first) :
    ReadsLiterals types entries (first >>= fun value => .ok (change value)) := by
  rw [← List.append_nil entries]
  exact firstReads.bind fun value => done (change value)

theorem coerce (name literal : String) :
    ReadsLiterals types [(name, literal)] (Value.coerce name literal (types.typeOf name)) := by
  rw [ReadsLiterals, Value.coerce]
  cases value : Value.ofLiteral? literal (types.typeOf name) with
  | some value => simp [TypeResolver.refuses, value]
  | none => simp [TypeResolver.refuses, value]

theorem coerceAll (name : String) (literals : List String) :
    ReadsLiterals types (literals.map fun literal => (name, literal))
      (Predicate.coerceAll name (types.typeOf name) literals) := by
  induction literals with
  | nil => exact done []
  | cons literal rest inductionHypothesis =>
      rw [Predicate.coerceAll]
      exact (coerce name literal).bind fun value => inductionHypothesis.map (value :: ·)

theorem ok_iff {entries : List (String × String)} {result : Except SearchError α}
    (reads : ReadsLiterals types entries result) :
    (∃ value, result = .ok value) ↔
      ∀ entry ∈ entries, (Value.ofLiteral? entry.2 (types.typeOf entry.1)).isSome = true := by
  have noneRefused : entries.find? types.refuses = none ↔
      ∀ entry ∈ entries, (Value.ofLiteral? entry.2 (types.typeOf entry.1)).isSome = true := by
    simp [TypeResolver.refuses, Option.isSome_iff_ne_none]
  rw [← noneRefused]
  unfold ReadsLiterals at reads
  cases found : entries.find? types.refuses with
  | none =>
      rw [found] at reads
      exact ⟨fun _ => rfl, fun _ => reads⟩
  | some entry =>
      rw [found] at reads
      rw [reads]
      simp

theorem error_iff {entries : List (String × String)} {result : Except SearchError α}
    (reads : ReadsLiterals types entries result) (error : SearchError) :
    result = .error error ↔
      ∃ name literal, entries.find? types.refuses = some (name, literal) ∧
        error = .valueCoercion name literal (types.typeOf name) := by
  unfold ReadsLiterals at reads
  cases found : entries.find? types.refuses with
  | none =>
      rw [found] at reads
      obtain ⟨value, rfl⟩ := reads
      simp
  | some entry =>
      rw [found] at reads
      obtain ⟨name, literal⟩ := entry
      rw [reads]
      simp [eq_comm]

end ReadsLiterals

namespace Predicate

variable {types : TypeResolver}

theorem reads_multiple {name : String} {operator : Operator} {values : List String}
    (wellFormed : (Predicate.multiple name operator values).WellFormed) :
    ReadsLiterals types (Predicate.multiple name operator values).literals
      ((Predicate.multiple name operator values).toFilter types) := by
  have arity : operator.arity = .multiple := wellFormed.2.1
  have entries : (Predicate.multiple name operator values).literals =
      values.map fun literal => (name, literal) := by
    simp [literals, leaves]
  rw [entries, toFilter]
  cases operator with
  | isIn => exact (ReadsLiterals.coerceAll name values).map (Filter.membership name)
  | notIn =>
      exact (ReadsLiterals.coerceAll name values).map fun found =>
        Filter.not (.membership name found)
  | _ => cases arity

/-- The induction is that of the translation, which passes over two negations at once. -/
theorem reads_toFilter (types : TypeResolver) (predicate : Predicate) :
    predicate.WellFormed → ReadsLiterals types predicate.literals (predicate.toFilter types) := by
  induction predicate using toFilter.induct with
  | case1 name =>
      intro _
      exact ReadsLiterals.done (Filter.isNull name)
  | case2 name =>
      intro _
      exact ReadsLiterals.done (Filter.isNotNull name)
  | case3 name other notNull notPresent =>
      intro wellFormed
      have arity : other.arity = .none := wellFormed.2
      cases other <;> contradiction
  | case4 name operator literal noComparison =>
      intro wellFormed
      have arity : operator.arity = .single := wellFormed.2.1
      cases operator <;> contradiction
  | case5 name operator literal kind compares =>
      intro _
      rw [toFilter, compares]
      exact (ReadsLiterals.coerce name literal).map (Filter.comparison name kind)
  | case6 name operator literals => exact reads_multiple
  | case7 left right leftReads rightReads =>
      intro wellFormed
      rw [toFilter, literals, leaves, List.flatMap_append]
      exact (leftReads wellFormed.1).bind fun first =>
        (rightReads wellFormed.2).map (Filter.and first)
  | case8 left right leftReads rightReads =>
      intro wellFormed
      rw [toFilter, literals, leaves, List.flatMap_append]
      exact (leftReads wellFormed.1).bind fun first =>
        (rightReads wellFormed.2).map (Filter.or first)
  | case9 inner innerReads =>
      intro wellFormed
      rw [toFilter]
      exact innerReads wellFormed
  | case10 inner notNegated innerReads =>
      intro wellFormed
      rw [toFilter]
      · exact (innerReads wellFormed).map Filter.not
      · exact notNegated

end Predicate

/-! ## The filter of a predicate -/

/-- The operator that makes a comparison. -/
def Comparison.operator : Comparison → Operator
  | .equal => .equal
  | .notEqual => .notEqual
  | .greaterThan => .greaterThan
  | .greaterOrEqual => .greaterOrEqual
  | .lessThan => .lessThan
  | .lessOrEqual => .lessOrEqual
  | .like => .like
  | .notLike => .notLike
  | .startsWith => .startsWith
  | .endsWith => .endsWith

theorem Operator.comparison?_eq_some_iff (operator : Operator) (kind : Comparison) :
    operator.comparison? = some kind ↔ kind.operator = operator := by
  cases operator <;> cases kind <;> decide

namespace Filter

/-- The attributes of the leaves from left to right, repetitions included. -/
def attributeNames : Filter → List String
  | .comparison name _ _ => [name]
  | .membership name _ => [name]
  | .isNull name => [name]
  | .isNotNull name => [name]
  | .and left right => left.attributeNames ++ right.attributeNames
  | .or left right => left.attributeNames ++ right.attributeNames
  | .not inner => inner.attributeNames

/-- The filter under the given number of negations. -/
def negated (filter : Filter) : Nat → Filter
  | 0 => filter
  | count + 1 => .not (filter.negated count)

theorem attributeNames_negated (filter : Filter) (count : Nat) :
    (filter.negated count).attributeNames = filter.attributeNames := by
  induction count with
  | zero => rfl
  | succ count inductionHypothesis => exact inductionHypothesis

end Filter

namespace Predicate

def isNegation : Predicate → Bool
  | .not _ => true
  | _ => false

/-- The literals spell the values, one by one. -/
def Spell (types : TypeResolver) (name : String) (literals : List String) (values : List Value) :
    Prop :=
  List.Forall₂ (fun literal value => Value.ofLiteral? literal (types.typeOf name) = some value)
    literals values

/-- The filter says what the predicate says: its leaves have the same attributes and operators and
the values for the literals, and the connectives are the same, except that a whole run of negations
counts only as odd or even. -/
inductive Translates (types : TypeResolver) : Predicate → Filter → Prop where
  | isNull (name : String) : Translates types (.bare name .isNull) (.isNull name)
  | isNotNull (name : String) : Translates types (.bare name .isNotNull) (.isNotNull name)
  | comparison {name literal : String} {value : Value} (kind : Comparison)
      (spelled : Value.ofLiteral? literal (types.typeOf name) = some value) :
      Translates types (.single name kind.operator literal) (.comparison name kind value)
  | isIn {name : String} {literals : List String} {values : List Value}
      (spelled : Spell types name literals values) :
      Translates types (.multiple name .isIn literals) (.membership name values)
  | notIn {name : String} {literals : List String} {values : List Value}
      (spelled : Spell types name literals values) :
      Translates types (.multiple name .notIn literals) (.not (.membership name values))
  | and {left right : Predicate} {first second : Filter} (leftSame : Translates types left first)
      (rightSame : Translates types right second) :
      Translates types (.and left right) (.and first second)
  | or {left right : Predicate} {first second : Filter} (leftSame : Translates types left first)
      (rightSame : Translates types right second) :
      Translates types (.or left right) (.or first second)
  | negations {inner : Predicate} {filter : Filter} (count : Nat)
      (wholeRun : inner.isNegation = false) (innerSame : Translates types inner filter) :
      Translates types (inner.negated (count + 1)) (filter.negated ((count + 1) % 2))

variable {types : TypeResolver}

theorem coerce_eq_ok_iff (name literal : String) (target : AttributeType) (value : Value) :
    Value.coerce name literal target = .ok value ↔
      Value.ofLiteral? literal target = some value := by
  rw [Value.coerce]
  cases Value.ofLiteral? literal target <;> simp

theorem coerceAll_eq_ok_iff (name : String) (literals : List String) (values : List Value) :
    coerceAll name (types.typeOf name) literals = .ok values ↔
      Spell types name literals values := by
  induction literals generalizing values with
  | nil =>
      rw [coerceAll, Spell, List.forall₂_nil_left_iff, Except.ok.injEq]
      exact eq_comm
  | cons literal rest inductionHypothesis =>
      rw [coerceAll, bind_eq_ok_iff]
      constructor
      · rintro ⟨value, coerced, restDone⟩
        obtain ⟨others, restCoerced, result⟩ := (bind_eq_ok_iff _ _ _).mp restDone
        cases result
        exact .cons ((coerce_eq_ok_iff _ _ _ _).mp coerced) ((inductionHypothesis _).mp restCoerced)
      · intro spelled
        cases spelled with
        | @cons _ value _ others first restSpelled =>
            refine ⟨value, (coerce_eq_ok_iff _ _ _ _).mpr first, ?_⟩
            rw [(inductionHypothesis _).mpr restSpelled]
            rfl

theorem toFilter_not {inner : Predicate} (plain : inner.isNegation = false) :
    (Predicate.not inner).toFilter types = (inner.toFilter types).map Filter.not := by
  rw [toFilter]
  · cases inner.toFilter types <;> rfl
  · rintro twice rfl
    cases plain

/-- Where two negations in a row make no difference, only the parity of a run of them does. -/
theorem negated_parity {α : Type} (observed : Predicate → α)
    (cancels : ∀ inner, observed (.not (.not inner)) = observed inner) (predicate : Predicate)
    (count : Nat) :
    observed (predicate.negated count) = observed (predicate.negated (count % 2)) := by
  have pairsCancel : ∀ pairs,
      observed (predicate.negated (count % 2 + 2 * pairs)) =
        observed (predicate.negated (count % 2)) := by
    intro pairs
    induction pairs with
    | zero => rfl
    | succ pairs inductionHypothesis =>
        rw [Nat.mul_succ, ← Nat.add_assoc, negated, negated, cancels, inductionHypothesis]
  have whole := pairsCancel (count / 2)
  rwa [Nat.mod_add_div] at whole

theorem toFilter_negated {inner : Predicate} (plain : inner.isNegation = false) (count : Nat) :
    (inner.negated count).toFilter types =
      (inner.toFilter types).map fun filter => filter.negated (count % 2) := by
  rw [negated_parity (toFilter types) (fun inner => by rw [toFilter]) inner count]
  rcases Nat.mod_two_eq_zero_or_one count with even | odd
  · rw [even, negated]
    cases inner.toFilter types <;> rfl
  · rw [odd]
    exact toFilter_not plain

theorem toFilter_of_translates {predicate : Predicate} {filter : Filter}
    (translates : Translates types predicate filter) : predicate.toFilter types = .ok filter := by
  induction translates with
  | isNull name => rfl
  | isNotNull name => rfl
  | comparison kind spelled =>
      rw [toFilter, (Operator.comparison?_eq_some_iff _ kind).mpr rfl]
      dsimp only
      rw [(coerce_eq_ok_iff _ _ _ _).mpr spelled]
      rfl
  | isIn spelled =>
      rw [toFilter, (coerceAll_eq_ok_iff _ _ _).mpr spelled]
      rfl
  | notIn spelled =>
      rw [toFilter, (coerceAll_eq_ok_iff _ _ _).mpr spelled]
      rfl
  | and _ _ leftDone rightDone =>
      rw [toFilter, leftDone, rightDone]
      rfl
  | or _ _ leftDone rightDone =>
      rw [toFilter, leftDone, rightDone]
      rfl
  | negations count wholeRun _ innerDone =>
      rw [toFilter_negated wholeRun, innerDone]
      rfl

/-- A run of negations is looked at as a whole: the predicate is taken with all negations that stand
in front of it. -/
theorem translates_of_toFilter (predicate : Predicate) :
    ∀ (count : Nat) (filter : Filter), (predicate.negated count).toFilter types = .ok filter →
      Translates types (predicate.negated count) filter := by
  have wholeRun : ∀ {inner : Predicate}, inner.isNegation = false →
      (∀ filter, inner.toFilter types = .ok filter → Translates types inner filter) →
      ∀ (count : Nat) (filter : Filter), (inner.negated count).toFilter types = .ok filter →
        Translates types (inner.negated count) filter := by
    intro inner plain alone count filter translated
    cases count with
    | zero => exact alone filter translated
    | succ count =>
        rw [toFilter_negated plain] at translated
        cases innerDone : inner.toFilter types with
        | error error => rw [innerDone] at translated; cases translated
        | ok found =>
            rw [innerDone] at translated
            cases translated
            exact .negations count plain (alone found innerDone)
  induction predicate with
  | bare name operator =>
      refine wholeRun rfl ?_
      intro filter translated
      rw [toFilter.eq_def] at translated
      cases operator <;> cases translated
      · exact .isNull name
      · exact .isNotNull name
  | single name operator literal =>
      refine wholeRun rfl ?_
      intro filter translated
      rw [toFilter] at translated
      cases compares : operator.comparison? with
      | none => rw [compares] at translated; cases translated
      | some kind =>
          rw [compares] at translated
          obtain ⟨value, coerced, result⟩ := (bind_eq_ok_iff _ _ _).mp translated
          cases result
          obtain rfl := (Operator.comparison?_eq_some_iff operator kind).mp compares
          exact .comparison kind ((coerce_eq_ok_iff _ _ _ _).mp coerced)
  | multiple name operator literals =>
      refine wholeRun rfl ?_
      intro filter translated
      rw [toFilter] at translated
      obtain ⟨values, coerced, result⟩ := (bind_eq_ok_iff _ _ _).mp translated
      have spelled := (coerceAll_eq_ok_iff _ _ _).mp coerced
      cases operator <;> cases result
      · exact .isIn spelled
      · exact .notIn spelled
  | and left right leftSame rightSame =>
      refine wholeRun rfl ?_
      intro filter translated
      rw [toFilter] at translated
      obtain ⟨first, leftDone, restDone⟩ := (bind_eq_ok_iff _ _ _).mp translated
      obtain ⟨second, rightDone, result⟩ := (bind_eq_ok_iff _ _ _).mp restDone
      cases result
      exact .and (leftSame 0 first leftDone) (rightSame 0 second rightDone)
  | or left right leftSame rightSame =>
      refine wholeRun rfl ?_
      intro filter translated
      rw [toFilter] at translated
      obtain ⟨first, leftDone, restDone⟩ := (bind_eq_ok_iff _ _ _).mp translated
      obtain ⟨second, rightDone, result⟩ := (bind_eq_ok_iff _ _ _).mp restDone
      cases result
      exact .or (leftSame 0 first leftDone) (rightSame 0 second rightDone)
  | not inner innerSame =>
      intro count
      have oneMore : (Predicate.not inner).negated count = inner.negated (1 + count) :=
        negated_add inner 1 count
      rw [oneMore]
      exact innerSame (1 + count)

theorem leaves_negated (predicate : Predicate) (count : Nat) :
    (predicate.negated count).leaves = predicate.leaves := by
  induction count with
  | zero => rfl
  | succ count inductionHypothesis => exact inductionHypothesis

theorem Translates.attributeNames_eq {predicate : Predicate} {filter : Filter}
    (translates : Translates types predicate filter) :
    filter.attributeNames = predicate.attributeNames := by
  rw [← map_name_leaves]
  induction translates with
  | isNull name => rfl
  | isNotNull name => rfl
  | comparison kind spelled => rfl
  | isIn spelled => rfl
  | notIn spelled => rfl
  | and _ _ leftSame rightSame =>
      rw [Filter.attributeNames, leaves, List.map_append, leftSame, rightSame]
  | or _ _ leftSame rightSame =>
      rw [Filter.attributeNames, leaves, List.map_append, leftSame, rightSame]
  | negations count _ _ innerSame =>
      rw [Filter.attributeNames_negated, leaves_negated, innerSame]

/-- A well-formed predicate has a filter if and only if no literal is refused, and otherwise fails
at the first refused literal, in the order of the attributes of its leaves and of their lists.  The
filter is the one that says what the predicate says, leaf by leaf. -/
theorem toFilter_exact (types : TypeResolver) (predicate : Predicate)
    (wellFormed : predicate.WellFormed) :
    predicate.leaves.map Leaf.name = predicate.attributeNames ∧
    ((∃ filter, predicate.toFilter types = .ok filter) ↔
      ∀ entry ∈ predicate.literals,
        (Value.ofLiteral? entry.2 (types.typeOf entry.1)).isSome = true) ∧
    (∀ error, predicate.toFilter types = .error error ↔
      ∃ name literal, predicate.literals.find? types.refuses = some (name, literal) ∧
        error = .valueCoercion name literal (types.typeOf name)) ∧
    ∀ filter, (predicate.toFilter types = .ok filter ↔ Translates types predicate filter) ∧
      (predicate.toFilter types = .ok filter →
        filter.attributeNames = predicate.attributeNames) := by
  have reads := reads_toFilter types predicate wellFormed
  refine ⟨map_name_leaves predicate, reads.ok_iff, reads.error_iff, ?_⟩
  intro filter
  have exactly : predicate.toFilter types = .ok filter ↔ Translates types predicate filter :=
    ⟨translates_of_toFilter predicate 0 filter, toFilter_of_translates⟩
  exact ⟨exactly, fun translated => (exactly.mp translated).attributeNames_eq⟩

def sampleRun : Predicate :=
  .not (.not (.not (.and (.single "age" .greaterOrEqual "20")
    (.not (.multiple "status" .notIn ["A", "B"])))))

def sampleRunFilter : Filter :=
  .not (.and (.comparison "age" .greaterOrEqual (.integer 20))
    (.not (.not (.membership "status" [.string "A", .string "B"]))))

def sampleRunTypes (status : AttributeType) : TypeResolver := fun name =>
  if name = "age" then some .integer else some status

/-- Three negations become one, while the one that stands for a list of excluded values is kept
beside the one in front of it; and of two labels the unknown one is refused. -/
theorem toFilter_exact_run :
    sampleRun.WellFormed ∧
      sampleRun.toFilter (sampleRunTypes .string) = .ok sampleRunFilter ∧
      sampleRun.toFilter (sampleRunTypes (.enumeration ["A"])) =
        .error (.valueCoercion "status" "B" (.enumeration ["A"])) := by
  have wellFormed : sampleRun.WellFormed := by decide
  have age : Value.ofLiteral? "20" .integer = some (.integer 20) := by decide +kernel
  have translates : Translates (sampleRunTypes .string) sampleRun sampleRunFilter :=
    .negations 2 rfl (.and (.comparison .greaterOrEqual age)
      (.negations 0 rfl (.notIn (.cons rfl (.cons rfl .nil)))))
  have refused : sampleRun.literals.find? (sampleRunTypes (.enumeration ["A"])).refuses =
      some ("status", "B") := by
    decide +kernel
  obtain ⟨_, _, _, exactly⟩ := toFilter_exact (sampleRunTypes .string) sampleRun wellFormed
  obtain ⟨_, _, failing, _⟩ :=
    toFilter_exact (sampleRunTypes (.enumeration ["A"])) sampleRun wellFormed
  exact ⟨wellFormed, (exactly sampleRunFilter).1.mpr translates,
    (failing _).mpr ⟨"status", "B", refused, rfl⟩⟩

end Predicate

end SearchQuery
