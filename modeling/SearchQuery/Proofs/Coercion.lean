import Mathlib.Data.List.Forall2
import SearchQuery.Proofs.Numerals
import SearchQuery.Proofs.Translation

/-!
# What literals spell

A literal has a value of the declared type if it spells one.  For the types without fractions the
spellings are given here on their own: any text, the numerals of the numbers in range, the two truth
values in any case of letters, the labels.  Coercion finds the value that is spelled and no other,
and the text of a value spells it again.
-/

set_option autoImplicit false

namespace SearchQuery

/-! ## Words in any case -/

namespace Text

/-- The text is the word, each letter of which may also be a capital. -/
def InAnyCase (text word : String) : Prop :=
  List.Forall₂ (fun c letter => c = letter ∨ c = letter.toUpper) text.toList word.toList

theorem toLower_eq_iff {c letter : Char} (lower : letter.isLower = true) :
    c.toLower = letter ↔ c = letter ∨ c = letter.toUpper := by
  unfold Char.isLower at lower
  simp only [ge_iff_le, Bool.and_eq_true, decide_eq_true_eq] at lower
  have upper : letter.toUpper.val = letter.val + 4294967264 := by
    unfold Char.toUpper
    rw [dif_pos lower]
    rfl
  rw [Char.ext_iff, Char.ext_iff, Char.ext_iff, upper]
  rw [show 'a'.val = 97 from rfl, show 'z'.val = 122 from rfl] at lower
  unfold Char.toLower
  simp only [show 'A'.val = 65 from rfl, show 'Z'.val = 90 from rfl, show 'a'.val = 97 from rfl]
  split
  next => grind
  next => grind

theorem toLower_of_isLower {letter : Char} (lower : letter.isLower = true) :
    letter.toLower = letter :=
  (toLower_eq_iff lower).mpr (.inl rfl)

theorem map_toLower_eq_iff :
    ∀ (row word : List Char), (∀ letter ∈ word, letter.isLower = true) →
      (row.map Char.toLower = word.map Char.toLower ↔
        List.Forall₂ (fun c letter => c = letter ∨ c = letter.toUpper) row word) := by
  intro row
  induction row with
  | nil =>
      intro word _
      cases word <;> simp
  | cons c rest inductionHypothesis =>
      intro word lower
      cases word with
      | nil => simp
      | cons letter others =>
          have letterLower := lower letter List.mem_cons_self
          have othersLower : ∀ other ∈ others, other.isLower = true :=
            fun other member => lower other (List.mem_cons_of_mem _ member)
          rw [List.map_cons, List.map_cons, List.cons.injEq, List.forall₂_cons,
            inductionHypothesis others othersLower, toLower_of_isLower letterLower,
            toLower_eq_iff letterLower]

theorem sameLetters_iff_inAnyCase {text word : String}
    (lower : word.toList.all Char.isLower = true) :
    sameLetters text word = true ↔ InAnyCase text word := by
  rw [sameLetters, beq_iff_eq, InAnyCase, map_toLower_eq_iff _ _ (List.all_eq_true.mp lower)]

theorem inAnyCase_refl (word : String) : InAnyCase word word :=
  List.forall₂_same.mpr fun _ _ => .inl rfl

end Text

/-! ## Values without fractions -/

namespace Value

/-- The literal spells the value of the type. -/
inductive Spelled : AttributeType → String → Value → Prop where
  | string (literal : String) : Spelled .string literal (.string literal)
  | integer {literal : String} {number : Int} (numeral : Decimal.Numeral literal.toList number)
      (least : -2 ^ 31 ≤ number) (most : number < 2 ^ 31) :
      Spelled .integer literal (.integer number)
  | long {literal : String} {number : Int} (numeral : Decimal.Numeral literal.toList number)
      (least : -2 ^ 63 ≤ number) (most : number < 2 ^ 63) :
      Spelled .long literal (.long number)
  | truth {literal : String} (inAnyCase : Text.InAnyCase literal "true") :
      Spelled .boolean literal (.boolean true)
  | falsehood {literal : String} (inAnyCase : Text.InAnyCase literal "false") :
      Spelled .boolean literal (.boolean false)
  | label {labels : List String} {literal : String} (listed : literal ∈ labels) :
      Spelled (.enumeration labels) literal (.enumeration literal)

theorem spelled_of_readTruth? {literal : String} {truth : Bool}
    (read : readTruth? literal = some truth) : Spelled .boolean literal (.boolean truth) := by
  unfold readTruth? at read
  split at read
  next sameTrue =>
    cases read
    exact .truth ((Text.sameLetters_iff_inAnyCase (by decide)).mp sameTrue)
  next =>
    split at read
    next sameFalse =>
      cases read
      exact .falsehood ((Text.sameLetters_iff_inAnyCase (by decide)).mp sameFalse)
    next => cases read

/-- A literal of a type without fractions that coercion takes for a value spells it. -/
theorem spelled_of_ofLiteral? {target : AttributeType} {literal : String} {value : Value}
    (notDouble : target ≠ .double) (notFloat : target ≠ .float)
    (read : ofLiteral? literal target = some value) : Spelled target literal value := by
  cases target with
  | string =>
      cases read
      exact .string literal
  | integer =>
      obtain ⟨number, numberRead, rfl⟩ := Option.map_eq_some_iff.mp read
      obtain ⟨numeral, least, most⟩ := Decimal.readBounded?_eq_some_iff.mp numberRead
      exact .integer numeral (by omega) (by omega)
  | long =>
      obtain ⟨number, numberRead, rfl⟩ := Option.map_eq_some_iff.mp read
      obtain ⟨numeral, least, most⟩ := Decimal.readBounded?_eq_some_iff.mp numberRead
      exact .long numeral (by omega) (by omega)
  | double => exact absurd rfl notDouble
  | float => exact absurd rfl notFloat
  | boolean =>
      obtain ⟨truth, truthRead, rfl⟩ := Option.map_eq_some_iff.mp read
      exact spelled_of_readTruth? truthRead
  | enumeration labels =>
      rw [ofLiteral?] at read
      split at read
      next listed =>
        cases read
        exact .label (List.contains_iff_mem.mp listed)
      next => cases read

theorem Spelled.ofLiteral? {target : AttributeType} {literal : String} {value : Value}
    (spelled : Spelled target literal value) : ofLiteral? literal target = some value := by
  cases spelled with
  | string => rfl
  | integer numeral least most =>
      have read := Decimal.readBounded?_eq_some_iff.mpr ⟨numeral, least, Int.le_sub_one_of_lt most⟩
      exact congrArg (Option.map Value.integer) read
  | long numeral least most =>
      have read := Decimal.readBounded?_eq_some_iff.mpr ⟨numeral, least, Int.le_sub_one_of_lt most⟩
      exact congrArg (Option.map Value.long) read
  | truth inAnyCase =>
      have sameTrue := (Text.sameLetters_iff_inAnyCase (by decide)).mpr inAnyCase
      rw [Value.ofLiteral?, readTruth?, if_pos sameTrue]
      rfl
  | falsehood inAnyCase =>
      have sameFalse := (Text.sameLetters_iff_inAnyCase (by decide)).mpr inAnyCase
      have notTrue : ¬Text.sameLetters literal "true" = true := by
        intro sameTrue
        rw [Text.sameLetters, beq_iff_eq] at sameTrue sameFalse
        rw [sameTrue] at sameFalse
        exact absurd sameFalse (by decide)
      rw [Value.ofLiteral?, readTruth?, if_neg notTrue, if_pos sameFalse]
      rfl
  | label listed => rw [Value.ofLiteral?, if_pos (List.contains_iff_mem.mpr listed)]

theorem Spelled.tag {target : AttributeType} {literal : String} {value : Value}
    (spelled : Spelled target literal value) : value.tag = target.tag := by
  cases spelled <;> rfl

/-- The text of a spelled value is a spelling of it, whatever literal it was read from. -/
theorem Spelled.plainText {target : AttributeType} {literal : String} {value : Value}
    (spelled : Spelled target literal value) : Spelled target value.plainText value := by
  cases spelled with
  | string => exact .string _
  | integer _ least most => exact .integer (Decimal.numeral_toString _) least most
  | long _ least most => exact .long (Decimal.numeral_toString _) least most
  | truth => exact .truth (Text.inAnyCase_refl _)
  | falsehood => exact .falsehood (Text.inAnyCase_refl _)
  | label listed => exact .label listed

theorem coerce_eq_ok_iff_spelled (name literal : String) {target : AttributeType} {value : Value}
    (notDouble : target ≠ .double) (notFloat : target ≠ .float) :
    coerce name literal target = .ok value ↔ Spelled target literal value := by
  rw [Predicate.coerce_eq_ok_iff]
  exact ⟨spelled_of_ofLiteral? notDouble notFloat, Spelled.ofLiteral?⟩

/-- Coercion to a type without fractions takes exactly the literals that spell a value, for the
value they spell, which has the tag of the type and is found again from its text.  Every other
literal is refused by an error that names the attribute, the literal and the type. -/
theorem coerce_finds_spelled_value (name literal : String) (target : AttributeType)
    (notDouble : target ≠ .double) (notFloat : target ≠ .float) :
    (∀ value, coerce name literal target = .ok value ↔ Spelled target literal value) ∧
      (∀ value, coerce name literal target = .ok value →
        value.tag = target.tag ∧ coerce name value.plainText target = .ok value) ∧
      ((∀ value, ¬Spelled target literal value) ↔
        coerce name literal target = .error (.valueCoercion name literal target)) := by
  have okIff : ∀ value, coerce name literal target = .ok value ↔ Spelled target literal value :=
    fun value => coerce_eq_ok_iff_spelled name literal notDouble notFloat
  refine ⟨okIff, ?_, ?_⟩
  · intro value coerced
    have spelled := (okIff value).mp coerced
    have again := (coerce_eq_ok_iff_spelled name _ notDouble notFloat).mpr spelled.plainText
    exact ⟨spelled.tag, again⟩
  · constructor
    · intro unspelled
      rw [coerce]
      cases read : Value.ofLiteral? literal target with
      | none => rfl
      | some value => exact absurd (spelled_of_ofLiteral? notDouble notFloat read) (unspelled value)
    · intro refused value spelled
      rw [(okIff value).mpr spelled] at refused
      cases refused

/-- The least number of 32 bits is read, from a numeral of any length, and the number below it is
refused. -/
theorem coerce_finds_spelled_value_least :
    coerce "age" "-000000000000000000002147483648" .integer = .ok (.integer (-2147483648)) ∧
      coerce "age" "-2147483649" .integer =
        .error (.valueCoercion "age" "-2147483649" .integer) := by
  have least := coerce_finds_spelled_value "age" "-000000000000000000002147483648" .integer
    (by decide) (by decide)
  have below := coerce_finds_spelled_value "age" "-2147483649" .integer (by decide) (by decide)
  have leastNumeral : Decimal.Numeral "-000000000000000000002147483648".toList (-2147483648) :=
    Decimal.numeral_of_readInt? (by decide)
  refine ⟨(least.1 _).mpr (.integer leastNumeral (by decide) (by decide)), below.2.2.mp ?_⟩
  rintro _ (_ | ⟨numeral, withinLeast, _⟩)
  have read := Decimal.readInt?_of_numeral numeral
  rw [show Decimal.readInt? "-2147483649".toList = some (-2147483649) by decide] at read
  cases read
  exact absurd withinLeast (by decide)

end Value

end SearchQuery
