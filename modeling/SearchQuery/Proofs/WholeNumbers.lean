import Mathlib.Data.List.Forall2
import SearchQuery.Proofs.Numerals
import SearchQuery.Proofs.Rounding
import SearchQuery.Proofs.Sql.Agreement

/-!
# The order of whole numbers

Whole numbers of documents, written as numbers or as texts, are ordered as whole numbers.  Numerals
beyond 64 bits are the exception: they are read in double precision, where those next to the 64-bit
numbers are the same as the numbers at the ends of these.
-/

set_option autoImplicit false

namespace SearchQuery

/-- The value is a whole number of its type. -/
inductive Value.Holds : Value → Int → Prop where
  | integer {number : Int} (least : -2 ^ 31 ≤ number) (most : number < 2 ^ 31) :
      Value.Holds (.integer number) number
  | long {number : Int} (least : -2 ^ 63 ≤ number) (most : number < 2 ^ 63) :
      Value.Holds (.long number) number

namespace Document

/-- The document value is a whole number, or the numeral of one. -/
inductive Stands : Json → Int → Prop where
  | number (whole : Int) : Stands (.number (.integer whole)) whole
  | text {text : String} {whole : Int} (numeral : Decimal.Numeral text.toList whole) :
      Stands (.string text) whole

/-- The first number lies beyond an end of the 64-bit numbers and the second within, and both are
so near to the end that they are rounded to it. -/
def Merges (beyond number : Int) : Prop :=
  (2 ^ 63 ≤ beyond ∧ beyond ≤ 2 ^ 63 + 1024 ∧ 2 ^ 63 - 512 ≤ number) ∨
    (-2 ^ 63 - 1024 ≤ beyond ∧ beyond < -2 ^ 63 ∧ number ≤ -2 ^ 63 + 512)

/-- The document value is a numeral that cannot be told from the number. -/
def Blurred (document : Json) (number : Int) : Prop :=
  ∃ text beyond, document = .string text ∧ Decimal.Numeral text.toList beyond ∧
    Merges beyond number

/-! ## Numerals -/

section

variable {text : String} {whole number : Int}

theorem blurred_text_iff (numeral : Decimal.Numeral text.toList whole) :
    Blurred (.string text) number ↔ Merges whole number := by
  constructor
  · rintro ⟨sameText, beyond, same, otherNumeral, merges⟩
    cases same
    have sameRead := Decimal.readInt?_of_numeral otherNumeral
    rw [Decimal.readInt?_of_numeral numeral] at sameRead
    cases sameRead
    exact merges
  · intro merges
    exact ⟨text, whole, rfl, numeral, merges⟩

theorem compareInteger?_within (numeral : Decimal.Numeral text.toList whole)
    (least : -2 ^ 63 ≤ whole) (most : whole < 2 ^ 63) :
    compareInteger? (.string text) number = some (compare whole number) := by
  have read : Value.readLong? text = some whole := by
    rw [Value.readLong?, Decimal.readBounded?_of_numeral numeral, if_pos]
    omega
  simp only [compareInteger?, read]

theorem compareInteger?_beyond (numeral : Decimal.Numeral text.toList whole)
    (beyond : whole < -2 ^ 63 ∨ 2 ^ 63 ≤ whole) (small : number.natAbs ≤ 2 ^ 63) :
    compareInteger? (.string text) number =
      some (compare (Binary.rounded whole) (Binary.rounded number)) := by
  have notRead : Value.readLong? text = none := by
    rw [Value.readLong?, Decimal.readBounded?_of_numeral numeral, if_neg]
    omega
  have nonzero : whole ≠ 0 := by omega
  simp only [compareInteger?, notRead, Binary.read?_of_numeral numeral nonzero]
  exact Binary.compare?_of_rounds (Binary.ofDecimal_rounds nonzero) (Binary.ofInt_rounds number)
    small

/-- Beyond 64 bits rounding keeps the order, or makes the two sides equal. -/
theorem compare_rounded (beyond : whole < -2 ^ 63 ∨ 2 ^ 63 ≤ whole) (least : -2 ^ 63 ≤ number)
    (most : number < 2 ^ 63) :
    (Merges whole number →
      compare (Binary.rounded whole) (Binary.rounded number) = .eq) ∧
    (¬Merges whole number →
      compare (Binary.rounded whole) (Binary.rounded number) = compare whole number) := by
  have inner := Binary.rounded_of_natAbs_le (show number.natAbs ≤ 2 ^ 63 by omega)
  unfold Merges
  -- An end of the range lies between the two numbers, and rounding carries neither of them past it.
  rcases beyond with below | above
  · have outer := Binary.rounded_of_le (Int.le_of_lt below)
    constructor
    · intro merges
      rw [compare_eq_iff_eq]
      omega
    · intro apart
      have less : Binary.rounded whole < Binary.rounded number := by omega
      rw [compare_lt_iff_lt.mpr less, compare_lt_iff_lt.mpr (by omega)]
  · have outer := Binary.rounded_of_ge above
    constructor
    · intro merges
      rw [compare_eq_iff_eq]
      omega
    · intro apart
      have greater : Binary.rounded number < Binary.rounded whole := by omega
      rw [compare_gt_iff_gt.mpr greater, compare_gt_iff_gt.mpr (by omega)]

end

/-! ## Values -/

section

variable {document : Json} {value : Value} {whole number : Int}

theorem compare?_of_holds (document : Json) (holds : value.Holds number) :
    compare? document value = compareInteger? document number := by
  cases holds <;> rfl

theorem bounds_of_holds (holds : value.Holds number) : -2 ^ 63 ≤ number ∧ number < 2 ^ 63 := by
  cases holds with
  | integer least most => omega
  | long least most => exact ⟨least, most⟩

theorem compare?_of_not_blurred (stands : Stands document whole) (holds : value.Holds number)
    (clear : ¬Blurred document number) :
    compare? document value = some (compare whole number) := by
  obtain ⟨least, most⟩ := bounds_of_holds holds
  rw [compare?_of_holds document holds]
  cases stands with
  | number => rfl
  | text numeral =>
      rw [blurred_text_iff numeral] at clear
      by_cases within : -2 ^ 63 ≤ whole ∧ whole < 2 ^ 63
      · exact compareInteger?_within numeral within.1 within.2
      · have beyond : whole < -2 ^ 63 ∨ 2 ^ 63 ≤ whole := by omega
        rw [compareInteger?_beyond numeral beyond (by omega),
          (compare_rounded beyond least most).2 clear]

theorem compare?_of_blurred (holds : value.Holds number) (blurred : Blurred document number) :
    compare? document value = some .eq := by
  obtain ⟨least, most⟩ := bounds_of_holds holds
  obtain ⟨text, beyond, rfl, numeral, merges⟩ := blurred
  have isBeyond : beyond < -2 ^ 63 ∨ 2 ^ 63 ≤ beyond := by
    unfold Merges at merges
    omega
  rw [compare?_of_holds _ holds, compareInteger?_beyond numeral isBeyond (by omega),
    (compare_rounded isBeyond least most).1 merges]

theorem ne_of_blurred (stands : Stands document whole) (holds : value.Holds number)
    (blurred : Blurred document number) : whole ≠ number := by
  have bounds := bounds_of_holds holds
  cases stands with
  | number =>
      obtain ⟨_, _, isText, _⟩ := blurred
      cases isText
  | text numeral =>
      rw [blurred_text_iff numeral, Merges] at blurred
      omega

end

/-! ## Filters -/

theorem any_eq_any_of_forall₂ {α β : Type} {related : α → β → Prop} {test : α → Bool}
    {other : β → Bool} {items : List α} {partners : List β}
    (paired : List.Forall₂ related items partners)
    (same : ∀ item ∈ items, ∀ partner ∈ partners, related item partner →
      test item = other partner) :
    items.any test = partners.any other := by
  induction paired with
  | nil => rfl
  | cons first _ inductionHypothesis =>
      have later := inductionHypothesis fun item member partner partnerMember =>
        same item (List.mem_cons_of_mem _ member) partner (List.mem_cons_of_mem _ partnerMember)
      rw [List.any_cons, List.any_cons, later,
        same _ List.mem_cons_self _ List.mem_cons_self first]

section

variable {record : Json} {name : String} {wholes : List Int}

theorem anyPresent_of_stands {test : Json → Bool} {other : Int → Bool}
    (present : List.Forall₂ Stands (presentValues record name) wholes) (nonempty : wholes ≠ [])
    (same : ∀ leaf ∈ presentValues record name, ∀ whole, Stands leaf whole →
      test leaf = other whole) :
    anyPresent record name test = some (wholes.any other) := by
  rw [← any_eq_any_of_forall₂ present fun leaf member whole _ => same leaf member whole, anyPresent]
  cases found : presentValues record name with
  | nil =>
      rw [found, List.forall₂_nil_left_iff] at present
      exact absurd present nonempty
  | cons first others => rfl

theorem evaluate_comparison_of_stands {kind : Comparison} {sign : Sign} {value : Value}
    {number : Int} (present : List.Forall₂ Stands (presentValues record name) wholes)
    (nonempty : wholes ≠ []) (expressed : kind.expression = .sign sign)
    (holds : value.Holds number)
    (clear : ∀ leaf ∈ presentValues record name, ¬Blurred leaf number) :
    evaluate record (.comparison name kind value) =
      some (wholes.any fun whole => Sql.holds sign (compare whole number)) := by
  apply anyPresent_of_stands present nonempty
  intro leaf member whole stands
  exact Sql.satisfies_eq_holds expressed (compare?_of_not_blurred stands holds (clear leaf member))

theorem evaluate_membership_of_stands {values : List Value} {numbers : List Int}
    (present : List.Forall₂ Stands (presentValues record name) wholes) (nonempty : wholes ≠ [])
    (listed : List.Forall₂ Value.Holds values numbers)
    (clear : ∀ leaf ∈ presentValues record name, ∀ number ∈ numbers, ¬Blurred leaf number) :
    evaluate record (.membership name values) =
      some (wholes.any fun whole => decide (whole ∈ numbers)) := by
  apply anyPresent_of_stands present nonempty
  intro leaf member whole stands
  have equations : (values.any fun value => compare? leaf value == some .eq) =
      numbers.any fun number => whole == number := by
    apply any_eq_any_of_forall₂ listed
    intro value _ number isListed holds
    rw [compare?_of_not_blurred stands holds (clear leaf member number isListed), Bool.eq_iff_iff,
      beq_iff_eq, beq_iff_eq, Option.some.injEq, compare_eq_iff_eq]
  rw [equations, List.any_beq, Bool.eq_iff_iff, List.contains_iff_mem, decide_eq_true_iff]

end

/-- Whole numbers are ordered exactly unless the document has a numeral that cannot be told from the
number; such a numeral is equal to the number.  Filters that meet none compare whole numbers. -/
theorem whole_numbers_compare_exactly_iff {document : Json} {value : Value} {whole number : Int}
    (stands : Stands document whole) (holds : value.Holds number) :
    (compare? document value = some (compare whole number) ↔ ¬Blurred document number) ∧
    (compare? document value = some .eq ↔ whole = number ∨ Blurred document number) ∧
    (∀ {record : Json} {name : String} {wholes : List Int},
      List.Forall₂ Stands (presentValues record name) wholes → wholes ≠ [] →
        (∀ {kind : Comparison} {sign : Sign}, kind.expression = .sign sign →
          (∀ leaf ∈ presentValues record name, ¬Blurred leaf number) →
            evaluate record (.comparison name kind value) =
              some (wholes.any fun whole => Sql.holds sign (compare whole number))) ∧
        (∀ {values : List Value} {numbers : List Int}, List.Forall₂ Value.Holds values numbers →
          (∀ leaf ∈ presentValues record name, ∀ number ∈ numbers, ¬Blurred leaf number) →
            evaluate record (.membership name values) =
              some (wholes.any fun whole => decide (whole ∈ numbers)))) := by
  refine ⟨?_, ?_, ?_⟩
  · constructor
    · intro sameOrder blurred
      rw [compare?_of_blurred holds blurred, Option.some.injEq, eq_comm,
        compare_eq_iff_eq] at sameOrder
      exact ne_of_blurred stands holds blurred sameOrder
    · intro clear
      exact compare?_of_not_blurred stands holds clear
  · by_cases blurred : Blurred document number
    · simp only [compare?_of_blurred holds blurred, blurred, or_true]
    · rw [compare?_of_not_blurred stands holds blurred, Option.some.injEq, compare_eq_iff_eq,
        or_iff_left blurred]
  · intro record name wholes present nonempty
    constructor
    · intro kind sign expressed clear
      exact evaluate_comparison_of_stands present nonempty expressed holds clear
    · intro values numbers listed clear
      exact evaluate_membership_of_stands present nonempty listed clear

/-- A record whose numbers are neighbours in double precision, or beyond 64 bits. -/
def sampleLedger : Json :=
  .object [("n", .array [.string "+009007199254740993", .number (.integer (2 ^ 64 - 1)),
    .string "-9223372036854776833"])]

theorem whole_numbers_compare_exactly_iff_ledger :
    Stands (.string "-9223372036854776833") (-9223372036854776833) ∧
    Value.Holds (.long (-2 ^ 63)) (-2 ^ 63) ∧
    compare? (.string "-9223372036854776833") (.long (-2 ^ 63)) = some .lt ∧
    List.Forall₂ Stands (presentValues sampleLedger "n")
      [-9223372036854776833, 2 ^ 64 - 1, 9007199254740993] ∧
    evaluate sampleLedger (.comparison "n" .lessThan (.long (-2 ^ 63))) = some true ∧
    evaluate sampleLedger (.membership "n" [.long 9007199254740992, .long (-2 ^ 63), .integer 7]) =
      some false := by
  have presentIs : presentValues sampleLedger "n" = [.string "-9223372036854776833",
      .number (.integer (2 ^ 64 - 1)), .string "+009007199254740993"] := by with_unfolding_all rfl
  have small : Decimal.Numeral "+009007199254740993".toList 9007199254740993 :=
    Decimal.Numeral.plus ⟨by decide, List.all_eq_true.mp (by decide)⟩
  have large : Decimal.Numeral "-9223372036854776833".toList (-9223372036854776833) :=
    Decimal.Numeral.minus ⟨by decide, List.all_eq_true.mp (by decide)⟩
  have least : Value.Holds (.long (-2 ^ 63)) (-2 ^ 63) := .long (by decide) (by decide)
  have present : List.Forall₂ Stands (presentValues sampleLedger "n")
      [-9223372036854776833, 2 ^ 64 - 1, 9007199254740993] := by
    rw [presentIs]
    exact .cons (.text large) (.cons (.number _) (.cons (.text small) .nil))
  have listed : List.Forall₂ Value.Holds [.long 9007199254740992, .long (-2 ^ 63), .integer 7]
      [9007199254740992, -2 ^ 63, 7] :=
    .cons (.long (by decide) (by decide))
      (.cons least (.cons (.integer (by decide) (by decide)) .nil))
  have clear : ∀ leaf ∈ presentValues sampleLedger "n",
      ∀ number ∈ [9007199254740992, -2 ^ 63, 7], ¬Blurred leaf number := by
    rw [presentIs]
    simp only [List.forall_mem_cons, blurred_text_iff small, blurred_text_iff large, Merges]
    simp [Blurred]
  have clearOfLeast : ∀ leaf ∈ presentValues sampleLedger "n", ¬Blurred leaf (-2 ^ 63) := by
    intro leaf member
    exact clear leaf member (-2 ^ 63) (List.mem_cons_of_mem _ List.mem_cons_self)
  obtain ⟨ordered, _, filters⟩ := whole_numbers_compare_exactly_iff (.text large) least
  obtain ⟨comparisons, memberships⟩ := filters present (List.cons_ne_nil _ _)
  have isPresent : Json.string "-9223372036854776833" ∈ presentValues sampleLedger "n" := by
    rw [presentIs]
    simp
  exact ⟨.text large, least, ordered.mpr (clearOfLeast _ isPresent), present,
    (comparisons rfl clearOfLeast).trans (by decide), (memberships listed clear).trans (by decide)⟩

/-- The first number beyond 64 bits, as a text, is equal to two numbers within. -/
theorem whole_numbers_merged :
    Decimal.Numeral "9223372036854775808".toList (2 ^ 63) ∧
      compare? (.string "9223372036854775808") (.long (2 ^ 63 - 1)) = some .eq ∧
      compare? (.string "9223372036854775808") (.long (2 ^ 63 - 2)) = some .eq ∧
      isMatch (.membership "n" [.long (2 ^ 63 - 1)])
        (.object [("n", .string "9223372036854775808")]) = true := by
  refine ⟨Decimal.Numeral.unsigned ⟨by decide, List.all_eq_true.mp (by decide)⟩, ?_⟩
  decide +kernel

end Document

end SearchQuery
