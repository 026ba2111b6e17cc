import Mathlib.Data.Nat.Digits.Defs
import SearchQuery.Proofs.Basic
import SearchQuery.Value.Basic

/-!
# Whole numbers as they are written

A numeral is a row of decimal digits, of any length, with or without a sign; what it stands for is
given by positional notation.  Reading finds exactly the numerals and their values, and what is
read as a fraction is the same number.
-/

set_option autoImplicit false

namespace SearchQuery

namespace Decimal

/-! ## Positional notation -/

/-- The number that a row of digits stands for, the last digit counting ones. -/
def positional (row : List Char) : Nat :=
  Nat.ofDigits 10 (row.reverse.map digitValue)

theorem positional_cons (c : Char) (rest : List Char) :
    positional (c :: rest) = digitValue c * 10 ^ rest.length + positional rest := by
  rw [positional, positional, List.reverse_cons, List.map_append, Nat.ofDigits_append,
    List.length_map, List.length_reverse, List.map_cons, List.map_nil, Nat.ofDigits_singleton,
    Nat.mul_comm, Nat.add_comm]

theorem digits_eq_positional :
    ∀ (row : List Char) (start : Nat),
      digits start row = start * 10 ^ row.length + positional row := by
  intro row
  induction row with
  | nil =>
      intro start
      simp [digits, positional]
  | cons c rest inductionHypothesis =>
      intro start
      have later := inductionHypothesis (10 * start + digitValue c)
      rw [digits, List.foldl_cons]
      rw [digits] at later
      rw [later, positional_cons, List.length_cons, Nat.pow_succ]
      ring

/-! ## Numerals -/

/-- A row of digits, at least one. -/
structure IsRow (row : List Char) : Prop where
  nonempty : row ≠ []
  allDigits : ∀ c ∈ row, c.isDigit = true

/-- The text is the numeral of the number. -/
inductive Numeral : List Char → Int → Prop where
  | unsigned {row : List Char} (isRow : IsRow row) : Numeral row (positional row)
  | plus {row : List Char} (isRow : IsRow row) : Numeral ('+' :: row) (positional row)
  | minus {row : List Char} (isRow : IsRow row) : Numeral ('-' :: row) (-(positional row))

theorem IsRow.takeSign {row : List Char} (isRow : IsRow row) : takeSign row = (false, row) := by
  obtain ⟨first, others, rfl⟩ := List.exists_cons_of_ne_nil isRow.nonempty
  have firstDigit := isRow.allDigits first List.mem_cons_self
  unfold Decimal.takeSign
  split
  next same =>
    cases same
    cases firstDigit
  next same =>
    cases same
    cases firstDigit
  next => rfl

/-- A numeral without its sign is a row of digits, and the sign is that of the number. -/
theorem Numeral.takeSign {text : List Char} {value : Int} (numeral : Numeral text value) :
    ∃ negative row, takeSign text = (negative, row) ∧ IsRow row ∧
      value = if negative then -(positional row : Int) else positional row := by
  cases numeral with
  | unsigned isRow => exact ⟨false, text, isRow.takeSign, isRow, rfl⟩
  | @plus row isRow => exact ⟨false, row, rfl, isRow, rfl⟩
  | @minus row isRow => exact ⟨true, row, rfl, isRow, rfl⟩

theorem readNat?_of_isRow {row : List Char} (isRow : IsRow row) :
    readNat? row = some (positional row) := by
  have nonempty : row.isEmpty = false := List.isEmpty_eq_false_iff.mpr isRow.nonempty
  have allDigits : row.all Char.isDigit = true := List.all_eq_true.mpr isRow.allDigits
  rw [readNat?, nonempty, allDigits, digits_eq_positional]
  simp

theorem readInt?_of_numeral {text : List Char} {value : Int} (numeral : Numeral text value) :
    readInt? text = some value := by
  obtain ⟨negative, row, signed, isRow, rfl⟩ := numeral.takeSign
  rw [readInt?, signed]
  simp only [readNat?_of_isRow isRow]

theorem readBounded?_of_numeral {least most value : Int} {text : List Char}
    (numeral : Numeral text value) :
    readBounded? least most text = if least ≤ value ∧ value ≤ most then some value else none := by
  rw [readBounded?, readInt?_of_numeral numeral]

theorem isRow_of_readNat? {text : List Char} {magnitude : Nat}
    (read : readNat? text = some magnitude) : IsRow text ∧ magnitude = positional text := by
  have isRow : IsRow text := by
    unfold readNat? at read
    split at read
    next => cases read
    next nonempty =>
      split at read
      next allDigits =>
        exact ⟨fun empty => nonempty (List.isEmpty_iff.mpr empty), List.all_eq_true.mp allDigits⟩
      next => cases read
  rw [readNat?_of_isRow isRow] at read
  exact ⟨isRow, (Option.some.inj read).symm⟩

/-- A row of digits after a sign, or after none, is a numeral. -/
theorem numeral_of_takeSign {text row : List Char} {negative : Bool}
    (signed : takeSign text = (negative, row)) (isRow : IsRow row) :
    Numeral text (if negative then -(positional row : Int) else positional row) := by
  unfold takeSign at signed
  split at signed
  next =>
    cases signed
    exact .plus isRow
  next =>
    cases signed
    exact .minus isRow
  next =>
    cases signed
    exact .unsigned isRow

theorem numeral_of_readInt? {text : List Char} {value : Int} (read : readInt? text = some value) :
    Numeral text value := by
  unfold readInt? at read
  simp only at read
  split at read
  next => cases read
  next magnitude magnitudeRead =>
    obtain ⟨isRow, rfl⟩ := isRow_of_readNat? magnitudeRead
    cases read
    exact numeral_of_takeSign rfl isRow

theorem readInt?_eq_some_iff {text : List Char} {value : Int} :
    readInt? text = some value ↔ Numeral text value :=
  ⟨numeral_of_readInt?, readInt?_of_numeral⟩

theorem readBounded?_eq_some_iff {least most value : Int} {text : List Char} :
    readBounded? least most text = some value ↔
      Numeral text value ∧ least ≤ value ∧ value ≤ most := by
  rw [readBounded?, ← readInt?_eq_some_iff]
  cases readInt? text <;> grind

/-! ## Numerals that are written -/

theorem isRow_toDigits (number : Nat) :
    IsRow (Nat.toDigits 10 number) ∧ positional (Nat.toDigits 10 number) = number := by
  constructor
  · exact ⟨Nat.toDigits_ne_nil, fun _ => Nat.isDigit_of_mem_toDigits (by decide) (by decide)⟩
  · have value := digits_eq_positional (Nat.toDigits 10 number) 0
    rw [Nat.zero_mul, Nat.zero_add] at value
    rw [← value]
    exact Nat.ofDigitChars_ten_toDigits

theorem numeral_toString (number : Int) : Numeral (toString number).toList number := by
  rw [Int.toString_eq_repr]
  cases number with
  | ofNat magnitude =>
      obtain ⟨isRow, value⟩ := isRow_toDigits magnitude
      have numeral := Numeral.unsigned isRow
      rw [value] at numeral
      rw [Int.repr, Nat.toList_repr]
      exact numeral
  | negSucc less =>
      obtain ⟨isRow, value⟩ := isRow_toDigits (less + 1)
      have numeral := Numeral.minus isRow
      rw [value] at numeral
      rw [Int.repr, String.toList_append, Nat.toList_repr]
      exact numeral

/-! ## Numerals read as fractions -/

theorem readFraction?_of_isRow {row : List Char} (isRow : IsRow row) :
    readFraction? row = some ⟨positional row, 0⟩ := by
  have taken : (row ++ []).takeWhile Char.isDigit = row := Text.takeWhile_run isRow.allDigits rfl
  have dropped : (row ++ []).dropWhile Char.isDigit = [] := Text.dropWhile_run isRow.allDigits rfl
  rw [List.append_nil] at taken dropped
  have nonempty : row.isEmpty = false := List.isEmpty_eq_false_iff.mpr isRow.nonempty
  have wholePart : digits 0 row = positional row := by
    rw [digits_eq_positional]
    simp
  simp only [readFraction?, taken, dropped, nonempty, readPower?, wholePart, List.isEmpty_nil,
    Bool.false_and, Bool.false_eq_true, if_false, List.length_nil]
  simp [digits]

theorem toLower_of_isDigit {c : Char} (isDigit : c.isDigit = true) : c.toLower = c := by
  have small : c.val ≤ '9'.val := by
    simp only [Char.isDigit, Bool.and_eq_true, decide_eq_true_eq] at isDigit
    exact isDigit.2
  apply dif_neg
  rintro ⟨large, _⟩
  exact absurd (UInt32.le_trans large small) (by decide)

/-- A row of digits is no word. -/
theorem not_sameLetters_of_isRow {row : List Char} (isRow : IsRow row) {word : String}
    (noDigit : (word.toList.map Char.toLower).any Char.isDigit = false) :
    Text.sameLetters (String.ofList row) word = false := by
  obtain ⟨first, others, rfl⟩ := List.exists_cons_of_ne_nil isRow.nonempty
  have firstDigit := isRow.allDigits first List.mem_cons_self
  rw [Text.sameLetters, beq_eq_false_iff_ne, String.toList_ofList]
  intro same
  rw [← same, List.map_cons, toLower_of_isDigit firstDigit, List.any_cons, firstDigit] at noDigit
  cases noDigit

end Decimal

/-- A numeral that is read as a fraction is rounded from the number it stands for. -/
theorem Binary.read?_of_numeral {text : String} {value : Int}
    (numeral : Decimal.Numeral text.toList value) (nonzero : value ≠ 0) (format : BinaryFormat) :
    Binary.read? format text = some (Binary.ofDecimal format (value < 0) value.natAbs 0) := by
  obtain ⟨negative, row, signed, isRow, rfl⟩ := numeral.takeSign
  have noNan : Text.sameLetters (String.ofList row) "nan" = false :=
    Decimal.not_sameLetters_of_isRow isRow (by decide)
  have noInf : Text.sameLetters (String.ofList row) "inf" = false :=
    Decimal.not_sameLetters_of_isRow isRow (by decide)
  have noInfinity : Text.sameLetters (String.ofList row) "infinity" = false :=
    Decimal.not_sameLetters_of_isRow isRow (by decide)
  rw [Binary.read?, signed]
  simp only [noNan, noInf, noInfinity, Bool.or_self, Bool.false_eq_true, if_false,
    Decimal.readFraction?_of_isRow isRow]
  cases negative with
  | false =>
      have notBelow : ¬((Decimal.positional row : Int) < 0) := by omega
      rw [if_neg (by decide), decide_eq_false notBelow, Int.natAbs_natCast]
  | true =>
      have below : -(Decimal.positional row : Int) < 0 := by
        simp only [if_true] at nonzero
        omega
      rw [if_pos rfl, decide_eq_true below, Int.natAbs_neg, Int.natAbs_natCast]

end SearchQuery
