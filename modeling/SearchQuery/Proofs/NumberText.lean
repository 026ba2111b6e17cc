import SearchQuery.Proofs.JsonText
import SearchQuery.Proofs.ShortestDigits

/-!
# Numbers in JSON text

Whatever number a query compares with, its text is a numeral of JSON: it has a digit before the
point and one after it, and no needless zero in front.  So it is read back as a number, and the text
around it is not touched.
-/

set_option autoImplicit false

namespace SearchQuery

namespace Numeral

/-! ## How a numeral is written -/

def signCharacters (negative : Bool) : List Char :=
  if negative then ['-'] else []

def partCharacters : List Char → List Char
  | [] => []
  | c :: rest => '.' :: c :: rest

/-- The power of ten always has a sign. -/
def powerCharacters : Option (Bool × List Char) → List Char
  | none => []
  | some (negative, row) => 'e' :: (if negative then '-' else '+') :: row

def characters (numeral : Numeral) : List Char :=
  signCharacters numeral.negative ++
    (numeral.whole ++ (partCharacters numeral.part ++ powerCharacters numeral.power))

structure Spelled (numeral : Numeral) : Prop where
  whole : Decimal.IsRow numeral.whole
  leadingZero : numeral.whole.head? = some '0' → numeral.whole.length = 1
  part : ∀ c ∈ numeral.part, c.isDigit = true
  power : ∀ negative row, numeral.power = some (negative, row) → Decimal.IsRow row

theorem stops_of_endsValue {rest : List Char} (ends : JsonForm.endsValue rest = true) :
    rest.takeWhile Char.isDigit = [] := by
  apply Text.takeWhile_eq_nil
  intro c first
  obtain ⟨others, rfl⟩ := List.head?_eq_some_iff.mp first
  simp only [JsonForm.endsValue, Bool.or_eq_true, beq_iff_eq] at ends
  rcases ends with (rfl | rfl) | rfl <;> rfl

theorem readPower?_powerCharacters {power : Option (Bool × List Char)} {rest : List Char}
    (isRow : ∀ negative row, power = some (negative, row) → Decimal.IsRow row)
    (ends : JsonForm.endsValue rest = true) :
    readPower? (powerCharacters power ++ rest) = some (power, rest) := by
  cases power with
  | none =>
      cases rest with
      | nil => rfl
      | cons c others =>
          simp only [JsonForm.endsValue, Bool.or_eq_true, beq_iff_eq] at ends
          rcases ends with (rfl | rfl) | rfl <;> rfl
  | some signed =>
      obtain ⟨negative, row⟩ := signed
      have spelled := isRow negative row rfl
      have nonempty : row.isEmpty = false := List.isEmpty_eq_false_iff.mpr spelled.nonempty
      have taken := Text.takeWhile_run spelled.allDigits (stops_of_endsValue ends)
      have dropped := Text.dropWhile_run spelled.allDigits (stops_of_endsValue ends)
      cases negative <;>
        simp [powerCharacters, readPower?, Decimal.takeSign, taken, dropped, nonempty]

/-- After the digits there is no other digit, and no point unless there is a part. -/
theorem powerCharacters_starts (power : Option (Bool × List Char)) {rest : List Char}
    (ends : JsonForm.endsValue rest = true) :
    ∀ c ∈ (powerCharacters power ++ rest).head?, c.isDigit = false ∧ c ≠ '.' := by
  intro c first
  cases power with
  | none =>
      obtain ⟨others, rfl⟩ := List.head?_eq_some_iff.mp first
      simp only [JsonForm.endsValue, Bool.or_eq_true, beq_iff_eq] at ends
      rcases ends with (rfl | rfl) | rfl <;> decide
  | some signed =>
      cases first
      decide

theorem readPart?_partCharacters {part after : List Char}
    (allDigits : ∀ c ∈ part, c.isDigit = true)
    (starts : ∀ c ∈ after.head?, c.isDigit = false ∧ c ≠ '.') :
    readPart? (partCharacters part ++ after) = some (part, after) := by
  have stops : after.takeWhile Char.isDigit = [] :=
    Text.takeWhile_eq_nil fun c first => (starts c first).1
  cases part with
  | nil =>
      rw [partCharacters, List.nil_append]
      unfold readPart?
      split
      next rest => exact absurd rfl (starts '.' rfl).2
      next => rfl
  | cons c others =>
      have taken := Text.takeWhile_run allDigits stops
      have dropped := Text.dropWhile_run allDigits stops
      rw [partCharacters, List.cons_append, readPart?, taken, dropped]
      rfl

/-- A numeral is read back from what is written, up to the end of the value. -/
theorem read?_characters {numeral : Numeral} (spelled : numeral.Spelled) {rest : List Char}
    (ends : JsonForm.endsValue rest = true) :
    read? (numeral.characters ++ rest) = some (numeral, rest) := by
  obtain ⟨negative, whole, part, power⟩ := numeral
  obtain ⟨isRow, leadingZero, partDigits, powerRow⟩ := spelled
  have starts := powerCharacters_starts power ends
  have partRead := readPart?_partCharacters partDigits starts
  have powerRead := readPower?_powerCharacters powerRow ends
  have stops : (partCharacters part ++ (powerCharacters power ++ rest)).takeWhile Char.isDigit =
      [] := by
    cases part with
    | nil => exact Text.takeWhile_eq_nil fun c first => (starts c first).1
    | cons c others => rfl
  have taken := Text.takeWhile_run isRow.allDigits stops
  have dropped := Text.dropWhile_run isRow.allDigits stops
  have accepted : (whole.isEmpty || (whole.length > 1 && whole.head? == some '0')) = false := by
    have nonempty : whole.isEmpty = false := List.isEmpty_eq_false_iff.mpr isRow.nonempty
    rw [nonempty, Bool.false_or, Bool.and_eq_false_iff]
    by_cases zero : whole.head? = some '0'
    · exact .inl (by simp [leadingZero zero])
    · exact .inr (by simpa using zero)
  have text : (Numeral.mk negative whole part power).characters ++ rest =
      signCharacters negative ++
        (whole ++ (partCharacters part ++ (powerCharacters power ++ rest))) := by
    simp only [characters, List.append_assoc]
  rw [text]
  cases negative with
  | true =>
      rw [signCharacters, if_pos rfl, List.cons_append, List.nil_append, read?]
      simp only [taken, dropped, accepted, partRead, powerRead, Bool.false_eq_true, if_false]
  | false =>
      obtain ⟨first, others, rfl⟩ := List.exists_cons_of_ne_nil isRow.nonempty
      have firstDigit := isRow.allDigits first List.mem_cons_self
      rw [signCharacters, if_neg (by decide), List.nil_append, read?]
      · simp only [taken, dropped, accepted, partRead, powerRead, Bool.false_eq_true, if_false]
      · intro unsigned same
        cases same
        cases firstDigit

theorem Spelled.characters_eq_cons {numeral : Numeral} (spelled : numeral.Spelled) :
    ∃ first others, numeral.characters = first :: others ∧
      (first = '-' ∨ first.isDigit = true) := by
  obtain ⟨first, others, whole⟩ := List.exists_cons_of_ne_nil spelled.whole.nonempty
  have firstDigit := spelled.whole.allDigits first (by simp [whole])
  rw [characters, signCharacters, whole]
  cases numeral.negative with
  | true => exact ⟨'-', _, rfl, .inl rfl⟩
  | false => exact ⟨first, _, rfl, .inr firstDigit⟩

/-- The text is a numeral, with a sign in front or without one. -/
def IsMagnitude (text : List Char) : Prop :=
  ∀ negative, ∃ numeral : Numeral, numeral.Spelled ∧
    signCharacters negative ++ text = numeral.characters

theorem isMagnitude_of_spelled {whole part : List Char} {power : Option (Bool × List Char)}
    (spelled : Spelled ⟨false, whole, part, power⟩) :
    IsMagnitude (whole ++ (partCharacters part ++ powerCharacters power)) := by
  intro negative
  exact ⟨⟨negative, whole, part, power⟩,
    ⟨spelled.whole, spelled.leadingZero, spelled.part, spelled.power⟩, rfl⟩

theorem partCharacters_of_ne_nil {part : List Char} (nonempty : part ≠ []) :
    partCharacters part = '.' :: part := by
  obtain ⟨first, others, rfl⟩ := List.exists_cons_of_ne_nil nonempty
  rfl

end Numeral

namespace JsonForm

/-- No other value starts with a sign or a digit. -/
theorem readValue?_numeral {fuel : Nat} {first : Char} {others : List Char}
    (starts : first = '-' ∨ first.isDigit = true) :
    readValue? (fuel + 1) (first :: others) =
      (Numeral.read? (first :: others)).map fun (numeral, after) => (.number numeral, after) := by
  have differs : ∀ c : Char, c ≠ '-' → c.isDigit = false → first ≠ c := by
    intro c notSign notDigit same
    rw [same, notDigit] at starts
    exact starts.elim notSign nofun
  have space : skipSpace (first :: others) = first :: others := by
    simp [skipSpace, differs]
  rw [readValue?, space]
  split
  next same => cases same
  next same => cases same; exact absurd rfl (differs '"' (by decide) (by decide))
  next same => cases same; exact absurd rfl (differs '[' (by decide) (by decide))
  next same => cases same; exact absurd rfl (differs '\x7b' (by decide) (by decide))
  next same => cases same; exact absurd rfl (differs 'n' (by decide) (by decide))
  next same => cases same; exact absurd rfl (differs 't' (by decide) (by decide))
  next same => cases same; exact absurd rfl (differs 'f' (by decide) (by decide))
  next same => cases same; rfl

theorem reads_number {number : JsonNumber} {numeral : Numeral} (spelled : numeral.Spelled)
    (written : number.text.toList = numeral.characters) :
    Reads (.number number) (.number numeral) := by
  intro fuel rest enough ends
  obtain ⟨first, others, divided, starts⟩ := spelled.characters_eq_cons
  have read := Numeral.read?_characters spelled ends
  rw [Json.characters, written] at enough ⊢
  rw [divided, List.cons_append] at read ⊢
  rw [divided, List.length_cons] at enough
  obtain ⟨fuel, rfl⟩ := Nat.exists_eq_add_one_of_ne_zero (n := fuel) (by omega)
  rw [readValue?_numeral starts, read]
  rfl

end JsonForm

/-! ## The texts of numbers -/

open Numeral (IsMagnitude)

theorem isMagnitude_toDigits (number : Nat) : IsMagnitude (Nat.toDigits 10 number) := by
  have spelled : Numeral.Spelled ⟨false, Nat.toDigits 10 number, [], none⟩ := by
    refine ⟨(Decimal.isRow_toDigits number).1, ?_, nofun, nofun⟩
    intro zero
    rcases Nat.eq_zero_or_pos number with rfl | positive
    · rfl
    · exact absurd zero (Shortest.head?_toDigits positive)
  simpa [Numeral.partCharacters, Numeral.powerCharacters] using
    Numeral.isMagnitude_of_spelled spelled

theorem isRow_zero : Decimal.IsRow ['0'] :=
  ⟨List.cons_ne_nil _ _, List.forall_mem_singleton.mpr rfl⟩

theorem isMagnitude_point {whole part : List Char} (isRow : Decimal.IsRow whole)
    (leadingZero : whole.head? = some '0' → whole.length = 1) (partRow : Decimal.IsRow part) :
    IsMagnitude (whole ++ '.' :: part) := by
  have spelled : Numeral.Spelled ⟨false, whole, part, none⟩ :=
    ⟨isRow, leadingZero, partRow.allDigits, nofun⟩
  have magnitude := Numeral.isMagnitude_of_spelled spelled
  rw [Numeral.partCharacters_of_ne_nil partRow.nonempty] at magnitude
  simpa [Numeral.powerCharacters] using magnitude

theorem isMagnitude_zero_point {part : List Char} (partRow : Decimal.IsRow part) :
    IsMagnitude ('0' :: '.' :: part) :=
  isMagnitude_point isRow_zero (fun _ => rfl) partRow

theorem isRow_zeros_append (count : Nat) {row : List Char} (isRow : Decimal.IsRow row) :
    Decimal.IsRow (List.replicate count '0' ++ row) := by
  refine ⟨by simp [isRow.nonempty], fun c member => ?_⟩
  rcases List.mem_append.mp member with isZero | inRow
  · rw [List.eq_of_mem_replicate isZero]
    rfl
  · exact isRow.allDigits c inRow

namespace Shortest.Leads

variable {row : List Char}

theorem leadingZero (leads : Leads row) : row.head? = some '0' → row.length = 1 :=
  fun zero => absurd zero leads.first

theorem append_zeros (leads : Leads row) (count : Nat) :
    Leads (row ++ List.replicate count '0') := by
  refine ⟨⟨by simp [leads.isRow.nonempty], fun c member => ?_⟩, ?_⟩
  · rcases List.mem_append.mp member with inRow | isZero
    · exact leads.isRow.allDigits c inRow
    · rw [List.eq_of_mem_replicate isZero]
      rfl
  · rw [List.head?_append_of_ne_nil _ leads.isRow.nonempty]
    exact leads.first

theorem take (leads : Leads row) {count : Nat} (positive : 0 < count) : Leads (row.take count) := by
  obtain ⟨count, rfl⟩ := Nat.exists_eq_add_one_of_ne_zero positive.ne'
  obtain ⟨first, others, rfl⟩ := List.exists_cons_of_ne_nil leads.isRow.nonempty
  refine ⟨⟨List.cons_ne_nil _ _, fun c member => ?_⟩, leads.first⟩
  exact leads.isRow.allDigits c (List.mem_of_mem_take member)

theorem isRow_drop (leads : Leads row) {count : Nat} (longer : count < row.length) :
    Decimal.IsRow (row.drop count) := by
  refine ⟨by simp [longer], fun c member => ?_⟩
  exact leads.isRow.allDigits c (List.mem_of_mem_drop member)

end Shortest.Leads

namespace NumberLayout

variable {layout : NumberLayout} {digits : DecimalDigits}

theorem isMagnitude_positionalText (tail : layout.wholeTail = ".0")
    (leads : Shortest.Leads digits.row) :
    IsMagnitude (layout.positionalText digits).toList := by
  unfold positionalText
  split
  next =>
    have magnitude := isMagnitude_zero_point
      (isRow_zeros_append (-digits.point).toNat leads.isRow)
    simpa using magnitude
  next pointPositive =>
    simp only
    split
    next =>
      have padded := leads.append_zeros (digits.point.toNat - digits.row.length)
      have magnitude := isMagnitude_point padded.isRow padded.leadingZero isRow_zero
      simpa [tail] using magnitude
    next longer =>
      have inside : digits.point.toNat < digits.row.length := by omega
      have someWhole : 0 < digits.point.toNat := by omega
      have front := leads.take someWhole
      have magnitude := isMagnitude_point front.isRow front.leadingZero (leads.isRow_drop inside)
      simpa using magnitude

theorem powerCharacters_of_sign (exponent : Int) (row : List Char) :
    Numeral.powerCharacters (some (decide (exponent < 0), row)) =
      (if 0 ≤ exponent then "e+" else "e-").toList ++ row := by
  rcases Int.lt_or_le exponent 0 with negative | nonnegative
  · have below : ¬0 ≤ exponent := by omega
    simp [Numeral.powerCharacters, negative, below]
  · have notBelow : ¬exponent < 0 := by omega
    simp [Numeral.powerCharacters, nonnegative, notBelow]

theorem toList_scientificText (digits : DecimalDigits) :
    (scientificText digits).toList = digits.row.take 1 ++
      (Numeral.partCharacters (digits.row.drop 1) ++ Numeral.powerCharacters
        (some (decide (digits.point - 1 < 0), Nat.toDigits 10 (digits.point - 1).natAbs))) := by
  have part : (if (digits.row.drop 1).isEmpty then ""
      else "." ++ String.ofList (digits.row.drop 1)).toList =
        Numeral.partCharacters (digits.row.drop 1) := by
    cases digits.row.drop 1 <;> simp [Numeral.partCharacters]
  rw [scientificText, powerCharacters_of_sign]
  simp only [String.toList_append, String.toList_ofList, Nat.toList_repr, List.append_assoc, part]

theorem isMagnitude_scientificText (leads : Shortest.Leads digits.row) :
    IsMagnitude (scientificText digits).toList := by
  rw [toList_scientificText]
  apply Numeral.isMagnitude_of_spelled
  have firstDigit := leads.take Nat.one_pos
  refine ⟨firstDigit.isRow, firstDigit.leadingZero, ?_, ?_⟩
  · intro c member
    exact leads.isRow.allDigits c (List.mem_of_mem_drop member)
  · intro _ _ same
    cases same
    exact (Decimal.isRow_toDigits _).1

/-- A finite number is written as a numeral, unless its exponent lies beyond every format. -/
theorem exists_numeral (tail : layout.wholeTail = ".0") (format : BinaryFormat) (negative : Bool)
    (significand : Nat) {exponent : Int} (least : -1074 ≤ exponent) :
    ∃ numeral : Numeral, numeral.Spelled ∧
      (layout.text format (.finite negative significand exponent)).toList =
        numeral.characters := by
  have sign : (if negative then "-" else "").toList = Numeral.signCharacters negative := by
    cases negative <;> rfl
  rw [text]
  simp only
  split
  next =>
    have magnitude := isMagnitude_zero_point isRow_zero negative
    simpa [sign, tail] using magnitude
  next nonzero =>
    have leads := Shortest.leads_digits format layout.tie nonzero least
    split
    next =>
      rw [String.toList_append, sign]
      exact isMagnitude_positionalText tail leads negative
    next =>
      rw [String.toList_append, sign]
      exact isMagnitude_scientificText leads negative

end NumberLayout

theorem exists_numeral_toString (number : Int) :
    ∃ numeral : Numeral, numeral.Spelled ∧ (toString number).toList = numeral.characters := by
  rw [Int.toString_eq_repr]
  cases number with
  | ofNat magnitude =>
      rw [Int.repr, Nat.toList_repr]
      exact isMagnitude_toDigits magnitude false
  | negSucc less =>
      rw [Int.repr, String.toList_append, Nat.toList_repr]
      exact isMagnitude_toDigits (less + 1) true

/-! ## Numbers that literals spell -/

/-- The exponent, if there is one, lies in the range of double precision. -/
def Binary.InRange : Binary → Prop
  | .finite _ _ exponent => -1074 ≤ exponent
  | _ => True

namespace Binary

variable {format : BinaryFormat}

theorem inRange_round (least : -1074 ≤ format.minExponent) (negative : Bool)
    (numerator denominator : Nat) : (round format negative numerator denominator).InRange := by
  unfold round
  split
  · exact least
  · simp only
    split
    all_goals
      simp only
      split
      · trivial
      · rw [InRange]
        omega

theorem inRange_ofDecimal (least : -1074 ≤ format.minExponent) (negative : Bool)
    (coefficient : Nat) (power : Int) : (ofDecimal format negative coefficient power).InRange := by
  unfold ofDecimal
  split
  · exact least
  simp only
  split
  · trivial
  split
  · exact least
  · exact inRange_round least negative _ _

theorem inRange_of_readFinite? (least : -1074 ≤ format.minExponent) {literal : String}
    {number : Binary} (read : Value.readFinite? format literal = some number) :
    number.InRange := by
  unfold Value.readFinite? at read
  split at read
  next => cases read
  next found foundRead =>
    split at read
    next =>
      cases read
      unfold Binary.read? at foundRead
      simp only at foundRead
      split at foundRead
      · cases foundRead
        trivial
      split at foundRead
      · cases foundRead
        trivial
      split at foundRead
      · cases foundRead
      · cases foundRead
        exact inRange_ofDecimal least _ _ _
    next => cases read

end Binary

def Value.InRange : Value → Prop
  | .double number => number.InRange
  | .float number => number.InRange
  | _ => True

theorem Value.inRange_of_ofLiteral? {literal : String} {target : AttributeType} {value : Value}
    (spelled : ofLiteral? literal target = some value) : value.InRange := by
  cases target with
  | double =>
      rw [ofLiteral?, Option.map_eq_some_iff] at spelled
      obtain ⟨number, read, rfl⟩ := spelled
      exact Binary.inRange_of_readFinite? (by decide) read
  | float =>
      rw [ofLiteral?, Option.map_eq_some_iff] at spelled
      obtain ⟨number, read, rfl⟩ := spelled
      exact Binary.inRange_of_readFinite? (by decide) read
  | string =>
      cases spelled
      trivial
  | enumeration labels =>
      rw [ofLiteral?] at spelled
      split at spelled
      · cases spelled
        trivial
      · cases spelled
  | _ =>
      rw [ofLiteral?, Option.map_eq_some_iff] at spelled
      obtain ⟨_, _, rfl⟩ := spelled
      trivial

end SearchQuery
