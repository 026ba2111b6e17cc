import Mathlib.Algebra.Group.Nat.Defs
import SearchQuery.Proofs.Skeleton
import SearchQuery.Proofs.Sql.Written

/-!
# Placeholders and the values bound to them

Whoever reads the text of a condition from left to right and passes over what stands in double
quotes meets the placeholders one by one, each with the next number, and as many as there are
values.
-/

set_option autoImplicit false

namespace SearchQuery

namespace Sql

/-! ## Dollar signs outside of quotes -/

/-- The digits after each dollar sign that stands outside of double quotes.  The first argument says
whether the text starts inside of them; a quote that is written twice leaves and enters again. -/
def dollarsFrom : Bool → List Char → List String
  | _, [] => []
  | quoted, c :: rest =>
      if c = '"' then
        dollarsFrom (!quoted) rest
      else if c = '$' ∧ quoted = false then
        String.ofList (rest.takeWhile Char.isDigit) :: dollarsFrom quoted rest
      else
        dollarsFrom quoted rest

def dollars (text : String) : List String :=
  dollarsFrom false text.toList

def isPlain (c : Char) : Bool :=
  c != '"' && c != '$'

theorem dollarsFrom_cons {c : Char} (rest : List Char) (plain : isPlain c = true) :
    dollarsFrom false (c :: rest) = dollarsFrom false rest := by
  rw [isPlain, Bool.and_eq_true, bne_iff_ne, bne_iff_ne] at plain
  rw [dollarsFrom, if_neg plain.1, if_neg (fun both => plain.2 both.1)]

theorem dollarsFrom_plain :
    ∀ (text rest : List Char), text.all isPlain = true →
      dollarsFrom false (text ++ rest) = dollarsFrom false rest := by
  intro text rest
  induction text with
  | nil =>
      intro _
      rfl
  | cons c others inductionHypothesis =>
      intro plain
      rw [List.all_cons, Bool.and_eq_true] at plain
      rw [List.cons_append, dollarsFrom_cons _ plain.1, inductionHypothesis plain.2]

theorem dollarsFrom_doubledQuotes (part rest : List Char) :
    dollarsFrom true (Condition.doubledQuotes part ++ rest) = dollarsFrom true rest := by
  induction part with
  | nil => rfl
  | cons c others inductionHypothesis =>
      by_cases isQuote : c = '"'
      · rw [Condition.doubledQuotes, if_pos isQuote, List.cons_append, List.cons_append]
        simpa [dollarsFrom] using inductionHypothesis
      · rw [Condition.doubledQuotes, if_neg isQuote, List.cons_append]
        simpa [dollarsFrom, isQuote] using inductionHypothesis

theorem dollarsFrom_quotedPart (part rest : List Char) :
    dollarsFrom false (Condition.quotedPart part ++ rest) = dollarsFrom false rest := by
  have inside := dollarsFrom_doubledQuotes part ('"' :: rest)
  simpa [Condition.quotedPart, dollarsFrom] using inside

theorem dollarsFrom_placeholderText (number : Nat) {rest : List Char}
    (delimited : delimits rest = true) :
    dollarsFrom false (Condition.placeholderText number ++ rest) =
      Nat.repr number :: dollarsFrom false rest := by
  have allDigits : ∀ c ∈ Nat.toDigits 10 number, c.isDigit = true := fun c member =>
    Nat.isDigit_of_mem_toDigits (by decide) (by decide) member
  have digitsRead := Text.takeWhile_run allDigits
    (takeWhile_eq_nil_of_delimits delimited Char.isDigit rfl)
  have digitsPlain : (Nat.toDigits 10 number).all isPlain = true := by
    rw [List.all_eq_true]
    intro c member
    have isDigit := allDigits c member
    rw [isPlain, Bool.and_eq_true, bne_iff_ne, bne_iff_ne]
    constructor
    · rintro rfl
      cases isDigit
    · rintro rfl
      cases isDigit
  rw [Condition.placeholderText, List.cons_append, Nat.toList_repr, dollarsFrom,
    if_neg (by decide), if_pos ⟨rfl, rfl⟩, digitsRead, dollarsFrom_plain _ _ digitsPlain,
    ← Nat.toList_repr, String.ofList_toList]

theorem dollarsFrom_separated {α : Type} {write : α → List Char} (found : α → List String)
    {separator : List Char}
    (itemRead : ∀ item rest, delimits rest = true →
      dollarsFrom false (write item ++ rest) = found item ++ dollarsFrom false rest)
    (separatorPlain : separator.all isPlain = true)
    (separatorDelimits : ∀ rest, delimits (separator ++ rest) = true)
    {rest : List Char} (delimited : delimits rest = true) :
    ∀ items : List α,
      dollarsFrom false (Condition.separated separator (items.map write) ++ rest) =
        items.flatMap found ++ dollarsFrom false rest := by
  intro items
  induction items with
  | nil => rfl
  | cons first others inductionHypothesis =>
      cases others with
      | nil =>
          simp only [List.map_cons, List.map_nil, Condition.separated, List.flatMap_cons,
            List.flatMap_nil, List.append_nil]
          exact itemRead first rest delimited
      | cons second tail =>
          rw [List.map_cons] at inductionHypothesis
          simp only [List.map_cons, Condition.separated, List.append_assoc]
          rw [itemRead first _ (separatorDelimits _), dollarsFrom_plain separator _ separatorPlain,
            inductionHypothesis]
          simp only [List.flatMap_cons, List.append_assoc]

theorem dollarsFrom_column (name : String) {rest : List Char} (delimited : delimits rest = true) :
    dollarsFrom false (Condition.column name ++ rest) = dollarsFrom false rest := by
  have noneFound : (Text.dottedParts name.toList).flatMap (fun _ => ([] : List String)) = [] :=
    List.flatMap_eq_nil_iff.mpr fun _ _ => rfl
  rw [Condition.column, dollarsFrom_separated (fun _ => [])
    (fun part rest _ => dollarsFrom_quotedPart part rest) rfl (fun _ => rfl) delimited,
    noneFound, List.nil_append]

theorem dollarsFrom_placeholders (placeholders : List Nat) {rest : List Char}
    (delimited : delimits rest = true) :
    dollarsFrom false (Condition.separated [',', ' ']
        (placeholders.map Condition.placeholderText) ++ rest) =
      placeholders.map Nat.repr ++ dollarsFrom false rest := by
  rw [dollarsFrom_separated (fun number => [Nat.repr number])
    (fun number rest delimited => dollarsFrom_placeholderText number delimited) rfl
    (fun _ => rfl) delimited, List.map_eq_flatMap]

end Sql

namespace Condition

open Sql

def placeholders : Condition → List Nat
  | .compare _ _ placeholder => [placeholder]
  | .like _ _ placeholder => [placeholder]
  | .within _ placeholders => placeholders
  | .isNull _ => []
  | .isNotNull _ => []
  | .and left right => left.placeholders ++ right.placeholders
  | .or left right => left.placeholders ++ right.placeholders
  | .not inner => inner.placeholders

/-- A group shows the placeholders of its two sides and nothing else. -/
theorem dollarsFrom_group {left right : List Char} {leftFound rightFound : List String}
    (leftRead : ∀ {rest : List Char}, delimits rest = true →
      dollarsFrom false (left ++ rest) = leftFound ++ dollarsFrom false rest)
    (rightRead : ∀ {rest : List Char}, delimits rest = true →
      dollarsFrom false (right ++ rest) = rightFound ++ dollarsFrom false rest)
    (word rest : List Char) (wordPlain : word.all isPlain = true) :
    dollarsFrom false ('(' :: left ++ ' ' :: word ++ right ++ [')'] ++ rest) =
      leftFound ++ rightFound ++ dollarsFrom false rest := by
  have divided : '(' :: left ++ ' ' :: word ++ right ++ [')'] ++ rest =
      '(' :: (left ++ ' ' :: (word ++ (right ++ ')' :: rest))) := by
    simp
  rw [divided, dollarsFrom_cons _ rfl, leftRead (delimits_space _), dollarsFrom_cons _ rfl,
    dollarsFrom_plain word _ wordPlain, rightRead (delimits_closing _), dollarsFrom_cons _ rfl,
    List.append_assoc]

theorem dollarsFrom_characters :
    ∀ (condition : Condition) {rest : List Char}, delimits rest = true →
      dollarsFrom false (condition.characters ++ rest) =
        condition.placeholders.map Nat.repr ++ dollarsFrom false rest := by
  intro condition
  induction condition with
  | compare name sign placeholder =>
      intro rest delimited
      have signPlain : sign.text.toList.all isPlain = true := by
        cases sign <;> rfl
      have divided : (Condition.compare name sign placeholder).characters ++ rest =
          column name ++ ' ' :: (sign.text.toList ++
            ' ' :: (placeholderText placeholder ++ rest)) := by
        rw [characters.eq_def]
        simp only [List.append_assoc, List.cons_append]
      rw [divided, dollarsFrom_column name (delimits_space _), dollarsFrom_cons _ rfl,
        dollarsFrom_plain _ _ signPlain, dollarsFrom_cons _ rfl,
        dollarsFrom_placeholderText placeholder delimited]
      rfl
  | like name negated placeholder =>
      intro rest delimited
      have wordsPlain :
          (if negated then ") NOT LIKE " else ") LIKE ").toList.all isPlain = true := by
        cases negated <;> rfl
      have closes : ∀ after, delimits
          ((if negated then ") NOT LIKE " else ") LIKE ").toList ++ after) = true := by
        cases negated <;> exact fun _ => rfl
      have divided : (Condition.like name negated placeholder).characters ++ rest =
          "LOWER(".toList ++ (column name ++
            ((if negated then ") NOT LIKE " else ") LIKE ").toList ++
              (placeholderText placeholder ++ rest))) := by
        rw [characters.eq_def]
        simp only [List.append_assoc]
      rw [divided, dollarsFrom_plain _ _ rfl, dollarsFrom_column name (closes _),
        dollarsFrom_plain _ _ wordsPlain, dollarsFrom_placeholderText placeholder delimited]
      rfl
  | within name placeholders =>
      intro rest delimited
      have divided : (Condition.within name placeholders).characters ++ rest =
          column name ++ (" IN (".toList ++
            (separated [',', ' '] (placeholders.map placeholderText) ++ ')' :: rest)) := by
        rw [characters.eq_def]
        simp only [List.append_assoc, List.cons_append, List.nil_append]
      rw [divided, dollarsFrom_column name rfl, dollarsFrom_plain _ _ rfl,
        dollarsFrom_placeholders placeholders (delimits_closing _),
        dollarsFrom_cons _ rfl]
      rfl
  | isNull name =>
      intro rest delimited
      have divided : (Condition.isNull name).characters ++ rest =
          column name ++ (" IS NULL".toList ++ rest) := by
        rw [characters.eq_def]
        simp only [List.append_assoc]
      rw [divided, dollarsFrom_column name rfl, dollarsFrom_plain _ _ rfl]
      rfl
  | isNotNull name =>
      intro rest delimited
      have divided : (Condition.isNotNull name).characters ++ rest =
          column name ++ (" IS NOT NULL".toList ++ rest) := by
        rw [characters.eq_def]
        simp only [List.append_assoc]
      rw [divided, dollarsFrom_column name rfl, dollarsFrom_plain _ _ rfl]
      rfl
  | and left right leftRead rightRead =>
      intro rest delimited
      rw [placeholders, List.map_append]
      exact dollarsFrom_group leftRead rightRead "AND ".toList rest rfl
  | or left right leftRead rightRead =>
      intro rest delimited
      rw [placeholders, List.map_append]
      exact dollarsFrom_group leftRead rightRead "OR ".toList rest rfl
  | not inner innerRead =>
      intro rest delimited
      have divided : (Condition.not inner).characters ++ rest =
          "NOT (".toList ++ (inner.characters ++ ')' :: rest) := by
        rw [characters.eq_def]
        simp only [List.append_assoc, List.cons_append, List.nil_append]
      rw [divided, dollarsFrom_plain _ _ rfl, innerRead (delimits_closing _),
        dollarsFrom_cons _ rfl]
      rfl

theorem dollars_text (condition : Condition) :
    dollars condition.text = condition.placeholders.map Nat.repr := by
  have whole : dollarsFrom false (condition.characters ++ []) = _ :=
    dollarsFrom_characters condition rfl
  rw [List.append_nil] at whole
  rw [dollars, text, String.toList_ofList, whole]
  exact List.append_nil _

end Condition

/-! ## The numbers of the placeholders -/

theorem placeholdersAfter_add (used first second : Nat) :
    placeholdersAfter used (first + second) =
      placeholdersAfter used first ++ placeholdersAfter (used + first) second := by
  induction first generalizing used with
  | zero =>
      rw [Nat.zero_add]
      rfl
  | succ first inductionHypothesis =>
      have shifted : used + 1 + first = used + (first + 1) := by omega
      rw [Nat.add_right_comm, placeholdersAfter_succ, inductionHypothesis, placeholdersAfter_succ,
        shifted, List.cons_append]

theorem placeholdersAfter_eq_range' {used count : Nat} (inRange : used + count < 2 ^ 64) :
    placeholdersAfter used count = List.range' (used + 1) count := by
  induction count generalizing used with
  | zero => rfl
  | succ count inductionHypothesis =>
      have small : used + 1 < Decimal.wordBound := by
        rw [Decimal.wordBound]
        omega
      have first : placeholderAfter used 1 = used + 1 := Nat.mod_eq_of_lt small
      have laterInRange : used + 1 + count < 2 ^ 64 := by omega
      rw [placeholdersAfter_succ, first, inductionHypothesis laterInRange, List.range'_succ]

theorem Skeleton.placeholders_condition (skeleton : Skeleton) (used : Nat) :
    (skeleton.condition used).placeholders = placeholdersAfter used skeleton.parameterCount := by
  induction skeleton generalizing used with
  | comparison name kind => cases kind <;> rfl
  | membership name count => rfl
  | isNull name => rfl
  | isNotNull name => rfl
  | and left right leftNumbers rightNumbers =>
      rw [condition, Condition.placeholders, leftNumbers, rightNumbers, parameterCount,
        placeholdersAfter_add]
  | or left right leftNumbers rightNumbers =>
      rw [condition, Condition.placeholders, leftNumbers, rightNumbers, parameterCount,
        placeholdersAfter_add]
  | not inner innerNumbers => exact innerNumbers used

namespace Filter

/-- The text of a condition shows the placeholders after those in use, each once and in order, and
their values are those of the filter from left to right, wherever the numbers start.  There is no
condition exactly if a membership test has no values, and the error names the leftmost one. -/
theorem placeholders_match_values (filter : Filter) (used : Nat) :
    (∀ bound, filter.toCondition used = .ok bound →
      (used + bound.parameters.length < 2 ^ 64 →
        Sql.dollars bound.condition.text =
          (List.range' (used + 1) bound.parameters.length).map Nat.repr) ∧
      bound.parameters = filter.boundValues ∧
      ∀ other otherBound, filter.toCondition other = .ok otherBound →
        otherBound.parameters = bound.parameters) ∧
    (∀ error, filter.toCondition used = .error error ↔
      ∃ name, filter.emptyMemberships.head? = some name ∧
        error = .invalidPredicate (.emptyMembership name)) := by
  refine ⟨?_, toCondition_eq_error_iff filter used⟩
  intro bound built
  obtain ⟨_, rfl⟩ := (toCondition_eq_ok_iff filter used bound).mp built
  refine ⟨?_, rfl, ?_⟩
  · intro inRange
    rw [length_boundValues] at inRange ⊢
    rw [Condition.dollars_text, Skeleton.placeholders_condition,
      placeholdersAfter_eq_range' inRange]
  · intro other otherBound otherBuilt
    obtain ⟨_, rfl⟩ := (toCondition_eq_ok_iff filter other otherBound).mp otherBuilt
    rfl

/-- A filter with a dollar sign in the name of an attribute, and with a list under a negation. -/
def numberedFilter : Filter :=
  .or (.and (.comparison "age" .greaterThan (.integer 18))
      (.comparison "paid\" $9.city" .startsWith (.string "Par%")))
    (.not (.membership "status" [.string "A", .string "B"]))

theorem placeholders_match_values_numbered :
    (∃ bound, numberedFilter.toCondition 3 = .ok bound ∧
      Sql.dollars bound.condition.text = ["4", "5", "6", "7"] ∧
      bound.parameters = [.integer 18, Anchor.start.boundPattern (.string "Par%"), .string "A",
        .string "B"]) ∧
    (Filter.and numberedFilter (.or (.membership "a" []) (.membership "b" []))).toCondition 3 =
      .error (.invalidPredicate (.emptyMembership "a")) := by
  constructor
  · have built := (toCondition_eq_ok_iff numberedFilter 3 _).mpr ⟨rfl, rfl⟩
    obtain ⟨shown, values, _⟩ := (placeholders_match_values numberedFilter 3).1 _ built
    exact ⟨_, built, shown (by decide), values⟩
  · exact ((placeholders_match_values _ 3).2 _).mpr ⟨"a", rfl, rfl⟩

end Filter

end SearchQuery
