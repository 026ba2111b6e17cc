import SearchQuery.Command.Run
import SearchQuery.Proofs.NumberText
import SearchQuery.Proofs.Sql.Placeholders
import SearchQuery.Proofs.Translation

/-!
# The two lines of a condition and its values

A condition is printed on one line and its values on the next.  Neither line can be broken from
inside: names have no blanks, values do not reach the condition, and in the JSON text of the values
every control character is escaped.  So the output is divided again at its only line break, and the
values are read back from the second line.
-/

set_option autoImplicit false

namespace SearchQuery

/-! ## Bound values -/

/-- A pattern is a text; all other values are bound as they are. -/
theorem Comparison.inRange_boundValue (kind : Comparison) {value : Value}
    (inRange : value.InRange) : (kind.boundValue value).InRange := by
  cases kind with
  | like => trivial
  | notLike => trivial
  | startsWith => trivial
  | endsWith => trivial
  | _ => exact inRange

theorem Predicate.Spell.inRange {types : TypeResolver} {name : String} {literals : List String}
    {values : List Value} (spelled : Spell types name literals values) :
    ∀ value ∈ values, value.InRange := by
  induction spelled with
  | nil => nofun
  | cons first _ restInRange =>
      intro value member
      rcases List.mem_cons.mp member with rfl | later
      · exact Value.inRange_of_ofLiteral? first
      · exact restInRange value later

theorem Filter.boundValues_negated (filter : Filter) (count : Nat) :
    (filter.negated count).boundValues = filter.boundValues := by
  induction count with
  | zero => rfl
  | succ count inductionHypothesis => exact inductionHypothesis

theorem Predicate.Translates.inRange {types : TypeResolver} {predicate : Predicate}
    {filter : Filter} (translates : Translates types predicate filter) :
    ∀ value ∈ filter.boundValues, value.InRange := by
  induction translates with
  | isNull name => nofun
  | isNotNull name => nofun
  | comparison kind spelled =>
      intro value member
      rw [List.mem_singleton.mp member]
      exact kind.inRange_boundValue (Value.inRange_of_ofLiteral? spelled)
  | isIn spelled => exact spelled.inRange
  | notIn spelled => exact spelled.inRange
  | and _ _ leftInRange rightInRange =>
      intro value member
      exact (List.mem_append.mp member).elim (leftInRange value) (rightInRange value)
  | or _ _ leftInRange rightInRange =>
      intro value member
      exact (List.mem_append.mp member).elim (leftInRange value) (rightInRange value)
  | negations count _ _ innerInRange =>
      rw [Filter.boundValues_negated]
      exact innerInRange

/-! ## Texts of one line -/

def OneLine (text : List Char) : Prop :=
  '\n' ∉ text

@[simp]
theorem oneLine_nil : OneLine [] :=
  List.not_mem_nil

@[simp]
theorem oneLine_cons {c : Char} {rest : List Char} :
    OneLine (c :: rest) ↔ c ≠ '\n' ∧ OneLine rest := by
  rw [OneLine, OneLine, List.mem_cons, not_or, ne_comm]

@[simp]
theorem oneLine_append {front back : List Char} :
    OneLine (front ++ back) ↔ OneLine front ∧ OneLine back := by
  rw [OneLine, OneLine, OneLine, List.mem_append, not_or]

theorem oneLine_of_digits {row : List Char} (allDigits : ∀ c ∈ row, c.isDigit = true) :
    OneLine row := by
  intro member
  exact absurd (allDigits _ member) (by decide)

theorem Numeral.Spelled.oneLine {numeral : Numeral} (spelled : numeral.Spelled) :
    OneLine numeral.characters := by
  have sign : OneLine (signCharacters numeral.negative) := by
    cases numeral.negative <;> simp [signCharacters]
  have part : OneLine (partCharacters numeral.part) := by
    have row := oneLine_of_digits spelled.part
    cases same : numeral.part with
    | nil => simp [partCharacters]
    | cons c rest =>
        rw [same] at row
        simpa [partCharacters] using row
  have power : OneLine (powerCharacters numeral.power) := by
    cases same : numeral.power with
    | none => simp [powerCharacters]
    | some signed =>
        have row := oneLine_of_digits (spelled.power signed.1 signed.2 same).allDigits
        cases signed with
        | mk negative digits => cases negative <;> simpa [powerCharacters] using row
  rw [characters, oneLine_append, oneLine_append, oneLine_append]
  exact ⟨sign, oneLine_of_digits spelled.whole.allDigits, part, power⟩

/-! ## The line of the values -/

namespace Json

theorem oneLine_escapedCharacter (c : Char) : OneLine (escapedCharacter c) := by
  have hexDigits : ∀ unit < 0x20, hexDigit (unit / 16) ≠ '\n' ∧ hexDigit (unit % 16) ≠ '\n' := by
    decide
  fun_cases escapedCharacter c with
  | case8 _ _ _ _ _ _ _ control =>
      obtain ⟨high, low⟩ := hexDigits c.toNat control
      simp [high, low]
  | case9 _ _ notBreak _ _ _ _ _ => simp [notBreak]
  | _ => simp

theorem oneLine_quoted (text : String) : OneLine (quoted text) := by
  have inside : OneLine (text.toList.flatMap escapedCharacter) := by
    intro member
    obtain ⟨c, _, escapes⟩ := List.mem_flatMap.mp member
    exact oneLine_escapedCharacter c escapes
  simpa [quoted] using inside

theorem oneLine_itemCharacters :
    ∀ items : List Json, (∀ item ∈ items, OneLine item.characters) →
      OneLine (itemCharacters items) := by
  intro items
  induction items with
  | nil =>
      intro _
      simp [itemCharacters]
  | cons item rest inductionHypothesis =>
      intro allOneLine
      have first := allOneLine item List.mem_cons_self
      have others := inductionHypothesis fun other member =>
        allOneLine other (List.mem_cons_of_mem item member)
      cases rest with
      | nil => simpa [itemCharacters] using first
      | cons next more =>
          rw [itemCharacters, oneLine_append, oneLine_cons]
          exact ⟨first, by decide, others⟩

end Json

namespace Value

open JsonForm (Reads units)

/-- The text of a number is a numeral, and other values have a text of their own. -/
theorem exists_reads_content {value : Value} (inRange : value.InRange) :
    ∃ form, Reads value.content form ∧ OneLine value.content.characters := by
  have number : ∀ {number : JsonNumber}, (∃ numeral : Numeral, numeral.Spelled ∧
      number.text.toList = numeral.characters) →
      ∃ form, Reads (.number number) form ∧ OneLine (Json.number number).characters := by
    intro number ⟨numeral, spelled, written⟩
    refine ⟨.number numeral, JsonForm.reads_number spelled written, ?_⟩
    rw [Json.characters, written]
    exact spelled.oneLine
  have null : ∃ form, Reads .null form ∧ OneLine Json.null.characters :=
    ⟨.null, JsonForm.reads_null, by simp [Json.characters]⟩
  cases value with
  | string text => exact ⟨_, JsonForm.reads_string text, Json.oneLine_quoted text⟩
  | enumeration label => exact ⟨_, JsonForm.reads_string label, Json.oneLine_quoted label⟩
  | integer whole => exact number (exists_numeral_toString whole)
  | long whole => exact number (exists_numeral_toString whole)
  | boolean truth =>
      refine ⟨_, JsonForm.reads_bool truth, ?_⟩
      cases truth <;> simp [content, Json.characters]
  | double fraction =>
      cases fraction with
      | finite negative significand exponent =>
          exact number (NumberLayout.exists_numeral rfl .double negative significand inRange)
      | _ => exact null
  | float fraction =>
      cases fraction with
      | finite negative significand exponent =>
          exact number (NumberLayout.exists_numeral rfl .single negative significand inRange)
      | _ => exact null

/-- The form is an object with the type of the value and with what is read from its content; a text
is there character by character. -/
def ShownBy (value : Value) (form : JsonForm) : Prop :=
  ∃ content, form = .object [(units "type", .string (units value.tag.name)),
      (units "value", content)] ∧
    JsonForm.read? value.content.compact = some content ∧
    ∀ text, value.content = .string text → content = .string (units text)

theorem exists_shownBy {value : Value} (inRange : value.InRange) :
    ∃ form, Reads value.toJson form ∧ value.ShownBy form := by
  obtain ⟨content, contentReads, _⟩ := exists_reads_content inRange
  have contentRead := JsonForm.read?_compact contentReads
  refine ⟨_, JsonForm.reads_object (.cons (.named "type" (JsonForm.reads_string _))
    (.cons (.named "value" contentReads) .nil)), content, rfl, contentRead, ?_⟩
  intro text isText
  rw [isText, JsonForm.read?_compact (JsonForm.reads_string text)] at contentRead
  exact (Option.some.inj contentRead).symm

theorem oneLine_toJson {value : Value} (inRange : value.InRange) :
    OneLine value.toJson.characters := by
  obtain ⟨_, _, contentLine⟩ := exists_reads_content inRange
  simp [toJson, Json.characters, Json.fieldCharacters, Json.oneLine_quoted, contentLine]

theorem exists_forms : ∀ {values : List Value}, (∀ value ∈ values, value.InRange) →
    ∃ forms, List.Forall₂ Reads (values.map toJson) forms ∧
      List.Forall₂ ShownBy values forms := by
  intro values
  induction values with
  | nil =>
      intro _
      exact ⟨[], .nil, .nil⟩
  | cons value rest inductionHypothesis =>
      intro allInRange
      obtain ⟨form, reads, shown⟩ := exists_shownBy (allInRange value List.mem_cons_self)
      obtain ⟨forms, restRead, restShown⟩ := inductionHypothesis fun other member =>
        allInRange other (List.mem_cons_of_mem value member)
      exact ⟨form :: forms, .cons reads restRead, .cons shown restShown⟩

end Value

/-! ## The line of the condition -/

theorem Text.oneLine_dottedParts {text : List Char} (line : OneLine text) :
    ∀ part ∈ dottedParts text, OneLine part := by
  induction text with
  | nil => simp [dottedParts]
  | cons c rest inductionHypothesis =>
      rw [oneLine_cons] at line
      have later := inductionHypothesis line.2
      rw [dottedParts]
      split
      next => simpa using later
      next =>
        cases divided : dottedParts rest with
        | nil => simpa using line.1
        | cons first others =>
            rw [divided, List.forall_mem_cons] at later
            simpa [line.1] using later

namespace Condition

theorem oneLine_separated {separator : List Char} (separatorLine : OneLine separator) :
    ∀ texts : List (List Char), (∀ text ∈ texts, OneLine text) →
      OneLine (separated separator texts) := by
  intro texts
  induction texts with
  | nil =>
      intro _
      simp [separated]
  | cons text rest inductionHypothesis =>
      intro allOneLine
      have first := allOneLine text List.mem_cons_self
      have others := inductionHypothesis fun other member =>
        allOneLine other (List.mem_cons_of_mem text member)
      cases rest with
      | nil => exact first
      | cons next more =>
          rw [separated, oneLine_append, oneLine_append]
          exact ⟨⟨first, separatorLine⟩, others⟩

theorem oneLine_doubledQuotes {part : List Char} (line : OneLine part) :
    OneLine (doubledQuotes part) := by
  induction part with
  | nil => exact line
  | cons c rest inductionHypothesis =>
      rw [oneLine_cons] at line
      have later := inductionHypothesis line.2
      rw [doubledQuotes]
      split
      · simpa using later
      · simpa [line.1] using later

theorem oneLine_column {name : String} (line : OneLine name.toList) : OneLine (column name) := by
  apply oneLine_separated (by simp)
  intro text member
  obtain ⟨part, partMember, rfl⟩ := List.mem_map.mp member
  have inside := oneLine_doubledQuotes (Text.oneLine_dottedParts line part partMember)
  simpa [quotedPart] using inside

theorem oneLine_placeholderText (placeholder : Nat) : OneLine (placeholderText placeholder) := by
  have digits := oneLine_of_digits (Decimal.isRow_toDigits placeholder).1.allDigits
  rw [placeholderText, Nat.toList_repr, oneLine_cons]
  exact ⟨by decide, digits⟩

theorem oneLine_placeholders (placeholders : List Nat) :
    OneLine (separated [',', ' '] (placeholders.map placeholderText)) := by
  apply oneLine_separated (by simp)
  intro text member
  obtain ⟨placeholder, _, rfl⟩ := List.mem_map.mp member
  exact oneLine_placeholderText placeholder

theorem characters_ne_nil (condition : Condition) : condition.characters ≠ [] := by
  rw [characters.eq_def]
  cases condition <;> simp

end Condition

/-- A condition is as free of line breaks as the names of its attributes are. -/
theorem Filter.oneLine_toCondition :
    ∀ {filter : Filter} {used : Nat} {bound : BoundCondition},
      filter.toCondition used = .ok bound →
      (∀ name ∈ filter.attributeNames, OneLine name.toList) →
      OneLine bound.condition.characters := by
  apply toCondition_induction
  · intro name kind sign value used _ allOneLine
    have column := Condition.oneLine_column (allOneLine name List.mem_cons_self)
    have placeholder := Condition.oneLine_placeholderText (placeholderAfter used 1)
    have signLine : OneLine sign.text.toList := by
      cases sign <;> simp [Sign.text]
    rw [Condition.characters.eq_def]
    simp [signLine, column, placeholder]
  · intro name kind anchor negated value used _ allOneLine
    have column := Condition.oneLine_column (allOneLine name List.mem_cons_self)
    have placeholder := Condition.oneLine_placeholderText (placeholderAfter used 1)
    rw [Condition.characters.eq_def]
    cases negated <;> simp [column, placeholder]
  · intro name values used _ allOneLine
    have column := Condition.oneLine_column (allOneLine name List.mem_cons_self)
    have placeholders := Condition.oneLine_placeholders (placeholdersAfter used values.length)
    rw [Condition.characters.eq_def]
    simp [column, placeholders]
  · intro name used allOneLine
    have column := Condition.oneLine_column (allOneLine name List.mem_cons_self)
    rw [Condition.characters.eq_def]
    simp [column]
  · intro name used allOneLine
    have column := Condition.oneLine_column (allOneLine name List.mem_cons_self)
    rw [Condition.characters.eq_def]
    simp [column]
  · intro left right used leftBound rightBound leftLine rightLine allOneLine
    rw [attributeNames, List.forall_mem_append] at allOneLine
    rw [Condition.characters.eq_def]
    simp [leftLine allOneLine.1, rightLine allOneLine.2]
  · intro left right used leftBound rightBound leftLine rightLine allOneLine
    rw [attributeNames, List.forall_mem_append] at allOneLine
    rw [Condition.characters.eq_def]
    simp [leftLine allOneLine.1, rightLine allOneLine.2]
  · intro inner used bound innerLine allOneLine
    rw [Condition.characters.eq_def]
    simp [innerLine allOneLine]

/-! ## Names -/

theorem Predicate.ValidName.oneLine {name : String} (valid : ValidName name) :
    OneLine name.toList := by
  intro member
  exact absurd (valid.2 _ member) (by decide)

theorem Predicate.WellFormed.validNames :
    ∀ {predicate : Predicate}, predicate.WellFormed →
      ∀ name ∈ predicate.attributeNames, ValidName name := by
  intro predicate
  rw [← map_name_leaves]
  induction predicate with
  | bare other operator =>
      intro wellFormed name member
      rw [List.mem_singleton.mp member]
      exact wellFormed.1
  | single other operator value =>
      intro wellFormed name member
      rw [List.mem_singleton.mp member]
      exact wellFormed.1
  | multiple other operator values =>
      intro wellFormed name member
      rw [List.mem_singleton.mp member]
      exact wellFormed.1
  | and left right leftValid rightValid =>
      intro wellFormed
      rw [leaves, List.map_append, List.forall_mem_append]
      exact ⟨leftValid wellFormed.1, rightValid wellFormed.2⟩
  | or left right leftValid rightValid =>
      intro wellFormed
      rw [leaves, List.map_append, List.forall_mem_append]
      exact ⟨leftValid wellFormed.1, rightValid wellFormed.2⟩
  | not inner innerValid => exact innerValid

theorem Search.not_blank_of_only {limits : Limits} {text : List Char} {predicate : Predicate}
    (accepted : parseCharacters limits text = .ok (.only predicate)) :
    text.all Text.isBlank = false := by
  cases blank : text.all Text.isBlank with
  | false => rfl
  | true =>
      rw [parseCharacters, if_pos blank] at accepted
      split at accepted <;> cases accepted

/-! ## The output -/

/-- The output consists of two lines, and its only line break is between them. -/
structure TwoLines (output first second : String) : Prop where
  written : output = first ++ "\n" ++ second
  oneBreak : output.toList.count '\n' = 1
  divided : output.toList.splitOn '\n' = [first.toList, second.toList]

theorem twoLines_of_oneLine {first second : String} (firstLine : OneLine first.toList)
    (secondLine : OneLine second.toList) : TwoLines (first ++ "\n" ++ second) first second where
  written := rfl
  oneBreak := by
    have noneFirst : first.toList.count '\n' = 0 := List.count_eq_zero.mpr firstLine
    have noneSecond : second.toList.count '\n' = 0 := List.count_eq_zero.mpr secondLine
    simp [noneFirst, noneSecond]
  divided := by
    have lines : (first ++ "\n" ++ second).toList =
        ['\n'].intercalate [first.toList, second.toList] := by
      simp [List.intercalate]
    rw [lines]
    apply List.splitOn_intercalate
    · intro line member
      rcases List.mem_pair.mp member with rfl | rfl
      · exact firstLine
      · exact secondLine
    · exact List.cons_ne_nil _ _

namespace Command

theorem searching_eq_ok_iff {α : Type} (result : Except SearchError α) (value : α) :
    searching result = .ok value ↔ result = .ok value := by
  cases result <;> simp [searching]

theorem bind_eq_ok_iff {α β : Type} (first : Except CommandError α)
    (next : α → Except CommandError β) (result : β) :
    (first >>= next) = .ok result ↔ ∃ value, first = .ok value ∧ next value = .ok result := by
  cases first <;> simp [bind, Except.bind]

/-- The condition of a query and the values of its placeholders; a blank query has neither. -/
inductive Binds (limits : Limits) (schema : Schema) (query : String) (offset : Nat) :
    String → List Value → Prop where
  | blank (allBlank : Text.isAllBlank query = true) : Binds limits schema query offset "" []
  | condition {predicate : Predicate} {filter : Filter} {bound : BoundCondition}
      (accepted : Search.parse limits query = .ok (.only predicate))
      (typed : predicate.toFilter schema.types = .ok filter)
      (built : filter.toCondition offset = .ok bound) :
      Binds limits schema query offset bound.condition.text bound.parameters

variable {files : FileReader} {limits : Limits} {schema : Schema} {query : String} {offset : Nat}

theorem runAction_sql_binds {output : String}
    (printed : runAction files limits schema (.sql query offset) = .ok output) :
    ∃ fragment values, Binds limits schema query offset fragment values ∧
      output = fragment ++ "\n" ++ (Json.array (values.map Value.toJson)).compact := by
  obtain ⟨found, filterRead, printed⟩ := (bind_eq_ok_iff _ _ _).mp printed
  obtain ⟨search, parsed, filterRead⟩ := (bind_eq_ok_iff _ _ _).mp filterRead
  rw [searching_eq_ok_iff] at parsed filterRead
  cases search with
  | all =>
      cases filterRead
      cases printed
      rcases Search.parseCharacters_cases parsed with ⟨_, allBlank⟩ | ⟨_, _, _, same, _⟩
      · exact ⟨"", [], .blank allBlank, rfl⟩
      · cases same
  | only predicate =>
      rw [Search.toFilter] at filterRead
      cases typed : predicate.toFilter schema.types with
      | error error => rw [typed] at filterRead; cases filterRead
      | ok filter =>
          rw [typed] at filterRead
          cases filterRead
          obtain ⟨bound, built, printed⟩ := (bind_eq_ok_iff _ _ _).mp printed
          rw [searching_eq_ok_iff] at built
          cases printed
          exact ⟨_, _, .condition parsed typed built, rfl⟩

namespace Binds

variable {fragment : String} {values : List Value}

theorem oneLine (binds : Binds limits schema query offset fragment values) :
    OneLine fragment.toList := by
  cases binds with
  | blank _ => simp
  | condition accepted typed built =>
      have translates := Predicate.translates_of_toFilter _ 0 _ typed
      have wellFormed := (parseCharacters_wellFormed accepted).1
      rw [Condition.text, String.toList_ofList]
      apply Filter.oneLine_toCondition built
      intro name member
      rw [translates.attributeNames_eq] at member
      exact (wellFormed.validNames name member).oneLine

theorem inRange (binds : Binds limits schema query offset fragment values) :
    ∀ value ∈ values, value.InRange := by
  cases binds with
  | blank _ => nofun
  | @condition predicate filter bound accepted typed built =>
      obtain ⟨_, rfl⟩ := (Filter.toCondition_eq_ok_iff filter offset bound).mp built
      exact (Predicate.translates_of_toFilter _ 0 _ typed).inRange

theorem fragment_eq_empty_iff (binds : Binds limits schema query offset fragment values) :
    fragment = "" ↔ Text.isAllBlank query = true := by
  cases binds with
  | blank allBlank => simp [allBlank]
  | @condition predicate filter bound accepted typed built =>
      have notBlank : Text.isAllBlank query = false := Search.not_blank_of_only accepted
      have nonempty := bound.condition.characters_ne_nil
      rw [notBlank, Condition.text, ← String.toList_inj, String.toList_ofList]
      simp [nonempty]

theorem length_dollars (binds : Binds limits schema query offset fragment values) :
    (Sql.dollars fragment).length = values.length := by
  cases binds with
  | blank _ => rfl
  | @condition predicate filter bound accepted typed built =>
      obtain ⟨_, rfl⟩ := (Filter.toCondition_eq_ok_iff filter offset bound).mp built
      rw [Condition.dollars_text, Skeleton.placeholders_condition, List.length_map,
        placeholdersAfter, List.length_map, List.length_range, Filter.length_boundValues]

end Binds

/-- The output of `sql` has one line break.  Before it stands the condition, which is empty exactly
for a blank query; after it stands a JSON array from which the bound values are read, one for each
placeholder of the condition, whatever characters they hold. -/
theorem sql_output_divides_at_line_break {output : String}
    (printed : runAction files limits schema (.sql query offset) = .ok output) :
    ∃ (fragment line : String) (values : List Value) (forms : List JsonForm),
      TwoLines output fragment line ∧
      Binds limits schema query offset fragment values ∧
      (fragment = "" ↔ Text.isAllBlank query = true) ∧
      line = (Json.array (values.map Value.toJson)).compact ∧
      JsonForm.read? line = some (.array forms) ∧
      List.Forall₂ Value.ShownBy values forms ∧
      forms.length = (Sql.dollars fragment).length := by
  obtain ⟨fragment, values, binds, rfl⟩ := runAction_sql_binds printed
  obtain ⟨forms, read, shown⟩ := Value.exists_forms binds.inRange
  have secondLine : OneLine (Json.array (values.map Value.toJson)).compact.toList := by
    have items := Json.oneLine_itemCharacters (values.map Value.toJson) fun item member => by
      obtain ⟨value, valueMember, rfl⟩ := List.mem_map.mp member
      exact Value.oneLine_toJson (binds.inRange value valueMember)
    simpa [Json.compact, Json.characters] using items
  refine ⟨fragment, _, values, forms, twoLines_of_oneLine binds.oneLine secondLine, binds,
    binds.fragment_eq_empty_iff, rfl, JsonForm.read?_compact (JsonForm.reads_array read), shown, ?_⟩
  rw [binds.length_dollars, shown.length_eq]

/-- A line break, a quote and a control character in a value, and a dollar sign in a name. -/
def brokenQuery : String :=
  "(!a$9.b|eq:\"\n\\\"\x01\" AND n|gt:\"0.5\")"

def brokenSchema : Schema :=
  .ofList [("n", ⟨.double, []⟩)]

def brokenFragment : String :=
  "(NOT (\"a$9\".\"b\" = $3) AND \"n\" > $4)"

def brokenLine : String :=
  "[\x7b\"type\":\"string\",\"value\":\"\\n\\\"\\u0001\"\x7d,\x7b\"type\":\"double\",\"value\":0.5\x7d]"

theorem sql_output_divides_at_line_break_broken :
    runAction (fun _ => .error .notFound) {} brokenSchema (.sql brokenQuery 2) =
        .ok (brokenFragment ++ "\n" ++ brokenLine) ∧
      ∃ forms, JsonForm.read? brokenLine = some (.array forms) ∧ forms.length = 2 := by
  have printed : runAction (fun _ => .error .notFound) {} brokenSchema (.sql brokenQuery 2) =
      .ok (brokenFragment ++ "\n" ++ brokenLine) := by
    decide +kernel
  obtain ⟨fragment, line, _, forms, lines, _, _, _, read, _, count⟩ :=
    sql_output_divides_at_line_break printed
  have sameLines : TwoLines (brokenFragment ++ "\n" ++ brokenLine) brokenFragment brokenLine := by
    apply twoLines_of_oneLine
    · simp [brokenFragment]
    · simp [brokenLine]
  have same := lines.divided.symm.trans sameLines.divided
  rw [List.cons.injEq, List.cons.injEq, String.toList_inj, String.toList_inj] at same
  obtain ⟨rfl, rfl, _⟩ := same
  refine ⟨printed, forms, read, ?_⟩
  rw [count]
  decide +kernel

end Command

end SearchQuery
