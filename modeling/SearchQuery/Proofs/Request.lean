import Mathlib.Data.List.Forall2
import SearchQuery.Proofs.Balanced
import SearchQuery.Proofs.RoundTrip

/-!
# Request parameters cannot add structure

A parameter of a request asks for one test: its name spells the attribute and the operator, its
value is the value.  The search of a request is the balanced conjunction of these tests, as if each
leaf had been built from its parts; that the tests go through query text is not seen.
-/

set_option autoImplicit false

namespace SearchQuery

namespace Parameter

/-! ## Names of parameters -/

def isPlain (c : Char) : Bool :=
  c != '[' && c != ']'

def ValidField (field : String) : Prop :=
  Predicate.ValidName field ∧ ∀ c ∈ field.toList, isPlain c = true

instance (field : String) : Decidable (ValidField field) :=
  decidable_of_iff (Predicate.ValidName field ∧ field.toList.all isPlain = true)
    (and_congr_right' List.all_eq_true)

/-- An operator code as far as its characters go. -/
def ValidCode (code : String) : Prop :=
  code ≠ "" ∧ ∀ c ∈ code.toList, c.isAlphanum = true

instance (code : String) : Decidable (ValidCode code) :=
  decidable_of_iff (code ≠ "" ∧ code.toList.all Char.isAlphanum = true)
    (and_congr_right' List.all_eq_true)

/-- The name spells the field alone, or the field and then the code in brackets, with blanks around
it or not. -/
def Names (name field : String) : Option String → Prop
  | none => ValidField field ∧ name = field
  | some code =>
      ValidField field ∧ ValidCode code ∧ ∃ before after : List Char,
        (∀ c ∈ before, Text.isBlank c = true) ∧ (∀ c ∈ after, Text.isBlank c = true) ∧
        name.toList = field.toList ++ '[' :: (before ++ code.toList ++ after) ++ [']']

def WellNamed (name : String) : Prop :=
  ∃ field code, Names name field code

theorem bracketed?_append {field inner : List Char} (nonempty : field ≠ [])
    (fieldPlain : ∀ c ∈ field, isPlain c = true) (innerPlain : ∀ c ∈ inner, isPlain c = true) :
    bracketed? (field ++ '[' :: inner ++ [']']) = some (field, inner) := by
  have openingStops : ('[' :: (inner ++ [']'])).takeWhile isPlain = [] := by
    simp [isPlain]
  have closingStops : [']'].takeWhile isPlain = [] := by
    simp [isPlain]
  have fieldTaken := Text.takeWhile_run fieldPlain openingStops
  have fieldDropped := Text.dropWhile_run fieldPlain openingStops
  have innerTaken := Text.takeWhile_run innerPlain closingStops
  have innerDropped := Text.dropWhile_run innerPlain closingStops
  rw [List.append_assoc, List.cons_append]
  unfold isPlain at fieldTaken fieldDropped innerTaken innerDropped
  simp [bracketed?, fieldTaken, fieldDropped, innerTaken, innerDropped, nonempty]

theorem bracketed?_eq_some {name field inner : List Char}
    (divided : bracketed? name = some (field, inner)) :
    field ≠ [] ∧ (∀ c ∈ field, isPlain c = true) ∧ (∀ c ∈ inner, isPlain c = true) ∧
      name = field ++ '[' :: inner ++ [']'] := by
  have fieldPart := List.takeWhile_append_dropWhile (p := isPlain) (l := name)
  simp only [bracketed?] at divided
  split at divided
  next rest opened =>
    split at divided
    next closed =>
      cases divided
      rw [Bool.and_eq_true, Bool.not_eq_true', List.isEmpty_eq_false_iff, beq_iff_eq] at closed
      have innerPart := List.takeWhile_append_dropWhile (p := isPlain) (l := rest)
      refine ⟨closed.1, List.all_eq_true.mp List.all_takeWhile,
        List.all_eq_true.mp List.all_takeWhile, ?_⟩
      unfold isPlain at fieldPart innerPart
      rw [closed.2] at innerPart
      rw [opened, ← innerPart] at fieldPart
      rw [List.append_assoc, List.cons_append]
      exact fieldPart.symm
    next => cases divided
  next => cases divided

/-! ## Blanks around a code -/

theorem trimBlanks_surrounded {before code after : List Char} (nonempty : code ≠ [])
    (beforeBlank : ∀ c ∈ before, Text.isBlank c = true)
    (afterBlank : ∀ c ∈ after, Text.isBlank c = true)
    (codeVisible : ∀ c ∈ code, Text.isBlank c = false) :
    Text.trimBlanks (before ++ code ++ after) = code := by
  have codeStops : ∀ {part rest : List Char}, part ≠ [] → (∀ c ∈ part, Text.isBlank c = false) →
      (part ++ rest).takeWhile Text.isBlank = [] := by
    intro part rest partNonempty visible
    obtain ⟨first, others, rfl⟩ := List.exists_cons_of_ne_nil partNonempty
    simp [visible first List.mem_cons_self]
  have front : (before ++ (code ++ after)).dropWhile Text.isBlank = code ++ after :=
    Text.dropWhile_run beforeBlank (codeStops nonempty codeVisible)
  have reversedStops : code.reverse.takeWhile Text.isBlank = [] := by
    have stops : (code.reverse ++ []).takeWhile Text.isBlank = [] :=
      codeStops (by simpa using nonempty) (by simpa using codeVisible)
    rwa [List.append_nil] at stops
  have back : (after.reverse ++ code.reverse).dropWhile Text.isBlank = code.reverse :=
    Text.dropWhile_run (by simpa using afterBlank) reversedStops
  rw [Text.trimBlanks, List.append_assoc, front, List.reverse_append, back, List.reverse_reverse]

theorem exists_trimBlanks (text : List Char) :
    ∃ before after : List Char, (∀ c ∈ before, Text.isBlank c = true) ∧
      (∀ c ∈ after, Text.isBlank c = true) ∧ text = before ++ Text.trimBlanks text ++ after := by
  let visible := (text.dropWhile Text.isBlank).reverse
  refine ⟨text.takeWhile Text.isBlank, (visible.takeWhile Text.isBlank).reverse, ?_, ?_, ?_⟩
  · exact List.all_eq_true.mp List.all_takeWhile
  · intro c member
    exact List.all_eq_true.mp List.all_takeWhile c (List.mem_reverse.mp member)
  · have front := List.takeWhile_append_dropWhile (p := Text.isBlank) (l := text)
    have back := List.takeWhile_append_dropWhile (p := Text.isBlank) (l := visible)
    have backReversed := congrArg List.reverse back
    rw [List.reverse_append, List.reverse_reverse] at backReversed
    rw [List.append_assoc, Text.trimBlanks]
    exact front.symm.trans (congrArg _ backReversed.symm)

theorem isBlank_of_isAlphanum {c : Char} (allowed : c.isAlphanum = true) :
    Text.isBlank c = false := by
  have range : (65 ≤ c.toNat ∧ c.toNat ≤ 90) ∨ (97 ≤ c.toNat ∧ c.toNat ≤ 122) ∨
      (48 ≤ c.toNat ∧ c.toNat ≤ 57) := by
    unfold Char.isAlphanum Char.isAlpha Char.isUpper Char.isLower Char.isDigit at allowed
    simp only [Char.reduceVal, ge_iff_le, UInt32.le_iff_toNat_le, UInt32.reduceToNat, Char.toNat_val,
      Bool.decide_and, Bool.or_eq_true, Bool.and_eq_true, decide_eq_true_eq] at allowed
    omega
  simp only [Text.isBlank, Bool.or_eq_false_iff, Bool.and_eq_false_imp, decide_eq_true_eq,
    decide_eq_false_iff_not, Nat.not_le, beq_eq_false_iff_ne, ne_eq]
  omega

theorem isPlain_of_class (inside : Char → Bool) (noOpening : inside '[' = false)
    (noClosing : inside ']' = false) {c : Char} (member : inside c = true) : isPlain c = true := by
  have notOpening : c ≠ '[' := by
    rintro rfl
    rw [noOpening] at member
    cases member
  have notClosing : c ≠ ']' := by
    rintro rfl
    rw [noClosing] at member
    cases member
  simp [isPlain, notOpening, notClosing]

end Parameter

/-! ## Tests -/

structure Test where
  field : String
  code : String
  value : String
deriving DecidableEq, Repr

namespace Test

/-- The leaf of a test, built from its parts.  A list is divided at its commas, and nothing in a value
has any other meaning. -/
def leaf (test : Test) : Except SearchError Predicate :=
  match Operator.ofCode? test.code with
  | none => .error (.unknownOperator test.code)
  | some operator =>
    if test.value = "" then
      if operator.arity = .none then
        .ok (.bare test.field operator)
      else
        .error (.invalidPredicate (.requiresValue test.field operator))
    else
      match operator.arity with
      | .none => .error (.invalidPredicate (.takesNoValue test.field operator))
      | .single => .ok (.single test.field operator test.value)
      | .multiple =>
          let values := (test.value.toList.splitOn ',').map String.ofList
          if "" ∈ values then
            .error (.invalidPredicate (.blankValue test.field))
          else
            .ok (.multiple test.field operator values)

def literal (test : Test) : Option String :=
  if test.value = "" then none
  else some (String.ofList (escaped needsEscape test.value.toList))

def text (test : Test) : List Char :=
  termCharacters test.field test.code test.literal

theorem text_bare (field code : String) :
    text ⟨field, code, ""⟩ = field.toList ++ '|' :: code.toList ++ [':'] := by
  simp [text, literal, termCharacters, Phrase.literalCharacters]

theorem text_valued (field code : String) {value : String} (someValue : value ≠ "") :
    text ⟨field, code, value⟩ =
      field.toList ++ '|' :: code.toList ++ ':' :: Parameter.quoted value := by
  simp [text, literal, someValue, termCharacters, Phrase.literalCharacters, Parameter.quoted]

structure Valid (test : Test) : Prop where
  field : Parameter.ValidField test.field
  code : Parameter.ValidCode test.code

theorem Valid.termSpelled {test : Test} (valid : test.Valid) :
    TermSpelled test.field test.code test.literal where
  nameNonempty := by simpa using valid.field.1.1
  nameAllowed := valid.field.1.2
  codeNonempty := by simpa using valid.code.1
  codeAllowed := valid.code.2
  literalAllowed := by
    intro content isLiteral
    rw [literal] at isLiteral
    split at isLiteral
    · cases isLiteral
    · cases isLiteral
      rw [String.toList_ofList]
      exact isLiteralContent_escaped test.value.toList

theorem forM_checkValue_eq_error (name : String) :
    ∀ values : List String, "" ∈ values →
      values.forM (Predicate.checkValue name) = .error (.invalidPredicate (.blankValue name)) := by
  intro values
  induction values with
  | nil =>
      intro member
      cases member
  | cons value others inductionHypothesis =>
      intro member
      change (Predicate.checkValue name value >>= fun _ =>
        others.forM (Predicate.checkValue name)) = _
      by_cases empty : value = ""
      · rw [Predicate.checkValue, if_pos (by simp [empty])]
        rfl
      · have later : "" ∈ others := by
          simpa [Ne.symm empty] using member
        rw [Predicate.checkValue, if_neg (by simpa using empty)]
        exact inductionHypothesis later

theorem multiple?_blank {name : String} {operator : Operator} {values : List String}
    (valid : Predicate.ValidName name) (arity : operator.arity = .multiple)
    (blank : "" ∈ values) :
    Predicate.multiple? name operator values = .error (.invalidPredicate (.blankValue name)) := by
  have nameChecked : Predicate.checkName name = .ok () :=
    (Predicate.checkName_eq_ok_iff name).2 valid
  have arityChecked : Predicate.checkArity name operator .multiple = .ok () :=
    (Predicate.checkArity_eq_ok_iff name operator .multiple).2 arity
  have nonempty : values.isEmpty = false := by
    cases values with
    | nil => cases blank
    | cons value others => rfl
  simp only [Predicate.multiple?, nameChecked, arityChecked, nonempty, bind, Except.bind,
    Bool.false_eq_true, if_false, forM_checkValue_eq_error name values blank]

theorem escaped_ne_nil {value : List Char} (nonempty : value ≠ []) :
    escaped needsEscape value ≠ [] := by
  intro noText
  have back := unescaped_escaped value
  rw [noText] at back
  exact nonempty back.symm

theorem ofTerm_eq_leaf {test : Test} (valid : test.Valid) :
    Predicate.ofTerm test.field test.code test.literal = test.leaf := by
  rw [Predicate.ofTerm, leaf, literal]
  cases Operator.ofCode? test.code with
  | none => rfl
  | some operator =>
      by_cases noValue : test.value = ""
      · simp only [noValue, if_true]
        cases arity : operator.arity with
        | none =>
            exact (Predicate.bare?_eq_ok_iff test.field operator _).2 ⟨⟨valid.field.1, arity⟩, rfl⟩
        | single => rfl
        | multiple => rfl
      · simp only [noValue, if_false]
        cases arity : operator.arity with
        | none => rfl
        | single =>
            simp only [String.toList_ofList, unescaped_escaped, String.ofList_toList]
            exact (Predicate.single?_eq_ok_iff test.field operator test.value _).2
              ⟨⟨valid.field.1, arity, noValue⟩, rfl⟩
        | multiple =>
            have literalNonempty :
                (String.ofList (escaped needsEscape test.value.toList)).isEmpty = false := by
              simpa using escaped_ne_nil (by simpa using noValue)
            have listNonempty : (test.value.toList.splitOn ',').map String.ofList ≠ [] := by
              simp [List.splitOn_ne_nil]
            simp only [literalNonempty, Bool.false_eq_true, if_false, String.toList_ofList,
              splitList_escaped, separatorMark]
            split
            next blank => exact multiple?_blank valid.field.1 arity blank
            next noBlank =>
              apply (Predicate.multiple?_eq_ok_iff test.field operator _ _).2
              refine ⟨⟨valid.field.1, arity, listNonempty, ?_⟩, rfl⟩
              rintro value member rfl
              exact noBlank member

/-! ## Conjunctions of tests -/

theorem length_of_mapM_leaf :
    ∀ {tests : List Test} {leaves : List Predicate}, tests.mapM leaf = .ok leaves →
      leaves.length = tests.length := by
  intro tests
  induction tests with
  | nil =>
      intro leaves built
      cases built
      rfl
  | cons test others inductionHypothesis =>
      intro leaves built
      rw [List.mapM_cons, bind_eq_ok_iff] at built
      obtain ⟨first, _, built⟩ := built
      rw [bind_eq_ok_iff] at built
      obtain ⟨rest, restBuilt, built⟩ := built
      cases built
      rw [List.length_cons, List.length_cons, inductionHypothesis restBuilt]

/-- What a phrase denotes agrees with leaves built one by one: both fail alike, or the phrase denotes
the conjunction of the leaves. -/
theorem denotes_cases {tree : Except SearchError Predicate}
    {leaves : Except SearchError (List Predicate)}
    (agree : tree.map some = leaves.map (balanced Predicate.and)) :
    (∃ error, tree = .error error ∧ leaves = .error error) ∨
      ∃ predicate found, tree = .ok predicate ∧ leaves = .ok found ∧
        balanced Predicate.and found = some predicate := by
  cases tree with
  | error error =>
      cases leaves with
      | error sameError =>
          cases agree
          exact .inl ⟨error, rfl, rfl⟩
      | ok found => cases agree
  | ok predicate =>
      cases leaves with
      | error error => cases agree
      | ok found => exact .inr ⟨predicate, found, rfl, rfl, (Except.ok.inj agree).symm⟩

/-- The leaves of two halves are joined as the halves are, and the first error is that of the left
half if it has one. -/
theorem predicate_group_halves {left right : List Test} (halves : Halves left right)
    {leftPhrase rightPhrase : Phrase}
    (leftBuilt : leftPhrase.predicate.map some = (left.mapM leaf).map (balanced Predicate.and))
    (rightBuilt : rightPhrase.predicate.map some = (right.mapM leaf).map (balanced Predicate.and)) :
    (Phrase.group 0 leftPhrase .and rightPhrase).predicate.map some =
      ((left ++ right).mapM leaf).map (balanced Predicate.and) := by
  rw [List.mapM_append, Phrase.predicate]
  obtain ⟨error, leftTree, leftLeaves⟩ | ⟨first, leftFound, leftTree, leftLeaves, leftJoined⟩ :=
    denotes_cases leftBuilt
  · rw [leftTree, leftLeaves]
    rfl
  obtain ⟨error, rightTree, rightLeaves⟩ |
    ⟨second, rightFound, rightTree, rightLeaves, rightJoined⟩ := denotes_cases rightBuilt
  · rw [leftTree, leftLeaves, rightTree, rightLeaves]
    rfl
  · have foundHalves : Halves leftFound rightFound :=
      halves.of_length (length_of_mapM_leaf leftLeaves) (length_of_mapM_leaf rightLeaves)
    rw [leftTree, leftLeaves, rightTree, rightLeaves]
    exact congrArg Except.ok (balanced_halves foundHalves leftJoined rightJoined).symm

theorem exists_phrase :
    ∀ tests : List Test, tests ≠ [] → (∀ test ∈ tests, test.Valid) →
      ∃ phrase : Phrase, phrase.Spelled ∧ phrase.characters = joinBalanced (tests.map text) ∧
        phrase.nesting = Nat.clog 2 tests.length ∧
        phrase.predicate.map some = (tests.mapM leaf).map (balanced Predicate.and) := by
  apply halving_induction
  · intro nonempty
    exact absurd rfl nonempty
  · intro test _ allValid
    have valid := allValid test List.mem_cons_self
    refine ⟨.term 0 test.field test.code test.literal, valid.termSpelled, ?_, ?_, ?_⟩
    · rw [List.map_cons, List.map_nil, joinBalanced_single]
      rfl
    · simp [Phrase.nesting]
    · rw [Phrase.predicate, ofTerm_eq_leaf valid, List.mapM_cons]
      cases test.leaf with
      | error error => rfl
      | ok tree => exact congrArg Except.ok (balanced_single tree).symm
  · intro left right halves leftPhrased rightPhrased _ allValid
    obtain ⟨leftPhrase, leftSpelled, leftText, leftNesting, leftBuilt⟩ :=
      leftPhrased halves.left_nonempty fun test member =>
        allValid test (List.mem_append_left _ member)
    obtain ⟨rightPhrase, rightSpelled, rightText, rightNesting, rightBuilt⟩ :=
      rightPhrased halves.nonempty fun test member =>
        allValid test (List.mem_append_right _ member)
    refine ⟨.group 0 leftPhrase .and rightPhrase, ⟨leftSpelled, rightSpelled⟩, ?_, ?_, ?_⟩
    · have textHalves : Halves (left.map text) (right.map text) :=
        halves.of_length (List.length_map text) (List.length_map text)
      rw [List.map_append, joinBalanced_halves textHalves, ← leftText, ← rightText,
        Phrase.characters]
      simp [Join.keyword]
    · rw [Phrase.nesting, leftNesting, rightNesting, halves.clog_length]
    · exact predicate_group_halves halves leftBuilt rightBuilt

theorem parseCharacters_joinBalanced {limits : Limits} {tests : List Test} (nonempty : tests ≠ [])
    (allValid : ∀ test ∈ tests, test.Valid)
    (short : (joinBalanced (tests.map text)).length ≤ limits.maxLength)
    (shallow : Nat.clog 2 tests.length ≤ limits.maxDepth) :
    Search.parseCharacters limits (joinBalanced (tests.map text)) =
      (tests.mapM leaf).map fun leaves =>
        Search.ofPredicate? (balanced Predicate.and leaves) := by
  obtain ⟨phrase, spelled, spelling, nesting, built⟩ := exists_phrase tests nonempty allValid
  rw [← spelling] at short ⊢
  rw [← nesting] at shallow
  rw [parseCharacters_phrase spelled short shallow]
  obtain ⟨error, tree, leaves⟩ | ⟨predicate, found, tree, leaves, joined⟩ := denotes_cases built
  · rw [tree, leaves]
    rfl
  · rw [tree, leaves]
    exact congrArg (fun joined => Except.ok (Search.ofPredicate? joined)) joined.symm

end Test

/-- The fault of a parameter's name says which name it is; a bad field is named by itself, which is
the part of the name before the bracket. -/
def PredicateFault.Concerns (name : String) : PredicateFault → Prop
  | .emptyParameterCode parameter => parameter = name
  | .malformedParameter parameter => parameter = name
  | .invalidParameterCode parameter _ => parameter = name
  | .invalidParameterField field => field.toList = name.toList.takeWhile (· != '[')
  | _ => False

namespace Parameter

/-! ## The test of a parameter -/

/-- A bare field asks for equality, or for nothing if it has no value; a code asks for its
operator. -/
inductive Asks (parameter : Parameter) : Option Test → Prop where
  | nothing {field : String} (names : Names parameter.name field none)
      (noValue : parameter.value = "") : Asks parameter none
  | equality {field : String} (names : Names parameter.name field none)
      (someValue : parameter.value ≠ "") : Asks parameter (some ⟨field, "eq", parameter.value⟩)
  | coded {field code : String} (names : Names parameter.name field (some code)) :
      Asks parameter (some ⟨field, code, parameter.value⟩)

theorem Asks.valid {parameter : Parameter} {test : Test} (asks : parameter.Asks (some test)) :
    test.Valid := by
  cases asks with
  | equality names someValue =>
      have equalityCode : ValidCode "eq" := by decide
      exact ⟨names.1, equalityCode⟩
  | coded names => exact ⟨names.1, names.2.1⟩

theorem exists_asks {parameter : Parameter} (wellNamed : WellNamed parameter.name) :
    ∃ answer, parameter.Asks answer := by
  obtain ⟨field, _ | code, names⟩ := wellNamed
  · by_cases noValue : parameter.value = ""
    · exact ⟨none, .nothing names noValue⟩
    · exact ⟨_, .equality names noValue⟩
  · exact ⟨_, .coded names⟩

theorem bracketed?_of_plain {name : List Char} (plain : ∀ c ∈ name, isPlain c = true) :
    bracketed? name = none := by
  cases divided : bracketed? name with
  | none => rfl
  | some parts =>
      obtain ⟨_, _, _, spelled⟩ := bracketed?_eq_some divided
      have opening := plain '[' (by simp [spelled])
      cases opening

theorem target?_bare {field : String} (valid : ValidField field) :
    target? field = .ok (field.toList, none) := by
  have noBrackets : (field.toList.any fun c => c == '[' || c == ']') = false := by
    simpa [isPlain] using valid.2
  rw [target?, bracketed?_of_plain valid.2]
  simp only [noBrackets, Bool.false_eq_true, if_false]

theorem target?_coded {name field code : String} (names : Names name field (some code)) :
    target? name = .ok (field.toList, some code.toList) := by
  obtain ⟨validField, validCode, before, after, beforeBlank, afterBlank, spelled⟩ := names
  have codeNonempty : code.toList ≠ [] := by simpa using validCode.1
  have innerPlain : ∀ c ∈ before ++ code.toList ++ after, isPlain c = true := by
    intro c member
    rw [List.mem_append, List.mem_append] at member
    obtain (inBefore | inCode) | inAfter := member
    · exact isPlain_of_class Text.isBlank rfl rfl (beforeBlank c inBefore)
    · exact isPlain_of_class Char.isAlphanum rfl rfl (validCode.2 c inCode)
    · exact isPlain_of_class Text.isBlank rfl rfl (afterBlank c inAfter)
  have trimmed := trimBlanks_surrounded codeNonempty beforeBlank afterBlank
    fun c member => isBlank_of_isAlphanum (validCode.2 c member)
  rw [target?, spelled, bracketed?_append (by simpa using validField.1.1) validField.2 innerPlain]
  simp only [trimmed, List.isEmpty_iff, codeNonempty, if_false]

theorem field_allowed {field : String} (valid : ValidField field) :
    (field.toList.isEmpty || !field.toList.all isNameCharacter) = false := by
  have nonempty : field.toList ≠ [] := by simpa using valid.1.1
  have allowed : field.toList.all isNameCharacter = true := List.all_eq_true.mpr valid.1.2
  simp [nonempty, allowed]

theorem term?_of_asks {parameter : Parameter} {answer : Option Test}
    (asks : parameter.Asks answer) : parameter.term? = .ok (answer.map Test.text) := by
  cases asks with
  | nothing names noValue =>
      rw [term?, names.2, target?_bare names.1]
      simp only [bind, Except.bind, field_allowed names.1, noValue]
      rfl
  | @equality field names someValue =>
      have coded : "|eq:".toList = '|' :: "eq".toList ++ [':'] := rfl
      rw [term?, names.2, target?_bare names.1, Option.map_some, Test.text_valued field "eq" someValue]
      simp only [bind, Except.bind, field_allowed names.1, Bool.false_eq_true, if_false,
        String.isEmpty_iff, someValue, coded, List.append_assoc, List.cons_append, List.nil_append]
      rfl
  | @coded field code names =>
      have codeAllowed : code.toList.all Char.isAlphanum = true :=
        List.all_eq_true.mpr names.2.1.2
      rw [term?, target?_coded names, Option.map_some]
      simp only [bind, Except.bind, field_allowed names.1, Bool.false_eq_true, if_false,
        codeAllowed, Bool.not_true, String.isEmpty_iff]
      split
      next noValue =>
        rw [noValue, Test.text_bare]
        rfl
      next someValue =>
        rw [Test.text_valued field code someValue]
        rfl

theorem term?_of_bad_field {parameter : Parameter} {field : List Char} {code : Option (List Char)}
    (target : target? parameter.name = .ok (field, code))
    (bad : (field.isEmpty || !field.all isNameCharacter) = true) :
    parameter.term? = .error (.invalidPredicate (.invalidParameterField (String.ofList field))) := by
  rw [term?, target]
  simp only [bind, Except.bind, bad, if_true]

theorem term?_of_bad_code {parameter : Parameter} {field code : List Char}
    (target : target? parameter.name = .ok (field, some code))
    (good : (field.isEmpty || !field.all isNameCharacter) = false)
    (bad : code.all Char.isAlphanum = false) :
    parameter.term? =
      .error (.invalidPredicate (.invalidParameterCode parameter.name (String.ofList code))) := by
  rw [term?, target]
  simp only [bind, Except.bind, good, bad, Bool.false_eq_true, if_false, Bool.not_false, if_true]

theorem validField_ofList {field : List Char}
    (good : (field.isEmpty || !field.all isNameCharacter) = false)
    (plain : ∀ c ∈ field, isPlain c = true) : ValidField (String.ofList field) := by
  simp only [Bool.or_eq_false_iff, Bool.not_eq_false', List.isEmpty_eq_false_iff,
    List.all_eq_true] at good
  refine ⟨⟨by simpa using good.1, ?_⟩, ?_⟩
  · rw [String.toList_ofList]
    exact good.2
  · rw [String.toList_ofList]
    exact plain

theorem takeWhile_not_opening {field : List Char} (plain : ∀ c ∈ field, isPlain c = true)
    {rest : List Char} (stops : rest.takeWhile (· != '[') = []) :
    (field ++ rest).takeWhile (· != '[') = field := by
  refine Text.takeWhile_run ?_ stops
  intro c member
  have notBrackets := plain c member
  rw [isPlain, Bool.and_eq_true] at notBrackets
  exact notBrackets.1

theorem term?_of_not_wellNamed {parameter : Parameter} (malformed : ¬WellNamed parameter.name) :
    ∃ fault, parameter.term? = .error (.invalidPredicate fault) ∧
      fault.Concerns parameter.name := by
  cases divided : bracketed? parameter.name.toList with
  | some parts =>
      obtain ⟨field, inner⟩ := parts
      obtain ⟨_, fieldPlain, _, spelled⟩ := bracketed?_eq_some divided
      by_cases noCode : Text.trimBlanks inner = []
      · refine ⟨.emptyParameterCode parameter.name, ?_, rfl⟩
        rw [term?, target?, divided]
        simp only [noCode]
        rfl
      have target : target? parameter.name = .ok (field, some (Text.trimBlanks inner)) := by
        rw [target?, divided]
        simp only [List.isEmpty_iff, noCode, if_false]
      cases goodField : (field.isEmpty || !field.all isNameCharacter) with
      | true =>
          refine ⟨_, term?_of_bad_field target goodField, ?_⟩
          rw [PredicateFault.Concerns, String.toList_ofList, spelled, List.append_assoc]
          exact (takeWhile_not_opening fieldPlain (by simp)).symm
      | false =>
          cases goodCode : (Text.trimBlanks inner).all Char.isAlphanum with
          | false => exact ⟨_, term?_of_bad_code target goodField goodCode, rfl⟩
          | true =>
              obtain ⟨before, after, beforeBlank, afterBlank, surrounded⟩ := exists_trimBlanks inner
              have validCode : ValidCode (String.ofList (Text.trimBlanks inner)) := by
                refine ⟨by simpa using noCode, ?_⟩
                rw [String.toList_ofList]
                exact List.all_eq_true.mp goodCode
              refine absurd ⟨String.ofList field, some (String.ofList (Text.trimBlanks inner)),
                validField_ofList goodField fieldPlain, validCode, before, after, beforeBlank,
                afterBlank, ?_⟩ malformed
              rw [String.toList_ofList, String.toList_ofList, ← surrounded, spelled]
  | none =>
      by_cases brackets : (parameter.name.toList.any fun c => c == '[' || c == ']') = true
      · refine ⟨.malformedParameter parameter.name, ?_, rfl⟩
        rw [term?, target?, divided]
        simp only [brackets, if_true]
        rfl
      have plain : ∀ c ∈ parameter.name.toList, isPlain c = true := by
        simpa [isPlain] using brackets
      have target : target? parameter.name = .ok (parameter.name.toList, none) := by
        rw [target?, divided]
        simp only [brackets]
        rfl
      cases goodField :
          (parameter.name.toList.isEmpty || !parameter.name.toList.all isNameCharacter) with
      | true =>
          refine ⟨_, term?_of_bad_field target goodField, ?_⟩
          have whole : (parameter.name.toList ++ []).takeWhile (· != '[') = parameter.name.toList :=
            takeWhile_not_opening plain rfl
          rw [List.append_nil] at whole
          rw [PredicateFault.Concerns, String.toList_ofList, whole]
      | false =>
          have valid := validField_ofList goodField plain
          rw [String.ofList_toList] at valid
          exact absurd ⟨parameter.name, none, valid, rfl⟩ malformed

end Parameter

namespace RequestForm

/-! ## The search of a request -/

def fields (form : RequestForm) (parameters : List Parameter) : List Parameter :=
  parameters.filter fun parameter => !form.isReserved parameter.name

theorem terms_eq_mapM (form : RequestForm) :
    ∀ parameters : List Parameter,
      form.terms parameters =
        ((form.fields parameters).mapM Parameter.term?).map fun terms => terms.filterMap id := by
  intro parameters
  induction parameters with
  | nil => rfl
  | cons parameter others inductionHypothesis =>
      cases reserved : form.isReserved parameter.name with
      | true =>
          have skipped : form.fields (parameter :: others) = form.fields others := by
            simp [fields, reserved]
          rw [terms, if_pos reserved, inductionHypothesis, skipped]
      | false =>
          have kept : form.fields (parameter :: others) = parameter :: form.fields others := by
            simp [fields, reserved]
          rw [terms, if_neg (by simp [reserved]), inductionHypothesis, kept, List.mapM_cons]
          cases parameter.term? with
          | error error => rfl
          | ok term =>
              cases (form.fields others).mapM Parameter.term? with
              | error error => rfl
              | ok found => cases term <;> rfl

theorem mapM_term?_of_asks {parameters : List Parameter} {answers : List (Option Test)}
    (asked : List.Forall₂ Parameter.Asks parameters answers) :
    parameters.mapM Parameter.term? = .ok (answers.map fun answer => answer.map Test.text) := by
  induction asked with
  | nil => rfl
  | cons asks _ inductionHypothesis =>
      rw [List.mapM_cons, Parameter.term?_of_asks asks, inductionHypothesis]
      rfl

theorem exists_asked :
    ∀ parameters : List Parameter,
      (∀ parameter ∈ parameters, Parameter.WellNamed parameter.name) →
      ∃ answers, List.Forall₂ Parameter.Asks parameters answers := by
  intro parameters
  induction parameters with
  | nil =>
      intro _
      exact ⟨[], .nil⟩
  | cons parameter others inductionHypothesis =>
      intro wellNamed
      obtain ⟨answer, asks⟩ := Parameter.exists_asks (wellNamed parameter List.mem_cons_self)
      obtain ⟨answers, asked⟩ := inductionHypothesis
        fun other member => wellNamed other (List.mem_cons_of_mem parameter member)
      exact ⟨answer :: answers, .cons asks asked⟩

theorem valid_of_asked {parameters : List Parameter} {answers : List (Option Test)}
    (asked : List.Forall₂ Parameter.Asks parameters answers) :
    ∀ test ∈ answers.filterMap id, test.Valid := by
  induction asked with
  | nil =>
      intro test member
      cases member
  | @cons parameter answer _ _ asks _ inductionHypothesis =>
      intro test member
      cases answer with
      | none => exact inductionHypothesis test member
      | some first =>
          obtain rfl | later := List.mem_cons.mp member
          · exact asks.valid
          · exact inductionHypothesis test later

theorem search_of_no_query {form : RequestForm} {parameters : List Parameter}
    (noQuery : ∀ parameter ∈ parameters, parameter.name ≠ form.queryParameterName) :
    form.search parameters = form.terms parameters >>= fun terms =>
      if terms.isEmpty then .ok .all
      else Search.parseCharacters form.limits (joinBalanced terms) := by
  have notFound : (parameters.find? fun parameter =>
      parameter.name == form.queryParameterName) = none := by
    simpa using noQuery
  rw [search, notFound]
  rfl

theorem search_of_malformed {form : RequestForm} {parameters before after : List Parameter}
    {parameter : Parameter}
    (noQuery : ∀ parameter ∈ parameters, parameter.name ≠ form.queryParameterName)
    (divided : form.fields parameters = before ++ parameter :: after)
    (wellNamed : ∀ earlier ∈ before, Parameter.WellNamed earlier.name)
    (malformed : ¬Parameter.WellNamed parameter.name) :
    ∃ fault, form.search parameters = .error (.invalidPredicate fault) ∧
      fault.Concerns parameter.name := by
  obtain ⟨fault, refused, concerns⟩ := Parameter.term?_of_not_wellNamed malformed
  obtain ⟨answers, asked⟩ := exists_asked before wellNamed
  refine ⟨fault, ?_, concerns⟩
  rw [search_of_no_query noQuery, terms_eq_mapM, divided, List.mapM_append,
    mapM_term?_of_asks asked, List.mapM_cons, refused]
  rfl

theorem terms_of_asked {form : RequestForm} {parameters : List Parameter}
    {answers : List (Option Test)} {tests : List Test}
    (asked : List.Forall₂ Parameter.Asks (form.fields parameters) answers)
    (kept : answers.filterMap id = tests) :
    form.terms parameters = .ok (tests.map Test.text) := by
  rw [terms_eq_mapM, mapM_term?_of_asks asked, ← kept]
  simp [Except.map, List.filterMap_map, List.map_filterMap]

theorem search_of_asked {form : RequestForm} {parameters : List Parameter}
    {answers : List (Option Test)} {tests : List Test}
    (noQuery : ∀ parameter ∈ parameters, parameter.name ≠ form.queryParameterName)
    (asked : List.Forall₂ Parameter.Asks (form.fields parameters) answers)
    (kept : answers.filterMap id = tests)
    (short : (joinBalanced (tests.map Test.text)).length ≤ form.limits.maxLength)
    (shallow : Nat.clog 2 tests.length ≤ form.limits.maxDepth) :
    form.search parameters =
      (tests.mapM Test.leaf).map fun leaves =>
        Search.ofPredicate? (balanced Predicate.and leaves) := by
  have allValid := valid_of_asked asked
  rw [kept] at allValid
  rw [search_of_no_query noQuery, terms_of_asked asked kept]
  by_cases noTests : tests = []
  · rw [noTests, List.mapM_nil]
    change Except.ok Search.all = Except.ok (Search.ofPredicate? (balanced Predicate.and []))
    rw [balanced_nil]
    rfl
  · rw [← Test.parseCharacters_joinBalanced noTests allValid short shallow]
    simp [bind, Except.bind, noTests]

/-- A request without query text is refused for its first parameter whose name has no form of its own.
Without such a parameter, and within the limits on the text that is written for it, its search is
the balanced conjunction of one leaf for each parameter that asks for a test, in order and built from
its parts; the first leaf that cannot be built is the error. -/
theorem search_eq_direct_construction (form : RequestForm) (parameters : List Parameter)
    (noQuery : ∀ parameter ∈ parameters, parameter.name ≠ form.queryParameterName) :
    (∀ before parameter after, form.fields parameters = before ++ parameter :: after →
      (∀ earlier ∈ before, Parameter.WellNamed earlier.name) →
      ¬Parameter.WellNamed parameter.name →
      ∃ fault, form.search parameters = .error (.invalidPredicate fault) ∧
        fault.Concerns parameter.name) ∧
    ((∀ parameter ∈ form.fields parameters, Parameter.WellNamed parameter.name) →
      ∃ answers, List.Forall₂ Parameter.Asks (form.fields parameters) answers) ∧
    (∀ answers tests, List.Forall₂ Parameter.Asks (form.fields parameters) answers →
      answers.filterMap id = tests →
      (tests = [] → form.search parameters = .ok .all) ∧
      ((joinBalanced (tests.map Test.text)).length ≤ form.limits.maxLength →
        Nat.clog 2 tests.length ≤ form.limits.maxDepth →
        form.search parameters =
          (tests.mapM Test.leaf).map fun leaves =>
            Search.ofPredicate? (balanced Predicate.and leaves))) := by
  refine ⟨?_, exists_asked _, ?_⟩
  · intro before parameter after divided wellNamed malformed
    exact search_of_malformed noQuery divided wellNamed malformed
  · intro answers tests asked kept
    refine ⟨?_, search_of_asked noQuery asked kept⟩
    rintro rfl
    rw [search_of_no_query noQuery, terms_of_asked asked kept]
    rfl

/-- Parameters of which one has a value that looks like the rest of a query. -/
def hostileParameters : List Parameter :=
  [⟨"Page", "2"⟩, ⟨"lastName", "DOE\") OR (x|eq:\"1"⟩, ⟨"note", ""⟩, ⟨"age[ ge ]", "20"⟩,
    ⟨"city[in]", "a,b"⟩]

/-- Quotes, parentheses and joining words in a value stay in the value. -/
theorem search_eq_direct_construction_hostile :
    ({} : RequestForm).search hostileParameters =
      .ok (.only (.and
        (.and (.single "lastName" .equal "DOE\") OR (x|eq:\"1")
          (.single "age" .greaterOrEqual "20"))
        (.multiple "city" .isIn ["a", "b"]))) := by
  let tests : List Test :=
    [⟨"lastName", "eq", "DOE\") OR (x|eq:\"1"⟩, ⟨"age", "ge", "20"⟩, ⟨"city", "in", "a,b"⟩]
  have noQuery : ∀ parameter ∈ hostileParameters,
      parameter.name ≠ ({} : RequestForm).queryParameterName := by
    decide
  have unreserved : ({} : RequestForm).fields hostileParameters = hostileParameters.tail := by
    decide
  have asked : List.Forall₂ Parameter.Asks (({} : RequestForm).fields hostileParameters)
      [some ⟨"lastName", "eq", "DOE\") OR (x|eq:\"1"⟩, none, some ⟨"age", "ge", "20"⟩,
        some ⟨"city", "in", "a,b"⟩] := by
    rw [unreserved]
    refine .cons (.equality ⟨by decide, rfl⟩ (by decide))
      (.cons (.nothing ⟨by decide, rfl⟩ rfl) (.cons (.coded ?_) (.cons (.coded ?_) .nil)))
    · exact ⟨by decide, by decide, [' '], [' '], List.all_eq_true.mp rfl, List.all_eq_true.mp rfl,
        by decide⟩
    · exact ⟨by decide, by decide, [], [], List.all_eq_true.mp rfl, List.all_eq_true.mp rfl,
        by decide⟩
  have short : (joinBalanced (tests.map Test.text)).length ≤ 4096 := by
    simp only [tests, List.map_cons, List.map_nil, joinBalanced, List.length_cons, List.length_nil,
      List.take, List.drop]
    decide +kernel
  have built : tests.mapM Test.leaf = .ok
      [.single "lastName" .equal "DOE\") OR (x|eq:\"1", .single "age" .greaterOrEqual "20",
        .multiple "city" .isIn ["a", "b"]] := by
    decide +kernel
  have direct := ((search_eq_direct_construction {} hostileParameters noQuery).2.2 _ tests asked
    rfl).2 short (by decide)
  rw [direct, built]
  simp [Except.map, balanced, Search.ofPredicate?]

end RequestForm

end SearchQuery
