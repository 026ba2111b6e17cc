import Mathlib.Algebra.Ring.Nat
import SearchQuery.Proofs.Canonical
import SearchQuery.Proofs.Faults
import SearchQuery.Proofs.RequestText

/-!
# What joining costs

Terms that are joined two by two are nested as deep as the logarithm of their number, and every join
adds seven characters.  The first term lies deepest, so its parentheses are met before any term: a
request with more fields than the depth limit allows is refused for that, whatever its fields are.
-/

set_option autoImplicit false

namespace SearchQuery

/-! ## Terms and the groups around them -/

inductive Grouping where
  | term (text : List Char)
  | group (left right : Grouping)
deriving DecidableEq, Repr

namespace Grouping

def terms : Grouping → List (List Char)
  | .term text => [text]
  | .group left right => left.terms ++ right.terms

def characters : Grouping → List Char
  | .term text => text
  | .group left right => '(' :: left.characters ++ " AND ".toList ++ right.characters ++ [')']

def nesting : Grouping → Nat
  | .term _ => 0
  | .group left right => max left.nesting right.nesting + 1

/-- The number of groups around the first term. -/
def firstLevel : Grouping → Nat
  | .term _ => 0
  | .group left _ => left.firstLevel + 1

theorem length_characters (grouping : Grouping) :
    grouping.characters.length + 7 =
      (grouping.terms.map List.length).sum + 7 * grouping.terms.length := by
  induction grouping with
  | term text => simp [characters, terms]
  | group left right leftInduction rightInduction =>
      have joinLength : " AND ".toList.length = 5 := rfl
      simp only [characters, terms, List.length_append, List.length_cons, List.length_nil,
        List.map_append, List.sum_append, joinLength]
      omega

/-- The parentheses around the first term all stand at the front. -/
theorem characters_eq_openings (grouping : Grouping) :
    ∃ rest, grouping.characters = List.replicate grouping.firstLevel '(' ++ rest := by
  induction grouping with
  | term text => exact ⟨text, rfl⟩
  | group left right leftInduction _ =>
      obtain ⟨rest, divided⟩ := leftInduction
      refine ⟨rest ++ " AND ".toList ++ right.characters ++ [')'], ?_⟩
      rw [characters, firstLevel, divided, List.replicate_succ]
      simp only [List.append_assoc, List.cons_append]

/-- The balanced conjunction of terms keeps their order, and its first term lies deepest. -/
theorem exists_of_joinBalanced :
    ∀ texts : List (List Char), texts ≠ [] →
      ∃ grouping : Grouping, grouping.terms = texts ∧ grouping.characters = joinBalanced texts ∧
        grouping.nesting = Nat.clog 2 texts.length ∧ grouping.firstLevel = grouping.nesting := by
  apply halving_induction
  · intro nonempty
    exact absurd rfl nonempty
  · intro text _
    exact ⟨.term text, rfl, (joinBalanced_single text).symm, by simp [nesting], rfl⟩
  · intro left right halves leftGrouped rightGrouped _
    obtain ⟨first, firstTerms, firstText, firstNesting, firstDeepest⟩ :=
      leftGrouped halves.left_nonempty
    obtain ⟨second, secondTerms, secondText, secondNesting, _⟩ := rightGrouped halves.nonempty
    have leftDeeper : second.nesting ≤ first.nesting := by
      rw [firstNesting, secondNesting]
      exact halves.clog_right_le
    refine ⟨.group first second, ?_, ?_, ?_, ?_⟩
    · rw [terms, firstTerms, secondTerms]
    · rw [characters, firstText, secondText, joinBalanced_halves halves]
    · rw [nesting, firstNesting, secondNesting, halves.clog_length]
    · rw [firstLevel, nesting, firstDeepest, Nat.max_eq_left leftDeeper]

end Grouping

/-- The length of a text that joins the given terms: each join takes two parentheses, two blanks and
the joining word. -/
def joinedLength (terms : List (List Char)) : Nat :=
  (terms.map List.length).sum + 7 * (terms.length - 1)

theorem length_joinBalanced {terms : List (List Char)} (nonempty : terms ≠ []) :
    (joinBalanced terms).length = joinedLength terms := by
  obtain ⟨grouping, rfl, text, _⟩ := Grouping.exists_of_joinBalanced terms nonempty
  have lengths := grouping.length_characters
  have someTerms := List.length_pos_iff.mpr nonempty
  rw [← text, joinedLength]
  omega

/-! ## Parentheses at the front of a text -/

/-- Parentheses that stand side by side. -/
def openings (position : Nat) : Nat → List PlacedToken
  | 0 => []
  | count + 1 => ⟨position, .opening⟩ :: openings (position + 1) count

theorem scanFrom_openings (rest : List Char) :
    ∀ count position : Nat,
      scanFrom position (List.replicate count '(' ++ rest) =
        (scanFrom (position + count) rest).map fun tokens => openings position count ++ tokens := by
  intro count
  induction count with
  | zero =>
      intro position
      simp only [List.replicate_zero, List.nil_append, Nat.add_zero]
      cases scanFrom position rest <;> rfl
  | succ count inductionHypothesis =>
      intro position
      rw [List.replicate_succ, List.cons_append, scanFrom_opening, inductionHypothesis,
        Nat.add_assoc, Nat.add_comm 1 count]
      cases scanFrom (position + (count + 1)) rest <;> rfl

/-- The first parenthesis for which there is no room stops the run. -/
theorem Frame.run_openings {input : List Char} {maxDepth : Nat} (rest : List PlacedToken) :
    ∀ (count position : Nat) (frame : Frame) (below : List Frame),
      frame.expectsOperand = true → below.length ≤ maxDepth → maxDepth < below.length + count →
      run input maxDepth (frame :: below) (openings position count ++ rest) =
        .error (.located input (position + (maxDepth - below.length)) (.tooDeep maxDepth)) := by
  intro count
  induction count with
  | zero =>
      intro position frame below _ room tooMany
      omega
  | succ count inductionHypothesis =>
      intro position frame below waiting room tooMany
      rw [openings, List.cons_append, run_cons]
      by_cases full : below.length = maxDepth
      · have stopped : advance input maxDepth (frame :: below) ⟨position, .opening⟩ =
            .error (.located input position (.tooDeep maxDepth)) := by
          simp [advance, waiting, full]
        rw [stopped, full, Nat.sub_self]
        rfl
      · rw [advance_opening position waiting (by omega)]
        have later := inductionHypothesis (position + 1) (group position frame.pending)
          ({ frame with pending := 0 } :: below) rfl (by rw [List.length_cons]; omega)
          (by rw [List.length_cons]; omega)
        have samePlace : position + 1 + (maxDepth - (below.length + 1)) =
            position + (maxDepth - below.length) := by omega
        rw [List.length_cons, samePlace] at later
        exact later

namespace Search

theorem parseCharacters_tooDeep {limits : Limits} {count : Nat} {rest : List Char}
    {tokens : List PlacedToken} (scanned : scan (List.replicate count '(' ++ rest) = .ok tokens)
    (short : (List.replicate count '(' ++ rest).length ≤ limits.maxLength)
    (deep : limits.maxDepth < count) :
    parseCharacters limits (List.replicate count '(' ++ rest) =
      .error (.located (List.replicate count '(' ++ rest) limits.maxDepth
        (.tooDeep limits.maxDepth)) := by
  have visible : (List.replicate count '(' ++ rest).all Text.isBlank = false := by
    have openingNotBlank : Text.isBlank '(' = false := by decide
    simp [openingNotBlank, Nat.ne_of_gt (Nat.zero_lt_of_lt deep)]
  rw [parseCharacters, if_neg (Nat.not_lt.mpr short), if_neg (by simp [visible]), scanned]
  rw [scan, scanFrom_openings] at scanned
  cases later : scanFrom (0 + count) rest with
  | error flaw =>
      rw [later] at scanned
      cases scanned
  | ok others =>
      rw [later] at scanned
      cases scanned
      have stopped := @Frame.run_openings (List.replicate count '(' ++ rest) limits.maxDepth others
        count 0 .root [] rfl (Nat.zero_le _) (by simpa using deep)
      rw [List.length_nil, Nat.sub_zero, Nat.zero_add] at stopped
      dsimp only
      rw [assemble_eq_run, stopped]
      rfl

end Search

/-! ## Requests -/

namespace Test

theorem notOfText_mapM_leaf :
    ∀ tests : List Test, (∀ test ∈ tests, test.Valid) → NotOfText (tests.mapM leaf) := by
  intro tests
  induction tests with
  | nil =>
      intro _
      exact notOfText_ok []
  | cons test others inductionHypothesis =>
      intro allValid
      have leafFree : NotOfText test.leaf := by
        rw [← ofTerm_eq_leaf (allValid test List.mem_cons_self)]
        exact Predicate.notOfText_ofTerm _ _ _
      have othersFree := inductionHypothesis fun other member =>
        allValid other (List.mem_cons_of_mem _ member)
      rw [List.mapM_cons]
      exact leafFree.bind fun _ => othersFree.bind fun _ => notOfText_ok _

theorem parseCharacters_tooDeep {limits : Limits} {tests : List Test} (nonempty : tests ≠ [])
    (allValid : ∀ test ∈ tests, test.Valid)
    (short : (joinBalanced (tests.map text)).length ≤ limits.maxLength)
    (deep : limits.maxDepth < Nat.clog 2 tests.length) :
    Search.parseCharacters limits (joinBalanced (tests.map text)) =
      .error (.located (joinBalanced (tests.map text)) limits.maxDepth
        (.tooDeep limits.maxDepth)) := by
  obtain ⟨phrase, spelled, spelling, _⟩ := exists_phrase tests nonempty allValid
  obtain ⟨placed, _, scanned⟩ := scan_phrase spelled
  obtain ⟨grouping, _, grouped, nesting, deepest⟩ :=
    Grouping.exists_of_joinBalanced (tests.map text) (by simpa using nonempty)
  obtain ⟨rest, divided⟩ := grouping.characters_eq_openings
  rw [List.length_map] at nesting
  rw [spelling, ← grouped, divided] at scanned
  rw [← grouped, divided] at short ⊢
  exact Search.parseCharacters_tooDeep scanned short (by omega)

end Test

namespace RequestForm

theorem search_of_terms {form : RequestForm} {parameters : List Parameter}
    {terms : List (List Char)}
    (noQuery : ∀ parameter ∈ parameters, parameter.name ≠ form.queryParameterName)
    (written : form.terms parameters = .ok terms) (nonempty : terms ≠ []) :
    form.search parameters = Search.parseCharacters form.limits (joinBalanced terms) := by
  rw [search_of_no_query noQuery, written]
  simp [bind, Except.bind, nonempty]

/-- A request is refused for its length, then for its nesting, and only then for one of its
tests. -/
theorem search_of_limits {form : RequestForm} {parameters : List Parameter}
    {terms : List (List Char)}
    (noQuery : ∀ parameter ∈ parameters, parameter.name ≠ form.queryParameterName)
    (written : form.terms parameters = .ok terms) (nonempty : terms ≠ []) :
    (form.limits.maxLength < joinedLength terms ∧
      form.search parameters = .error (.located (joinBalanced terms) form.limits.maxLength
        (.tooLong form.limits.maxLength))) ∨
    (joinedLength terms ≤ form.limits.maxLength ∧ 2 ^ form.limits.maxDepth < terms.length ∧
      form.search parameters = .error (.located (joinBalanced terms) form.limits.maxDepth
        (.tooDeep form.limits.maxDepth))) ∨
    (joinedLength terms ≤ form.limits.maxLength ∧ terms.length ≤ 2 ^ form.limits.maxDepth ∧
      NotOfText (form.search parameters)) := by
  rw [search_of_terms noQuery written nonempty, ← length_joinBalanced nonempty]
  obtain ⟨tests, allValid, rfl⟩ := exists_tests_of_terms written
  have someTests : tests ≠ [] := by simpa using nonempty
  by_cases long : form.limits.maxLength < (joinBalanced (tests.map Test.text)).length
  · exact .inl ⟨long, Search.parseCharacters_tooLong long⟩
  have short := Nat.not_lt.mp long
  by_cases deep : 2 ^ form.limits.maxDepth < tests.length
  · refine .inr (.inl ⟨short, by rwa [List.length_map], ?_⟩)
    exact Test.parseCharacters_tooDeep someTests allValid short
      ((Nat.lt_clog_iff_pow_lt (by decide)).mpr deep)
  · have shallow := Nat.not_lt.mp deep
    refine .inr (.inr ⟨short, by rwa [List.length_map], ?_⟩)
    rw [Test.parseCharacters_joinBalanced someTests allValid short
      ((Nat.clog_le_iff_le_pow (by decide)).mpr shallow)]
    exact (Test.notOfText_mapM_leaf tests allValid).map _

/-- Joining terms keeps their order and nests them as deep as the logarithm of their number, rounded
up, the first term deepest; every join adds seven characters.  So a request is refused for its
length exactly if the terms and their joins exceed it, and otherwise for its nesting exactly if it
has more terms than the depth can hold, whatever is wrong with the terms themselves. -/
theorem joining_costs_logarithmic_nesting :
    (∀ terms : List (List Char), terms ≠ [] →
      (joinBalanced terms).length = joinedLength terms ∧
      ∃ grouping : Grouping, grouping.terms = terms ∧ grouping.characters = joinBalanced terms ∧
        grouping.nesting = Nat.clog 2 terms.length ∧ grouping.firstLevel = grouping.nesting) ∧
    ∀ (form : RequestForm) (parameters : List Parameter) (terms : List (List Char)),
      (∀ parameter ∈ parameters, parameter.name ≠ form.queryParameterName) →
      form.terms parameters = .ok terms → terms ≠ [] →
      ((∃ position fragment limit,
          form.search parameters = .error (.parse position fragment (.tooLong limit))) ↔
        form.limits.maxLength < joinedLength terms) ∧
      (joinedLength terms ≤ form.limits.maxLength →
        ((∃ position fragment limit,
            form.search parameters = .error (.parse position fragment (.tooDeep limit))) ↔
          2 ^ form.limits.maxDepth < terms.length) ∧
        (2 ^ form.limits.maxDepth < terms.length →
          form.search parameters = .error (.located (joinBalanced terms) form.limits.maxDepth
            (.tooDeep form.limits.maxDepth)))) := by
  refine ⟨fun terms nonempty => ?_, fun form parameters terms noQuery written nonempty => ?_⟩
  · exact ⟨length_joinBalanced nonempty, Grouping.exists_of_joinBalanced terms nonempty⟩
  rcases search_of_limits noQuery written nonempty with
    ⟨long, refused⟩ | ⟨short, deep, refused⟩ | ⟨short, shallow, unrefused⟩
  · exact ⟨⟨fun _ => long, fun _ => ⟨_, _, _, refused⟩⟩, fun short => by omega⟩
  · refine ⟨⟨?_, fun long => by omega⟩, fun _ => ⟨⟨fun _ => deep, fun _ => ⟨_, _, _, refused⟩⟩, ?_⟩⟩
    · rintro ⟨position, fragment, limit, failed⟩
      rw [refused] at failed
      cases failed
    · intro _
      exact refused
  · refine ⟨⟨?_, fun long => by omega⟩, fun _ => ⟨⟨?_, fun deep => by omega⟩, fun deep => by omega⟩⟩
    · rintro ⟨position, fragment, limit, failed⟩
      exact absurd failed (unrefused position fragment _)
    · rintro ⟨position, fragment, limit, failed⟩
      exact absurd failed (unrefused position fragment _)

/-- Three fields, of which the second names no operator. -/
def crowdedParameters : List Parameter :=
  [⟨"a", "1"⟩, ⟨"b[zz]", "2"⟩, ⟨"page", "3"⟩, ⟨"c[nu]", ""⟩]

def crowdedTerms : List (List Char) :=
  ["a|eq:\"1\"".toList, "b|zz:\"2\"".toList, "c|nu:".toList]

/-- With room for one group the nesting is refused before the bad operator is noticed, and with room
for two it is not.  One character less of room, and the length is refused first. -/
theorem joining_costs_logarithmic_nesting_crowded :
    search { limits := ⟨35, 1⟩ } crowdedParameters =
        .error (.located (joinBalanced crowdedTerms) 1 (.tooDeep 1)) ∧
      (¬∃ position fragment limit, search { limits := ⟨35, 2⟩ } crowdedParameters =
        .error (.parse position fragment (.tooDeep limit))) ∧
      search { limits := ⟨35, 2⟩ } crowdedParameters = .error (.unknownOperator "zz") ∧
      ∃ position fragment limit, search { limits := ⟨34, 1⟩ } crowdedParameters =
        .error (.parse position fragment (.tooLong limit)) := by
  have noQuery : ∀ parameter ∈ crowdedParameters,
      parameter.name ≠ ({} : RequestForm).queryParameterName := by
    decide
  have written : ({} : RequestForm).terms crowdedParameters = .ok crowdedTerms := by
    decide +kernel
  have someTerms : crowdedTerms ≠ [] := by decide
  have refused := joining_costs_logarithmic_nesting.2
  have narrow :=
    refused { limits := ⟨35, 1⟩ } crowdedParameters crowdedTerms noQuery written someTerms
  have deeper :=
    refused { limits := ⟨35, 2⟩ } crowdedParameters crowdedTerms noQuery written someTerms
  have shorter :=
    refused { limits := ⟨34, 1⟩ } crowdedParameters crowdedTerms noQuery written someTerms
  refine ⟨(narrow.2 (by decide)).2 (by decide), ?_, by decide +kernel, shorter.1.mpr (by decide)⟩
  intro tooDeep
  exact absurd ((deeper.2 (by decide)).1.mp tooDeep) (by decide)

end RequestForm

end SearchQuery
