import SearchQuery.Proofs.RoundTrip

/-!
# Canonical text under the limits that admitted a query

What a query is read into is well-formed and keeps the depth limit, so its canonical text is read
back under the same limits exactly if that text keeps the length limit.  It need not: the canonical
text has a blank on either side of a joining word, and a query may do without some of these blanks.
-/

set_option autoImplicit false

namespace SearchQuery

/-! ## Queries with fewer blanks -/

namespace Predicate

/-- A group without the blank between the joining word and the negation after it. -/
def tightCharacters (left : Predicate) (join : Join) (inner : Predicate) : List Char :=
  '(' :: left.characters ++ ' ' :: join.keyword.toList ++ '!' :: inner.characters ++ [')']

def tightText (left : Predicate) (join : Join) (inner : Predicate) : String :=
  String.ofList (tightCharacters left join inner)

theorem length_text_joined_not (left : Predicate) (join : Join) (inner : Predicate) :
    (left.joined join inner.not).text.length = (tightText left join inner).length + 1 := by
  rw [text, tightText, String.length_ofList, String.length_ofList, tightCharacters]
  cases join with
  | and =>
      have spaced : " AND ".toList.length = "AND".toList.length + 2 := rfl
      simp only [joined, characters, Join.keyword, List.length_append, List.length_cons, spaced]
      omega
  | or =>
      have spaced : " OR ".toList.length = "OR".toList.length + 2 := rfl
      simp only [joined, characters, Join.keyword, List.length_append, List.length_cons, spaced]
      omega

theorem scan_tightCharacters {left inner : Predicate} (join : Join) (leftWell : left.WellFormed)
    (innerWell : inner.WellFormed) :
    ∃ placed : List PlacedToken,
      placed.map PlacedToken.token = (Phrase.group 0 left.phrase join inner.phrase.negate).tokens ∧
        scan (tightCharacters left join inner) = .ok placed := by
  let joinStart := 1 + left.phrase.characters.length + 1
  let notStart := joinStart + join.keyword.toList.length
  let closing := notStart + 1 + inner.phrase.characters.length
  obtain ⟨leftPlaced, leftSpelled, leftScanned⟩ :=
    scanFrom_phrase left.phrase 1 (phrase_spelled left leftWell)
  obtain ⟨innerPlaced, innerSpelled, innerScanned⟩ :=
    scanFrom_phrase inner.phrase (notStart + 1) (phrase_spelled inner innerWell)
  refine ⟨⟨0, .opening⟩ :: leftPlaced ++ ⟨joinStart, .join join⟩ :: ⟨notStart, .not⟩ ::
    innerPlaced ++ [⟨closing, .closing⟩], ?_, ?_⟩
  · simp only [List.map_append, List.map_cons, List.map_nil, leftSpelled, innerSpelled,
      Phrase.tokens, Phrase.tokens_negate, List.replicate_zero, List.nil_append]
  · have divided : tightCharacters left join inner =
        '(' :: (left.phrase.characters ++ ' ' :: (join.keyword.toList ++
          '!' :: (inner.phrase.characters ++ ')' :: []))) := by
      simp only [tightCharacters, characters_phrase, List.append_assoc, List.cons_append]
    have finished : scanFrom (closing + 1) [] = .ok [] := by
      rw [scanFrom.eq_def]
    rw [scan, divided, scanFrom_opening, leftScanned _ rfl, scanFrom_blank _ _ rfl,
      scanFrom_join_before _ _ _ (by decide) (by decide), scanFrom_not, innerScanned _ rfl,
      scanFrom_closing, finished]
    simp [Except.map, joinStart, notStart, closing]

theorem parse_tightText {limits : Limits} {left inner : Predicate} (join : Join)
    (leftWell : left.WellFormed) (innerWell : inner.WellFormed)
    (short : (tightText left join inner).length ≤ limits.maxLength)
    (shallow : (left.joined join inner.not).depth ≤ limits.maxDepth) :
    Search.parse limits (tightText left join inner) = .ok (.only (left.joined join inner.not)) := by
  obtain ⟨placed, tokensSpelled, scanned⟩ := scan_tightCharacters join leftWell innerWell
  have visible : (tightCharacters left join inner).all Text.isBlank = false := by
    simp [tightCharacters, show Text.isBlank '(' = false by decide]
  have nested :
      (Phrase.group 0 left.phrase join inner.phrase.negate).nesting ≤ limits.maxDepth := by
    rw [depth_joined] at shallow
    rw [Phrase.nesting, Phrase.nesting_negate, nesting_phrase, nesting_phrase]
    exact shallow
  rw [tightText, String.length_ofList] at short
  rw [Search.parse, tightText, String.toList_ofList,
    parseCharacters_of_scan scanned tokensSpelled visible short nested, Phrase.predicate,
    predicate_phrase left leftWell, Phrase.predicate_negate, predicate_phrase inner innerWell]
  rfl

end Predicate

namespace Search

/-! ## Queries at the limit -/

/-- A search for a text of the given number of letters. -/
def longSearch (count : Nat) : Search :=
  .only (.or (.bare "a" .isNull)
    (.not (.single "b" .equal (String.ofList (List.replicate count 'x')))))

/-- A query for this search, one blank shorter than its canonical text. -/
def tightQuery (count : Nat) : String :=
  Predicate.tightText (.bare "a" .isNull) .or
    (.single "b" .equal (String.ofList (List.replicate count 'x')))

theorem length_tightQuery (count : Nat) : (tightQuery count).length = count + 18 := by
  have plain : ∀ c ∈ List.replicate count 'x', needsEscape c = false := by
    intro c member
    rw [List.eq_of_mem_replicate member]
    rfl
  have leftHead : (Predicate.head "a" .isNull).length = 5 := rfl
  have rightHead : (Predicate.head "b" .equal).length = 5 := rfl
  have keyword : Join.or.keyword.toList.length = 2 := rfl
  rw [tightQuery, Predicate.tightText, String.length_ofList]
  simp only [Predicate.tightCharacters, Predicate.characters, leftHead, rightHead, keyword,
    String.toList_ofList, escaped_eq_self plain, List.length_append, List.length_cons,
    List.length_nil, List.length_replicate]
  omega

theorem length_text_longSearch (count : Nat) : (longSearch count).text.length = count + 19 := by
  have oneMore : (longSearch count).text.length = (tightQuery count).length + 1 :=
    Predicate.length_text_joined_not (.bare "a" .isNull) .or _
  rw [oneMore, length_tightQuery]

theorem parse_tightQuery {limits : Limits} {count : Nat} (positive : 0 < count)
    (short : count + 18 ≤ limits.maxLength) (room : 0 < limits.maxDepth) :
    parse limits (tightQuery count) = .ok (longSearch count) := by
  have leftWell : (Predicate.bare "a" .isNull).WellFormed := by decide
  have rightWell :
      (Predicate.single "b" .equal (String.ofList (List.replicate count 'x'))).WellFormed := by
    refine ⟨by decide, rfl, ?_⟩
    rw [ne_eq, String.ofList_eq_empty_iff, List.replicate_eq_nil_iff]
    exact Nat.ne_of_gt positive
  rw [← length_tightQuery] at short
  exact Predicate.parse_tightText .or leftWell rightWell short room

/-! ## Reading canonical text back -/

theorem parseCharacters_tooLong {limits : Limits} {text : List Char}
    (long : limits.maxLength < text.length) :
    parseCharacters limits text =
      .error (.located text limits.maxLength (.tooLong limits.maxLength)) := by
  rw [parseCharacters, if_pos long]

theorem parse_tooLong {limits : Limits} {text : String} (long : limits.maxLength < text.length) :
    parse limits text =
      .error (.located text.toList limits.maxLength (.tooLong limits.maxLength)) :=
  parseCharacters_tooLong (by rwa [String.length_toList])

theorem parse_text_of_parse {limits : Limits} {text : String} {search : Search}
    (accepted : parse limits text = .ok search) (short : search.text.length ≤ limits.maxLength) :
    parse limits search.text = .ok search := by
  cases search with
  | all => simp [parse, parseCharacters, Search.text]
  | only predicate =>
      obtain ⟨wellFormed, _, shallow⟩ := parseCharacters_wellFormed accepted
      exact Predicate.parse_text wellFormed short shallow

/-- The canonical text of what a text is read into. -/
def canonicalText (limits : Limits) (text : String) : Except SearchError String :=
  (parse limits text).map Search.text

/-- The search that a text is read into is read back from its canonical text under the same limits
if that text keeps the length limit, and otherwise the length is the error.  So where canonical text
keeps the limit, taking it twice is taking it once. -/
theorem parse_canonical_text {limits : Limits} {text : String} {search : Search}
    (accepted : parse limits text = .ok search) :
    (parse limits search.text = .ok search ↔ search.text.length ≤ limits.maxLength) ∧
    (limits.maxLength < search.text.length →
      parse limits search.text =
        .error (.located search.text.toList limits.maxLength (.tooLong limits.maxLength))) ∧
    (search.text.length ≤ limits.maxLength →
      canonicalText limits search.text = canonicalText limits text) := by
  refine ⟨⟨?_, parse_text_of_parse accepted⟩, parse_tooLong, ?_⟩
  · intro readBack
    apply Nat.not_lt.mp
    intro long
    rw [parse_tooLong long] at readBack
    cases readBack
  · intro short
    rw [canonicalText, canonicalText, parse_text_of_parse accepted short, accepted]

/-- One character below the usual limit there is room for the blank. -/
theorem parse_canonical_text_with_room :
    parse {} (tightQuery 4077) = .ok (longSearch 4077) ∧
      parse {} (longSearch 4077).text = .ok (longSearch 4077) ∧
      canonicalText {} (longSearch 4077).text = canonicalText {} (tightQuery 4077) := by
  have accepted : parse {} (tightQuery 4077) = .ok (longSearch 4077) :=
    parse_tightQuery (by decide) (by decide) (by decide)
  have short : (longSearch 4077).text.length ≤ 4096 :=
    Nat.le_of_eq (length_text_longSearch 4077)
  obtain ⟨readBack, _, idempotent⟩ := parse_canonical_text accepted
  exact ⟨accepted, readBack.mpr short, idempotent short⟩

/-- At the usual limit there is none: the query is read, and the canonical text of its search is
refused. -/
theorem parse_refuses_canonical_text :
    parse {} (tightQuery 4078) = .ok (longSearch 4078) ∧
      parse {} (longSearch 4078).text ≠ .ok (longSearch 4078) := by
  refine ⟨parse_tightQuery (by decide) (by decide) (by decide), ?_⟩
  have long : 4096 < (longSearch 4078).text.length :=
    Nat.lt_of_lt_of_eq (by decide) (length_text_longSearch 4078).symm
  rw [parse_tooLong long]
  simp

end Search

end SearchQuery
