import SearchQuery.Document.Match
import SearchQuery.Proofs.Sql.Patterns

/-!
# Lowercase text in its surroundings

The lowercase form of a character depends on the characters around it only for the capital sigma,
which has a form of its own at the end of a word.  So a text that occurs literally in another also
occurs in its lowercase form if each capital sigma ends a word in both or in neither of the two.
At the start and at the end of the other text this condition is exact.
-/

set_option autoImplicit false

namespace SearchQuery

namespace Text

/-! ## Forms in their surroundings -/

/-- A capital sigma between these two texts ends a word. -/
def endsWord (before after : List Char) : Bool :=
  startsCased before.reverse && !startsCased after

def formBetween (before : List Char) (c : Char) (after : List Char) : List Char :=
  if c = 'Σ' then [if endsWord before after then 'ς' else 'σ'] else lowercaseCharacter c

/-- The lowercase form of the middle one of three texts, all of which belong together. -/
def lowercaseBetween (before : List Char) : List Char → List Char → List Char
  | [], _ => []
  | c :: rest, after =>
      formBetween before c (rest ++ after) ++ lowercaseBetween (before ++ [c]) rest after

theorem startsCased_reverse_concat (before : List Char) (c : Char) :
    startsCased (before ++ [c]).reverse =
      if isCaseIgnorable c then startsCased before.reverse else isCased c := by
  rw [List.reverse_concat, startsCased]
  cases ignorable : isCaseIgnorable c with
  | true =>
      rw [List.dropWhile_cons_of_pos ignorable]
      rfl
  | false =>
      rw [List.dropWhile_cons_of_neg (by simp [ignorable])]
      rfl

/-- The flag that is carried along tells all that matters of the text before. -/
theorem lowercaseAfter_eq_lowercaseBetween :
    ∀ text before : List Char,
      lowercaseAfter (startsCased before.reverse) text = lowercaseBetween before text [] := by
  intro text
  induction text with
  | nil =>
      intro before
      rfl
  | cons c rest inductionHypothesis =>
      intro before
      have later := inductionHypothesis (before ++ [c])
      rw [startsCased_reverse_concat] at later
      rw [lowercaseAfter, lowercaseBetween, later, List.append_nil]
      rfl

theorem lowercaseBetween_append (rest after : List Char) :
    ∀ part before : List Char,
      lowercaseBetween before (part ++ rest) after =
        lowercaseBetween before part (rest ++ after) ++
          lowercaseBetween (before ++ part) rest after := by
  intro part
  induction part with
  | nil =>
      intro before
      rw [List.append_nil]
      rfl
  | cons c others inductionHypothesis =>
      intro before
      rw [List.cons_append, lowercaseBetween, lowercaseBetween, inductionHypothesis,
        List.append_assoc others, List.append_assoc before, List.append_assoc]
      rfl

theorem toList_lowercase (text : String) :
    (lowercase text).toList = lowercaseBetween [] text.toList [] := by
  rw [lowercase, String.toList_ofList]
  exact lowercaseAfter_eq_lowercaseBetween text.toList []

/-! ## The same text in two surroundings -/

theorem formBetween_eq_iff (before after otherBefore otherAfter : List Char) (c : Char) :
    formBetween before c after = formBetween otherBefore c otherAfter ↔
      (c = 'Σ' → endsWord before after = endsWord otherBefore otherAfter) := by
  by_cases isSigma : c = 'Σ'
  · rw [formBetween, formBetween, if_pos isSigma, if_pos isSigma]
    cases endsWord before after <;> cases endsWord otherBefore otherAfter <;> simp [isSigma]
  · simp [formBetween, isSigma]

theorem length_formBetween (before after otherBefore otherAfter : List Char) (c : Char) :
    (formBetween before c after).length = (formBetween otherBefore c otherAfter).length := by
  by_cases isSigma : c = 'Σ'
  · simp [formBetween, isSigma]
  · simp [formBetween, isSigma]

theorem length_lowercaseBetween (after otherAfter : List Char) :
    ∀ part before otherBefore : List Char,
      (lowercaseBetween before part after).length =
        (lowercaseBetween otherBefore part otherAfter).length := by
  intro part
  induction part with
  | nil =>
      intro before otherBefore
      rfl
  | cons c rest inductionHypothesis =>
      intro before otherBefore
      rw [lowercaseBetween, lowercaseBetween, List.length_append, List.length_append,
        inductionHypothesis (before ++ [c]) (otherBefore ++ [c]),
        length_formBetween before (rest ++ after) otherBefore (rest ++ otherAfter)]

/-- A text has the same lowercase form in two surroundings exactly if each of its capital sigmas ends
a word in both or in neither. -/
theorem lowercaseBetween_eq_iff (after otherAfter : List Char) :
    ∀ part before otherBefore : List Char,
      lowercaseBetween before part after = lowercaseBetween otherBefore part otherAfter ↔
        ∀ front rest, part = front ++ 'Σ' :: rest →
          endsWord (before ++ front) (rest ++ after) =
            endsWord (otherBefore ++ front) (rest ++ otherAfter) := by
  intro part
  induction part with
  | nil =>
      intro before otherBefore
      simp [lowercaseBetween]
  | cons c others inductionHypothesis =>
      intro before otherBefore
      have firstLength := length_formBetween before (others ++ after) otherBefore
        (others ++ otherAfter) c
      rw [lowercaseBetween, lowercaseBetween]
      constructor
      · intro same front rest divided
        obtain ⟨firstSame, laterSame⟩ := List.append_inj same firstLength
        cases front with
        | nil =>
            cases divided
            rw [List.append_nil, List.append_nil]
            exact (formBetween_eq_iff _ _ _ _ _).mp firstSame rfl
        | cons d front =>
            cases divided
            have later := (inductionHypothesis _ _).mp laterSame front rest rfl
            rwa [List.append_assoc, List.append_assoc] at later
      · intro sameEnds
        congr 1
        · rw [formBetween_eq_iff]
          rintro rfl
          have first := sameEnds [] others rfl
          rwa [List.append_nil, List.append_nil] at first
        · rw [inductionHypothesis]
          rintro front rest rfl
          rw [List.append_assoc, List.append_assoc]
          exact sameEnds (c :: front) rest rfl

/-- Each capital sigma of the middle text ends a word there exactly if it does so in the text
alone. -/
def KeepsSigmas (before part after : List Char) : Prop :=
  ∀ front rest, part = front ++ 'Σ' :: rest →
    endsWord (before ++ front) (rest ++ after) = endsWord front rest

theorem keepsSigmas_of_not_mem {part : List Char} (noSigma : 'Σ' ∉ part)
    (before after : List Char) : KeepsSigmas before part after := by
  rintro front rest rfl
  simp at noSigma

theorem lowercaseBetween_eq_alone_iff (before part after : List Char) :
    lowercaseBetween before part after = lowercaseBetween [] part [] ↔
      KeepsSigmas before part after := by
  rw [lowercaseBetween_eq_iff, KeepsSigmas]
  simp only [List.nil_append, List.append_nil]

end Text

namespace Document

/-! ## Literal occurrences -/

theorem like_string_iff (anchor : Anchor) (text : String) (pattern : Value) :
    like anchor (.string text) pattern = true ↔
      anchor.Locates (Text.lowercaseBetween [] pattern.plainText.toList [])
        (Text.lowercaseBetween [] text.toList []) := by
  rw [like, text?, ← Text.toList_lowercase, ← Text.toList_lowercase]
  exact anchor.occurs_iff_locates _ _

section

variable {text : String} {pattern : Value} {before after : List Char}

theorem like_contains_of_keepsSigmas
    (occurs : text.toList = before ++ pattern.plainText.toList ++ after)
    (keeps : Text.KeepsSigmas before pattern.plainText.toList after) :
    like .contains (.string text) pattern = true := by
  rw [like_string_iff, occurs, List.append_assoc, Text.lowercaseBetween_append,
    Text.lowercaseBetween_append, List.append_nil, List.append_nil, List.nil_append,
    (Text.lowercaseBetween_eq_alone_iff _ _ _).mpr keeps]
  exact ⟨_, _, List.append_assoc _ _ _⟩

theorem like_start_iff (begins : text.toList = pattern.plainText.toList ++ after) :
    like .start (.string text) pattern = true ↔
      Text.KeepsSigmas [] pattern.plainText.toList after := by
  rw [like_string_iff, begins, Text.lowercaseBetween_append, List.append_nil,
    ← Text.lowercaseBetween_eq_alone_iff]
  constructor
  · rintro ⟨rest, divided⟩
    exact (List.append_inj divided (Text.length_lowercaseBetween _ _ _ _ _)).1.symm
  · intro same
    rw [same]
    exact List.prefix_append _ _

theorem like_ending_iff (ends : text.toList = before ++ pattern.plainText.toList) :
    like .ending (.string text) pattern = true ↔
      Text.KeepsSigmas before pattern.plainText.toList [] := by
  rw [like_string_iff, ends, Text.lowercaseBetween_append, List.append_nil,
    List.nil_append, ← Text.lowercaseBetween_eq_alone_iff]
  constructor
  · rintro ⟨front, divided⟩
    exact (List.append_inj_right' divided (Text.length_lowercaseBetween _ _ _ _ _)).symm
  · intro same
    rw [same]
    exact List.suffix_append _ _

/-- A pattern that occurs literally in a text is found there if each of its capital sigmas ends a word
in the pattern exactly if it does in the text, which holds of all patterns without capital sigmas.
At the start and at the end of the text the pattern is found only then. -/
theorem literal_occurrence_matches_iff
    (occurs : text.toList = before ++ pattern.plainText.toList ++ after) :
    ('Σ' ∉ pattern.plainText.toList →
      Text.KeepsSigmas before pattern.plainText.toList after) ∧
    (Text.KeepsSigmas before pattern.plainText.toList after →
      satisfies (.string text) .like pattern = true ∧
        satisfies (.string text) .notLike pattern = false) ∧
    (before = [] → (satisfies (.string text) .startsWith pattern = true ↔
      Text.KeepsSigmas before pattern.plainText.toList after)) ∧
    (after = [] → (satisfies (.string text) .endsWith pattern = true ↔
      Text.KeepsSigmas before pattern.plainText.toList after)) := by
  refine ⟨fun noSigma => Text.keepsSigmas_of_not_mem noSigma before after, ?_, ?_, ?_⟩
  · intro keeps
    have found := like_contains_of_keepsSigmas occurs keeps
    exact ⟨found, by rw [satisfies, found, text?]; rfl⟩
  · rintro rfl
    exact like_start_iff occurs
  · rintro rfl
    rw [List.append_nil] at occurs
    exact like_ending_iff occurs

end

/-- The sigma of the pattern ends a word in the text as well, since a blank follows it. -/
theorem literal_occurrence_matches_iff_street :
    Text.KeepsSigmas [] "ΟΔΟΣ".toList " ΑΒ".toList ∧
      satisfies (.string "ΟΔΟΣ ΑΒ") .like (.string "ΟΔΟΣ") = true ∧
      satisfies (.string "ΟΔΟΣ ΑΒ") .notLike (.string "ΟΔΟΣ") = false ∧
      satisfies (.string "ΟΔΟΣ ΑΒ") .startsWith (.string "ΟΔΟΣ") = true := by
  have keeps : Text.KeepsSigmas [] "ΟΔΟΣ".toList " ΑΒ".toList := by
    rw [← Text.lowercaseBetween_eq_alone_iff]
    decide +kernel
  have occurs : "ΟΔΟΣ ΑΒ".toList =
      [] ++ (Value.string "ΟΔΟΣ").plainText.toList ++ " ΑΒ".toList := by
    decide
  obtain ⟨_, found, begins, _⟩ := literal_occurrence_matches_iff occurs
  exact ⟨keeps, (found keeps).1, (found keeps).2, (begins rfl).mpr keeps⟩

/-- A pattern is missed in a text that begins with it, and another one in a text that ends with it:
the first sigma ends a word in the pattern only, the second in the text only. -/
theorem literal_occurrence_missed :
    "ΟΔΟΣΑ".toList = [] ++ (Value.string "ΟΔΟΣ").plainText.toList ++ ['Α'] ∧
      satisfies (.string "ΟΔΟΣΑ") .like (.string "ΟΔΟΣ") = false ∧
      satisfies (.string "ΟΔΟΣΑ") .notLike (.string "ΟΔΟΣ") = true ∧
      satisfies (.string "ΟΔΟΣΑ") .startsWith (.string "ΟΔΟΣ") = false ∧
      "ΑΣ".toList = ['Α'] ++ (Value.string "Σ").plainText.toList ++ [] ∧
      satisfies (.string "ΑΣ") .endsWith (.string "Σ") = false := by
  decide +kernel

end Document

end SearchQuery
