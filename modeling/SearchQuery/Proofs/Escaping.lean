import SearchQuery.Proofs.Spelling

/-!
# Escaping

What a value or a list of values becomes between quotes, and what is read back from there.  An
escape mark in front of every mark makes the text fit between quotes, and reading drops exactly
the escape marks that writing added.
-/

set_option autoImplicit false

namespace SearchQuery

theorem escaped_hidden {hidden : Char → Bool} {c : Char} (rest : List Char)
    (isHidden : hidden c = true) :
    escaped hidden (c :: rest) = escapeMark :: c :: escaped hidden rest := by
  rw [escaped, if_pos isHidden]

theorem escaped_shown {hidden : Char → Bool} {c : Char} (rest : List Char)
    (isShown : hidden c = false) :
    escaped hidden (c :: rest) = c :: escaped hidden rest := by
  rw [escaped, if_neg (by simp [isShown])]

theorem escaped_cons (hidden : Char → Bool) (c : Char) (rest : List Char) :
    escaped hidden (c :: rest) = escaped hidden [c] ++ escaped hidden rest := by
  cases isHidden : hidden c with
  | true => rw [escaped_hidden rest isHidden, escaped_hidden [] isHidden]; rfl
  | false => rw [escaped_shown rest isHidden, escaped_shown [] isHidden]; rfl

theorem escaped_eq_self {hidden : Char → Bool} :
    ∀ {value : List Char}, (∀ c ∈ value, hidden c = false) → escaped hidden value = value := by
  intro value
  induction value with
  | nil =>
      intro _
      rfl
  | cons c rest inductionHypothesis =>
      intro allShown
      have later := inductionHypothesis fun other member =>
        allShown other (List.mem_cons_of_mem c member)
      rw [escaped_shown rest (allShown c List.mem_cons_self), later]

/-! ## Single values -/

theorem isLiteralContent_escape (c : Char) (rest : List Char) :
    isLiteralContent (escapeMark :: c :: rest) = isLiteralContent rest := by
  have differ : escapeMark ≠ quoteMark := by decide
  rw [isLiteralContent.eq_def]
  simp only [differ, if_false, if_true]

theorem isLiteralContent_plain {c : Char} (rest : List Char) (notQuote : c ≠ quoteMark)
    (notEscape : c ≠ escapeMark) :
    isLiteralContent (c :: rest) = isLiteralContent rest := by
  rw [isLiteralContent.eq_def]
  simp only [notQuote, notEscape, if_false]

/-- What is escaped at least where values need it may stand before any literal text. -/
theorem isLiteralContent_escaped_append {hidden : Char → Bool}
    (covers : ∀ c, needsEscape c = true → hidden c = true) :
    ∀ (value rest : List Char),
      isLiteralContent (escaped hidden value ++ rest) = isLiteralContent rest := by
  intro value
  induction value with
  | nil => intro rest; rfl
  | cons c others inductionHypothesis =>
      intro rest
      cases isHidden : hidden c with
      | true =>
          rw [escaped_hidden others isHidden, List.cons_append, List.cons_append,
            isLiteralContent_escape, inductionHypothesis]
      | false =>
          have noMark : needsEscape c = false := by
            cases needed : needsEscape c with
            | false => rfl
            | true => rw [covers c needed] at isHidden; cases isHidden
          simp only [needsEscape, Bool.or_eq_false_iff, beq_eq_false_iff_ne] at noMark
          rw [escaped_shown others isHidden, List.cons_append,
            isLiteralContent_plain _ noMark.1 noMark.2, inductionHypothesis]

theorem isLiteralContent_escaped (value : List Char) :
    isLiteralContent (escaped needsEscape value) = true := by
  have whole : isLiteralContent (escaped needsEscape value ++ []) = true :=
    isLiteralContent_escaped_append (fun _ needed => needed) value []
  rw [List.append_nil] at whole
  exact whole

theorem unescaped_escape (c : Char) (rest : List Char) :
    unescaped (escapeMark :: c :: rest) = c :: unescaped rest := by
  rw [unescaped.eq_def]
  simp only [if_true]

theorem unescaped_plain {c : Char} (rest : List Char) (notEscape : c ≠ escapeMark) :
    unescaped (c :: rest) = c :: unescaped rest := by
  rw [unescaped.eq_def]
  simp only [notEscape, if_false]

theorem unescaped_escaped (value : List Char) : unescaped (escaped needsEscape value) = value := by
  induction value with
  | nil => rfl
  | cons c rest inductionHypothesis =>
      cases isHidden : needsEscape c with
      | true => rw [escaped_hidden rest isHidden, unescaped_escape, inductionHypothesis]
      | false =>
          have notEscape : c ≠ escapeMark := by
            rintro rfl
            exact absurd isHidden (by decide)
          rw [escaped_shown rest isHidden, unescaped_plain _ notEscape, inductionHypothesis]

/-! ## Lists of values -/

theorem splitList_escape (c : Char) (rest : List Char) :
    splitList (escapeMark :: c :: rest) = consFirst c (splitList rest) := by
  rw [splitList.eq_def]
  simp only [if_true]

theorem splitList_separator (rest : List Char) :
    splitList (separatorMark :: rest) = [] :: splitList rest := by
  have differ : separatorMark ≠ escapeMark := by decide
  rw [splitList.eq_def]
  simp only [differ, if_false, if_true]

theorem splitList_plain {c : Char} (rest : List Char) (notEscape : c ≠ escapeMark)
    (notSeparator : c ≠ separatorMark) :
    splitList (c :: rest) = consFirst c (splitList rest) := by
  rw [splitList.eq_def]
  simp only [notEscape, notSeparator, if_false]

/-- An element that hides its separators goes, whole, in front of the element that follows. -/
theorem splitList_escaped_append :
    ∀ (value rest first : List Char) (others : List (List Char)),
      splitList rest = first :: others →
      splitList (escaped needsEscapeInList value ++ rest) = (value ++ first) :: others := by
  intro value
  induction value with
  | nil => intro rest first others divided; exact divided
  | cons c tail inductionHypothesis =>
      intro rest first others divided
      have later := inductionHypothesis rest first others divided
      cases isHidden : needsEscapeInList c with
      | true =>
          rw [escaped_hidden tail isHidden, List.cons_append, List.cons_append, splitList_escape,
            later]
          rfl
      | false =>
          have noMark : (c ≠ quoteMark ∧ c ≠ escapeMark) ∧ c ≠ separatorMark := by
            simpa [needsEscapeInList, needsEscape] using isHidden
          rw [escaped_shown tail isHidden, List.cons_append,
            splitList_plain _ noMark.1.2 noMark.2, later]
          rfl

theorem splitList_escapedList :
    ∀ values : List String, values ≠ [] →
      splitList (escapedList values) = values.map String.toList := by
  intro values
  induction values with
  | nil => intro nonempty; exact absurd rfl nonempty
  | cons value rest inductionHypothesis =>
      intro _
      cases rest with
      | nil =>
          have alone := splitList_escaped_append value.toList [] [] [] rfl
          simpa [escapedList] using alone
      | cons next others =>
          have later := inductionHypothesis (by simp)
          have front := splitList_escaped_append value.toList
            (separatorMark :: escapedList (next :: others)) []
            (splitList (escapedList (next :: others))) (splitList_separator _)
          rw [later] at front
          simpa [escapedList] using front

theorem escapedList_cons_first (c : Char) (first : List Char) (others : List String) :
    escapedList (String.ofList (c :: first) :: others) =
      escaped needsEscapeInList [c] ++ escapedList (String.ofList first :: others) := by
  cases others with
  | nil => simp only [escapedList, String.toList_ofList, escaped_cons _ c first]
  | cons next rest =>
      simp only [escapedList, String.toList_ofList, escaped_cons _ c first, List.append_assoc]

theorem isLiteralContent_escapedList (values : List String) :
    isLiteralContent (escapedList values) = true := by
  have covers : ∀ c, needsEscape c = true → needsEscapeInList c = true := by
    intro c needed
    simp [needsEscapeInList, needed]
  induction values with
  | nil => rfl
  | cons value rest inductionHypothesis =>
      cases rest with
      | nil =>
          have alone := isLiteralContent_escaped_append covers value.toList []
          rw [List.append_nil] at alone
          exact alone
      | cons next others =>
          rw [escapedList, isLiteralContent_escaped_append covers,
            isLiteralContent_plain _ (by decide) (by decide), inductionHypothesis]
          simp

theorem splitList_escaped (value : List Char) :
    splitList (escaped needsEscape value) = value.splitOn separatorMark := by
  induction value with
  | nil => rfl
  | cons c rest inductionHypothesis =>
      rw [List.splitOn_cons_eq_if_modifyHead, ← inductionHypothesis]
      obtain ⟨first, others, divided⟩ : ∃ first others,
          splitList (escaped needsEscape rest) = first :: others := by
        rw [inductionHypothesis]
        exact List.exists_cons_of_ne_nil (List.splitOn_ne_nil _ _)
      cases isHidden : needsEscape c with
      | true =>
          have notSeparator : c ≠ separatorMark := by
            rintro rfl
            exact absurd isHidden (by decide)
          rw [escaped_hidden rest isHidden, splitList_escape, divided]
          simp [notSeparator, consFirst]
      | false =>
          have notEscape : c ≠ escapeMark := by
            rintro rfl
            exact absurd isHidden (by decide)
          rw [escaped_shown rest isHidden]
          by_cases isSeparator : c = separatorMark
          · rw [isSeparator, splitList_separator]
            simp
          · rw [splitList_plain _ notEscape isSeparator, divided]
            simp [isSeparator, consFirst]

end SearchQuery
