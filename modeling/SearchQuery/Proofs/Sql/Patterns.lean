import SearchQuery.Proofs.Sql.Agreement

/-!
# Patterns stand for the text of a value

The pattern that is bound for a value matches exactly the texts in which the lowercase text of the
value occurs, at the place that the comparison asks for.  No character of the value acts as a
wildcard, and its last backslash does not take the wildcard behind it literally.
-/

set_option autoImplicit false

namespace SearchQuery

/-- One text stands inside, at the start or at the end of the other. -/
def Anchor.Locates (part text : List Char) : Anchor → Prop
  | .contains => part <:+: text
  | .start => part <+: text
  | .ending => part <:+ text

theorem Anchor.occurs_iff_locates (anchor : Anchor) (part text : List Char) :
    anchor.occurs part text = true ↔ anchor.Locates part text := by
  cases anchor with
  | contains =>
      rw [Anchor.occurs, Sql.occursIn_iff]
      constructor
      · rintro ⟨front, rest, rfl⟩
        exact ⟨front, rest, List.append_assoc front part rest⟩
      · rintro ⟨front, rest, rfl⟩
        exact ⟨front, rest, List.append_assoc front part rest⟩
  | start => exact List.isPrefixOf_iff_prefix
  | ending => exact List.isSuffixOf_iff_suffix

namespace Sql

/-! ## Escapes that hide nothing -/

/-- The pattern ends in a backslash with no character after it, where the character after a
backslash counts as hidden. -/
def endsInEscape : List Char → Bool
  | [] => false
  | c :: rest =>
      if c = '\\' then
        match rest with
        | [] => true
        | _ :: others => endsInEscape others
      else
        endsInEscape rest

theorem endsInEscape_plain {c : Char} (rest : List Char) (notEscape : c ≠ '\\') :
    endsInEscape (c :: rest) = endsInEscape rest := by
  rw [endsInEscape.eq_def]
  simp only [notEscape, if_false]

theorem endsInEscape_hidden (c : Char) (rest : List Char) :
    endsInEscape ('\\' :: c :: rest) = endsInEscape rest := by
  rw [endsInEscape.eq_def]
  simp only [if_true]

theorem endsInEscape_escapedPattern (part tail : List Char) :
    endsInEscape (escapedPattern part ++ tail) = endsInEscape tail := by
  induction part with
  | nil => rfl
  | cons c rest inductionHypothesis =>
      by_cases special : (c == '\\' || c == '%' || c == '_') = true
      · rw [escapedPattern, if_pos special, List.cons_append, List.cons_append,
          endsInEscape_hidden, inductionHypothesis]
      · have notEscape : c ≠ '\\' := by
          rintro rfl
          exact special rfl
        rw [escapedPattern, if_neg special, List.cons_append, endsInEscape_plain _ notEscape,
          inductionHypothesis]

theorem endsInEscape_pattern (anchor : Anchor) (part : List Char) :
    endsInEscape (anchor.pattern part) = false := by
  have wildcardPlain : '%' ≠ '\\' := by decide
  have alone : endsInEscape (escapedPattern part ++ []) = false :=
    endsInEscape_escapedPattern part []
  have wildcardLast : endsInEscape (escapedPattern part ++ ['%']) = false :=
    endsInEscape_escapedPattern part ['%']
  cases anchor with
  | contains =>
      rw [Anchor.pattern, List.cons_append, endsInEscape_plain _ wildcardPlain]
      exact wildcardLast
  | start => exact wildcardLast
  | ending =>
      rw [List.append_nil] at alone
      rw [Anchor.pattern, endsInEscape_plain _ wildcardPlain]
      exact alone

/-! ## The bound pattern -/

/-- A comparison by pattern binds one text.  It matches exactly where the lowercase text of the value
stands as the comparison asks, whatever the value holds, and it ends in no escape of its own. -/
theorem bound_pattern_matches_literally {kind : Comparison} {anchor : Anchor} {negated : Bool}
    (expressed : kind.expression = .pattern anchor negated) (name : String) (value : Value)
    (used : Nat) :
    ∃ bound : String,
      (Filter.comparison name kind value).toCondition used =
        .ok ⟨.like name negated (placeholderAfter used 1), [.string bound]⟩ ∧
      (∀ text : List Char, likeMatch bound.toList text = true ↔
        anchor.Locates (Text.lowercase value.plainText).toList text) ∧
      endsInEscape bound.toList = false := by
  let part := (Text.lowercase value.plainText).toList
  refine ⟨String.ofList (anchor.pattern part), ?_, ?_, ?_⟩
  · rw [Filter.toCondition_eq_ok _ used rfl]
    cases kind <;> cases expressed <;> rfl
  · intro text
    rw [String.toList_ofList, likeMatch_pattern]
    exact anchor.occurs_iff_locates part text
  · rw [String.toList_ofList]
    exact endsInEscape_pattern anchor part

/-- A value of wildcards that ends in a backslash, just before the wildcard of the pattern. -/
theorem bound_pattern_matches_literally_wildcards :
    ∃ bound : String,
      (Filter.comparison "code" .startsWith (.string "A%_\\")).toCondition 3 =
        .ok ⟨.like "code" false 4, [.string bound]⟩ ∧
      likeMatch bound.toList "a%_\\ and more".toList = true ∧
      likeMatch bound.toList "abc\\ and more".toList = false ∧
      endsInEscape bound.toList = false := by
  have expressed : Comparison.startsWith.expression = .pattern .start false := rfl
  obtain ⟨bound, built, literally, closed⟩ :=
    bound_pattern_matches_literally expressed "code" (.string "A%_\\") 3
  have lowered : (Text.lowercase (Value.string "A%_\\").plainText).toList = "a%_\\".toList := by
    decide +kernel
  rw [lowered] at literally
  refine ⟨bound, built, ?_, ?_, closed⟩
  · exact (literally _).mpr ⟨" and more".toList, rfl⟩
  · rw [Bool.eq_false_iff, ne_eq, literally]
    show ¬("a%_\\".toList <+: "abc\\ and more".toList)
    decide

end Sql

end SearchQuery
