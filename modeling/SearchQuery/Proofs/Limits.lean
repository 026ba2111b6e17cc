import SearchQuery.Proofs.Canonical
import SearchQuery.Proofs.Faults

/-!
# Limits only refuse

The length is looked at before anything else, and the depth only by an opening parenthesis that could
otherwise be taken.  So the same text under wider limits is read step by step in the same way, as
long as the narrower ones do not stop it.
-/

set_option autoImplicit false

namespace SearchQuery

/-- The error is that a limit is exceeded. -/
def SearchError.isLimit : SearchError → Bool
  | .parse _ _ (.tooLong _) => true
  | .parse _ _ (.tooDeep _) => true
  | _ => false

/-- The result is not due to a limit. -/
def Settled {α : Type} (result : Except SearchError α) : Prop :=
  ∀ error, result = .error error → error.isLimit = false

section

variable {α β : Type}

theorem Settled.of_bind {first : Except SearchError α} {next : α → Except SearchError β}
    (settled : Settled (first.bind next)) : Settled first := by
  rintro error rfl
  exact settled error rfl

theorem Settled.of_map {first : Except SearchError α} {change : α → β}
    (settled : Settled (first.map change)) : Settled first := by
  rintro error rfl
  exact settled error rfl

end

namespace Frame

variable {input : List Char} {maxDepth deeper : Nat}

theorem advance_deeper {stack : List Frame} {placed : PlacedToken} (room : maxDepth ≤ deeper)
    (settled : Settled (advance input maxDepth stack placed)) :
    advance input deeper stack placed = advance input maxDepth stack placed := by
  obtain ⟨position, token⟩ := placed
  cases stack with
  | nil => rfl
  | cons frame below =>
      cases token with
      | opening =>
          by_cases waiting : frame.expectsOperand = true
          · by_cases fits : below.length + 1 ≤ maxDepth
            · rw [advance_opening position waiting fits,
                advance_opening position waiting (Nat.le_trans fits room)]
            · -- The only step at which the two runs could part is the one that the limit stops.
              have stopped : advance input maxDepth (frame :: below) ⟨position, .opening⟩ =
                  .error (.located input position (.tooDeep maxDepth)) := by
                simp [advance, waiting, Nat.not_le.mp fits]
              exact absurd (settled _ stopped) (by simp [SearchError.located, SearchError.isLimit])
          · simp [advance, waiting]
      | _ => rfl

theorem run_deeper {tokens : List PlacedToken} (room : maxDepth ≤ deeper) :
    ∀ {stack : List Frame}, Settled (run input maxDepth stack tokens) →
      run input deeper stack tokens = run input maxDepth stack tokens := by
  induction tokens with
  | nil =>
      intro stack _
      rfl
  | cons first rest inductionHypothesis =>
      intro stack settled
      rw [run_cons] at settled
      rw [run_cons, run_cons, advance_deeper room settled.of_bind]
      cases stepped : advance input maxDepth stack first with
      | error error => rfl
      | ok next =>
          rw [stepped] at settled
          exact inductionHypothesis settled

end Frame

theorem assemble_deeper {input : List Char} {maxDepth deeper : Nat} {tokens : List PlacedToken}
    (room : maxDepth ≤ deeper) (settled : Settled (assemble input maxDepth tokens)) :
    assemble input deeper tokens = assemble input maxDepth tokens := by
  rw [assemble_eq_run] at settled
  rw [assemble_eq_run, assemble_eq_run, Frame.run_deeper room settled.of_bind]

/-- The depth limit was kept at every opening parenthesis of what has been assembled. -/
theorem openGroups_lt_of_assemble {input : List Char} {maxDepth position : Nat}
    {before after : List PlacedToken} {predicate : Predicate}
    (assembled : assemble input maxDepth (before ++ ⟨position, .opening⟩ :: after) =
      .ok predicate) : (openGroups before).length < maxDepth := by
  rw [assemble_eq_run, Frame.run_append] at assembled
  cases ran : Frame.run input maxDepth [.root] before with
  | error error =>
      rw [ran] at assembled
      cases assembled
  | ok reached =>
      have height := (Frame.tracks_of_run ran).length_eq
      rw [ran] at assembled
      change (Frame.run input maxDepth reached (_ :: after)).bind _ = _ at assembled
      rw [Frame.run_cons] at assembled
      cases stepped : Frame.advance input maxDepth reached ⟨position, .opening⟩ with
      | error error =>
          rw [stepped] at assembled
          cases assembled
      | ok next =>
          cases Frame.step_of_advance stepped with
          | opening _ room =>
              rw [List.length_cons] at height
              omega

namespace Search

variable {limits wider : Limits} {text : String}

theorem parse_wider (longer : limits.maxLength ≤ wider.maxLength)
    (deeper : limits.maxDepth ≤ wider.maxDepth) (settled : Settled (parse limits text)) :
    parse wider text = parse limits text := by
  by_cases long : limits.maxLength < text.length
  · exact absurd (settled _ (parse_tooLong long))
      (by simp [SearchError.located, SearchError.isLimit])
  · have short : ¬text.toList.length > limits.maxLength := by rwa [String.length_toList]
    have shorter : ¬text.toList.length > wider.maxLength := by omega
    rw [parse, parseCharacters, if_neg short] at settled
    rw [parse, parse, parseCharacters, parseCharacters, if_neg short, if_neg shorter]
    split
    · rfl
    next visible =>
      rw [if_neg visible] at settled
      split
      · rfl
      next tokens scanned =>
        rw [scanned] at settled
        rw [assemble_deeper deeper settled.of_map]

theorem openGroups_lt_of_parse {search : Search} {before : List PlacedToken} {position : Nat}
    (accepted : parse limits text = .ok search)
    (meets : Meets text.toList before ⟨position, .opening⟩) :
    (openGroups before).length < limits.maxDepth := by
  obtain ⟨after, scanned⟩ := meets
  rw [parse, parseCharacters] at accepted
  split at accepted
  · cases accepted
  · split at accepted
    next blank =>
      have character := opening_stands scanned (List.mem_append_right before List.mem_cons_self)
      have openingBlank := List.all_eq_true.mp blank _ (List.mem_of_getElem? character)
      exact absurd openingBlank (by decide)
    next =>
      rw [scanned] at accepted
      dsimp only at accepted
      cases assembled : assemble text.toList limits.maxDepth
          (before ++ ⟨position, .opening⟩ :: after) with
      | error error =>
          rw [assembled] at accepted
          cases accepted
      | ok predicate => exact openGroups_lt_of_assemble assembled

/-- Limits only refuse.  What they do not refuse has the same result under wider ones, whether it is
a search or an error.  The length is refused exactly if it exceeds its limit.  The depth is refused
at a parenthesis that finds as many groups open as the limit allows, and a text that is read has no
such parenthesis. -/
theorem limits_only_refuse (longer : limits.maxLength ≤ wider.maxLength)
    (deeper : limits.maxDepth ≤ wider.maxDepth) (text : String) :
    (Settled (parse limits text) → parse wider text = parse limits text) ∧
    ((∃ position fragment limit,
        parse limits text = .error (.parse position fragment (.tooLong limit))) ↔
      limits.maxLength < text.length) ∧
    (∀ position fragment limit,
      parse limits text = .error (.parse position fragment (.tooDeep limit)) →
        limit = limits.maxDepth ∧ text.toList[position]? = some '(' ∧
          ∃ before, Meets text.toList before ⟨position, .opening⟩ ∧
            (openGroups before).length = limits.maxDepth) ∧
    (∀ search before position, parse limits text = .ok search →
      Meets text.toList before ⟨position, .opening⟩ →
        (openGroups before).length < limits.maxDepth) := by
  refine ⟨parse_wider longer deeper, ⟨?_, ?_⟩, ?_, ?_⟩
  · rintro ⟨position, fragment, limit, failed⟩
    obtain ⟨_, _, _, _, long⟩ := pointsInto_of_parse failed
    rwa [String.length_toList] at long
  · intro long
    exact ⟨_, _, _, parse_tooLong long⟩
  · intro position fragment limit failed
    exact (pointsInto_of_parse failed).2.2
  · intro search before position accepted meets
    exact openGroups_lt_of_parse accepted meets

def sampleNested : String := "((a|nu: AND b|nu:) OR !c|nu:)"

/-- One group within another: refused with room for one, and the same search with room for two or
for more. -/
theorem limits_only_refuse_nested :
    parse ⟨40, 1⟩ sampleNested = .error (.parse 1 "(a|nu: AND b|nu:" (.tooDeep 1)) ∧
      (∃ before, Meets sampleNested.toList before ⟨1, .opening⟩ ∧
        (openGroups before).length = 1) ∧
      parse ⟨40, 2⟩ sampleNested = .ok (.only (.or (.and (.bare "a" .isNull) (.bare "b" .isNull))
        (.not (.bare "c" .isNull)))) ∧
      parse {} sampleNested = parse ⟨40, 2⟩ sampleNested := by
  have refused : parse ⟨40, 1⟩ sampleNested =
      .error (.parse 1 "(a|nu: AND b|nu:" (.tooDeep 1)) := by
    decide +kernel
  have accepted : parse ⟨40, 2⟩ sampleNested = .ok (.only
      (.or (.and (.bare "a" .isNull) (.bare "b" .isNull)) (.not (.bare "c" .isNull)))) := by
    decide +kernel
  have settled : Settled (parse ⟨40, 2⟩ sampleNested) := by
    intro error failed
    rw [accepted] at failed
    cases failed
  obtain ⟨_, _, deep, _⟩ :=
    @limits_only_refuse ⟨40, 1⟩ ⟨40, 2⟩ (by decide) (by decide) sampleNested
  obtain ⟨wide, _⟩ := @limits_only_refuse ⟨40, 2⟩ {} (by decide) (by decide) sampleNested
  exact ⟨refused, (deep _ _ _ refused).2.2, accepted, wide settled⟩

end Search

end SearchQuery
