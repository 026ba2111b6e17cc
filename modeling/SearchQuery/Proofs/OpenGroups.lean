import SearchQuery.Proofs.Assembly
import SearchQuery.Proofs.Scanning

/-!
# The groups that are open

The tokens alone say which groups are open: an opening parenthesis opens one and a closing
parenthesis closes the innermost.  In every run the stack has one frame for each of them, in the same
order, above the frame of the query.  A run that fails does so at one token, which the stack reached
by the tokens before it refuses.
-/

set_option autoImplicit false

namespace SearchQuery

def openAfter (opened : List Nat) (placed : PlacedToken) : List Nat :=
  match placed.token with
  | .opening => placed.position :: opened
  | .closing => opened.tail
  | _ => opened

/-- The positions of the parentheses that the tokens open and do not close, the innermost first. -/
def openGroups (tokens : List PlacedToken) : List Nat :=
  tokens.foldl openAfter []

theorem mem_of_mem_openGroups {tokens : List PlacedToken} {position : Nat}
    (isOpen : position ∈ openGroups tokens) : ⟨position, .opening⟩ ∈ tokens := by
  have general : ∀ (tokens : List PlacedToken) (opened : List Nat),
      position ∈ tokens.foldl openAfter opened →
        ⟨position, .opening⟩ ∈ tokens ∨ position ∈ opened := by
    intro tokens
    induction tokens with
    | nil =>
        intro opened found
        exact .inr found
    | cons placed rest inductionHypothesis =>
        intro opened found
        rcases inductionHypothesis _ found with later | earlier
        · exact .inl (List.mem_cons_of_mem placed later)
        · obtain ⟨start, token⟩ := placed
          cases token with
          | opening =>
              rcases List.mem_cons.mp earlier with rfl | earlier
              · exact .inl List.mem_cons_self
              · exact .inr earlier
          | closing => exact .inr (List.mem_of_mem_tail earlier)
          | _ => exact .inr earlier
  rcases general tokens [] isOpen with found | impossible
  · exact found
  · cases impossible

namespace Frame

variable {input : List Char} {maxDepth : Nat} {stack next : List Frame} {placed : PlacedToken}

/-! ## One token -/

/-- All that a token can do to the stack. -/
inductive Step (maxDepth : Nat) : List Frame → PlacedToken → List Frame → Prop where
  | not {frame : Frame} {below : List Frame} {position : Nat}
      (waiting : frame.expectsOperand = true) :
      Step maxDepth (frame :: below) ⟨position, .not⟩
        ({ frame with pending := frame.pending + 1 } :: below)
  | opening {frame : Frame} {below : List Frame} {position : Nat}
      (waiting : frame.expectsOperand = true) (room : below.length < maxDepth) :
      Step maxDepth (frame :: below) ⟨position, .opening⟩
        (group position frame.pending :: { frame with pending := 0 } :: below)
  | term {frame : Frame} {below : List Frame} {position : Nat} {name code : String}
      {literal : Option String} {leaf : Predicate} (waiting : frame.expectsOperand = true)
      (built : Predicate.ofTerm name code literal = .ok leaf) :
      Step maxDepth (frame :: below) ⟨position, .term name code literal⟩ (frame.push leaf :: below)
  | join {frame : Frame} {below : List Frame} {position : Nat} {join : Join}
      (opened : frame.opening ≠ none) (operand : frame.left ≠ none) (settled : frame.pending = 0)
      (unjoined : frame.join = none) :
      Step maxDepth (frame :: below) ⟨position, .join join⟩
        ({ frame with join := some join } :: below)
  | closing {frame parent : Frame} {rest : List Frame} {position : Nat} {operand : Predicate}
      (opened : frame.opening ≠ none) (settled : frame.pending = 0)
      (complete : frame.combined = .ok operand) :
      Step maxDepth (frame :: parent :: rest) ⟨position, .closing⟩ (parent.push operand :: rest)

theorem step_of_advance (success : advance input maxDepth stack placed = .ok next) :
    Step maxDepth stack placed next := by
  obtain ⟨position, token⟩ := placed
  cases stack with
  | nil => cases success
  | cons frame below =>
      cases token with
      | not =>
          by_cases waiting : frame.expectsOperand = true
          · rw [advance_not position waiting] at success
            cases success
            exact .not waiting
          · simp [advance, waiting] at success
      | opening =>
          by_cases waiting : frame.expectsOperand = true
          · by_cases room : below.length < maxDepth
            · rw [advance_opening position waiting room] at success
              cases success
              exact .opening waiting room
            · simp [advance, waiting, Nat.lt_succ_of_le (Nat.not_lt.mp room)] at success
          · simp [advance, waiting] at success
      | term name code literal =>
          by_cases waiting : frame.expectsOperand = true
          · rw [advance_term position name code literal waiting] at success
            cases built : Predicate.ofTerm name code literal with
            | error error => simp [built, Except.map] at success
            | ok leaf =>
                rw [built] at success
                cases success
                exact .term waiting built
          · simp [advance, waiting] at success
      | join join =>
          simp only [advance] at success
          split at success
          · cases success
          next opened =>
            split at success
            · cases success
            next ready =>
              split at success
              · cases success
              next unjoined =>
                cases success
                simp only [Bool.or_eq_true, decide_eq_true_eq, not_or, Nat.not_lt,
                  Nat.le_zero] at ready
                exact .join (by simpa using opened) (by simpa using ready.1) ready.2
                  (by simpa using unjoined)
      | word text =>
          simp only [advance] at success
          split at success <;> cases success
      | closing =>
          simp only [advance] at success
          split at success
          · cases success
          next opened =>
            split at success
            · cases success
            next settled =>
              split at success
              · cases success
              next operand complete =>
                split at success
                · cases success
                next parent rest =>
                  cases success
                  exact .closing (by simpa using opened) (by simpa using settled) complete

/-- What a refused token and the stack have to do with the fault that is reported. -/
def Refuses (maxDepth : Nat) (stack : List Frame) (token : Token) : ParseFault → Prop
  | .tooDeep limit => limit = maxDepth ∧ token = .opening ∧ maxDepth < stack.length
  | .unbalancedClose =>
      token = .closing ∧ (stack.head?.bind Frame.opening = none ∨ stack.length = 1)
  | .unknownJoin word => token = .word word
  | .unexpectedWord word => token = .word word
  | .trailingInput | .missingJoin | .overfullGroup | .joinOutsideGroup _ | .missingBefore _
  | .missingAfter _ | .danglingNot | .groupWithoutJoin | .emptyGroup => True
  | _ => False

theorem refuses_refusal (maxDepth : Nat) (stack : List Frame) (token : Token) (frame : Frame) :
    Refuses maxDepth stack token frame.refusal := by
  unfold refusal
  split <;> trivial

theorem refuses_combined {frame : Frame} {fault : ParseFault} (maxDepth : Nat)
    (stack : List Frame) (token : Token) (incomplete : frame.combined = .error fault) :
    Refuses maxDepth stack token fault := by
  unfold combined at incomplete
  split at incomplete <;> cases incomplete <;> trivial

theorem refuses_of_advance {error : SearchError} (nonempty : stack ≠ [])
    (failed : advance input maxDepth stack placed = .error error) :
    (∃ fault, error = .located input placed.position fault ∧
      Refuses maxDepth stack placed.token fault) ∨
    ∃ name code literal, Predicate.ofTerm name code literal = .error error := by
  obtain ⟨position, token⟩ := placed
  cases stack with
  | nil => exact absurd rfl nonempty
  | cons frame below =>
      cases token with
      | not =>
          simp only [advance] at failed
          split at failed
          · cases failed
          · cases failed
            exact .inl ⟨_, rfl, refuses_refusal ..⟩
      | opening =>
          simp only [advance] at failed
          split at failed
          · cases failed
            exact .inl ⟨_, rfl, refuses_refusal ..⟩
          · split at failed
            next deep =>
              cases failed
              exact .inl ⟨_, rfl, rfl, rfl, deep⟩
            next => cases failed
      | term name code literal =>
          simp only [advance] at failed
          split at failed
          · split at failed
            next built =>
              cases failed
              exact .inr ⟨name, code, literal, built⟩
            next => cases failed
          · cases failed
            exact .inl ⟨_, rfl, refuses_refusal ..⟩
      | join join =>
          simp only [advance] at failed
          split at failed
          · cases failed
            exact .inl ⟨_, rfl, trivial⟩
          · split at failed
            · cases failed
              exact .inl ⟨_, rfl, trivial⟩
            · split at failed
              · cases failed
                exact .inl ⟨_, rfl, refuses_refusal ..⟩
              · cases failed
      | word text =>
          simp only [advance] at failed
          split at failed <;> cases failed <;> exact .inl ⟨_, rfl, rfl⟩
      | closing =>
          simp only [advance] at failed
          split at failed
          next unopened =>
            cases failed
            exact .inl ⟨_, rfl, rfl, .inl (by simpa using unopened)⟩
          next =>
            split at failed
            · cases failed
              exact .inl ⟨_, rfl, trivial⟩
            · split at failed
              next incomplete =>
                cases failed
                exact .inl ⟨_, rfl, refuses_combined _ _ _ incomplete⟩
              next =>
                split at failed
                · cases failed
                  exact .inl ⟨_, rfl, rfl, .inr rfl⟩
                · cases failed

/-! ## Whole runs -/

theorem opening_push (frame : Frame) (operand : Predicate) :
    (frame.push operand).opening = frame.opening := by
  unfold push
  split <;> rfl

/-- The stack has a frame for each open group, no more than the limit allows, and below them the
frame of the query. -/
structure Tracks (maxDepth : Nat) (stack : List Frame) (opened : List Nat) : Prop where
  openings : stack.map Frame.opening = opened.map some ++ [none]
  room : opened.length ≤ maxDepth

theorem Tracks.length_eq {opened : List Nat} (tracks : Tracks maxDepth stack opened) :
    stack.length = opened.length + 1 := by
  have lengths := congrArg List.length tracks.openings
  simpa using lengths

/-- The top frame is that of the innermost open group. -/
theorem Tracks.head?_eq {frame : Frame} {below : List Frame} {opened : List Nat}
    (tracks : Tracks maxDepth (frame :: below) opened) : opened.head? = frame.opening := by
  have openings := tracks.openings
  rw [List.map_cons] at openings
  cases opened with
  | nil => exact (List.cons.inj openings).1.symm
  | cons innermost others => exact (List.cons.inj openings).1.symm

theorem Tracks.step {opened : List Nat} (tracks : Tracks maxDepth stack opened)
    (step : Step maxDepth stack placed next) :
    Tracks maxDepth next (openAfter opened placed) := by
  have height := tracks.length_eq
  obtain ⟨openings, room⟩ := tracks
  cases step with
  | not => exact ⟨openings, room⟩
  | opening _ free =>
      refine ⟨?_, ?_⟩
      · rw [List.map_cons] at openings
        simp only [openAfter, List.map_cons, List.cons_append, group, openings]
      · rw [List.length_cons] at height
        simp only [openAfter, List.length_cons]
        omega
  | term =>
      refine ⟨?_, room⟩
      rw [List.map_cons, opening_push]
      exact openings
  | join => exact ⟨openings, room⟩
  | closing isOpen =>
      cases opened with
      | nil =>
          rw [List.map_cons, List.map_nil, List.nil_append, List.cons.injEq] at openings
          exact absurd openings.1 isOpen
      | cons innermost others =>
          refine ⟨?_, Nat.le_of_succ_le room⟩
          rw [List.map_cons, opening_push]
          exact (List.cons.inj openings).2

theorem Tracks.run :
    ∀ {tokens : List PlacedToken} {stack final : List Frame} {opened : List Nat},
      Tracks maxDepth stack opened → Frame.run input maxDepth stack tokens = .ok final →
        Tracks maxDepth final (tokens.foldl openAfter opened) := by
  intro tokens
  induction tokens with
  | nil =>
      intro stack final opened tracks success
      cases success
      exact tracks
  | cons placed rest inductionHypothesis =>
      intro stack final opened tracks success
      obtain ⟨next, stepped, later⟩ := run_cons_eq_ok success
      exact inductionHypothesis (tracks.step (step_of_advance stepped)) later

theorem tracks_of_run {tokens : List PlacedToken} {final : List Frame}
    (success : run input maxDepth [root] tokens = .ok final) :
    Tracks maxDepth final (openGroups tokens) :=
  Tracks.run ⟨rfl, Nat.zero_le maxDepth⟩ success

theorem run_append (tokens others : List PlacedToken) (stack : List Frame) :
    run input maxDepth stack (tokens ++ others) =
      (run input maxDepth stack tokens).bind fun reached => run input maxDepth reached others := by
  rw [run, List.foldlM_append]
  rfl

theorem exists_refused_of_run {tokens : List PlacedToken} {error : SearchError} :
    ∀ {stack : List Frame}, run input maxDepth stack tokens = .error error →
      ∃ before refused after reached, tokens = before ++ refused :: after ∧
        run input maxDepth stack before = .ok reached ∧
        advance input maxDepth reached refused = .error error := by
  induction tokens with
  | nil =>
      intro stack failed
      cases failed
  | cons first rest inductionHypothesis =>
      intro stack failed
      rw [run_cons] at failed
      cases stepped : advance input maxDepth stack first with
      | error early =>
          rw [stepped] at failed
          cases failed
          exact ⟨[], first, rest, stack, rfl, rfl, stepped⟩
      | ok next =>
          rw [stepped] at failed
          obtain ⟨before, refused, after, reached, rfl, ran, refusal⟩ := inductionHypothesis failed
          refine ⟨first :: before, refused, after, reached, rfl, ?_, refusal⟩
          rw [run_cons, stepped]
          exact ran

end Frame

/-- A failure to assemble comes from a token that the stack before it refuses, or from the stack
that is left at the end. -/
theorem assemble_eq_error {input : List Char} {maxDepth : Nat} {tokens : List PlacedToken}
    {error : SearchError} (failed : assemble input maxDepth tokens = .error error) :
    (∃ before refused after reached, tokens = before ++ refused :: after ∧
      Frame.Tracks maxDepth reached (openGroups before) ∧
      Frame.advance input maxDepth reached refused = .error error) ∨
    ∃ final, Frame.Tracks maxDepth final (openGroups tokens) ∧
      Frame.finish input final = .error error := by
  rw [assemble_eq_run] at failed
  cases ran : Frame.run input maxDepth [.root] tokens with
  | error early =>
      rw [ran] at failed
      cases failed
      obtain ⟨before, refused, after, reached, divided, success, refusal⟩ :=
        Frame.exists_refused_of_run ran
      exact .inl ⟨before, refused, after, reached, divided, Frame.tracks_of_run success, refusal⟩
  | ok final =>
      rw [ran] at failed
      exact .inr ⟨final, Frame.tracks_of_run ran, failed⟩

/-! ## Tokens in their text -/

/-- The text is scanned, and the token stands in it behind the tokens before it. -/
def Meets (text : List Char) (before : List PlacedToken) (placed : PlacedToken) : Prop :=
  ∃ after, scan text = .ok (before ++ placed :: after)

theorem Piece.spells_of_mem {trailing : List Char} {piece : Piece} :
    ∀ {pieces : List Piece}, Regular trailing pieces → piece ∈ pieces →
      piece.token.Spells piece.spelling := by
  intro pieces
  induction pieces with
  | nil =>
      intro _ member
      cases member
  | cons first rest inductionHypothesis =>
      intro regular member
      obtain ⟨_, spells, _, restRegular⟩ := regular
      rcases List.mem_cons.mp member with rfl | later
      · exact spells
      · exact inductionHypothesis restRegular later

theorem exists_spelling_of_scan {text : List Char} {tokens : List PlacedToken}
    {placed : PlacedToken} (scanned : scan text = .ok tokens) (member : placed ∈ tokens) :
    ∃ spelling, placed.token.Spells spelling ∧ spelling <+: text.drop placed.position := by
  obtain ⟨trailing, pieces, regular, rfl, rfl⟩ := exists_pieces_of_scanFrom scanned
  have standing := @Piece.tokens_standing trailing pieces []
  obtain ⟨index, rfl⟩ := List.get_of_mem member
  have bound : index.1 < pieces.length := standing.length_eq ▸ index.2
  obtain ⟨sameToken, there⟩ := standing.get index.2 bound
  have spells := Piece.spells_of_mem regular (List.get_mem pieces ⟨index.1, bound⟩)
  rw [← sameToken] at spells
  exact ⟨_, spells, there⟩

theorem getElem?_of_spells {text spelling : List Char} {token : Token} {position : Nat}
    (spells : token.Spells spelling) (there : spelling <+: text.drop position) :
    text[position]? = spelling.head? := by
  obtain ⟨first, others, rfl⟩ := List.exists_cons_of_length_pos spells.length_pos
  obtain ⟨rest, divided⟩ := there
  rw [← List.head?_drop, ← divided]
  rfl

theorem opening_stands {text : List Char} {tokens : List PlacedToken} {position : Nat}
    (scanned : scan text = .ok tokens) (member : ⟨position, .opening⟩ ∈ tokens) :
    text[position]? = some '(' := by
  obtain ⟨spelling, spells, there⟩ := exists_spelling_of_scan scanned member
  rw [getElem?_of_spells spells there]
  cases spells
  rfl

end SearchQuery
