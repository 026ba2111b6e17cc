import SearchQuery.Proofs.Phrase

/-!
# The stack of frames accepts the grammar

The tokens of a phrase, met by a frame that waits for an operand, leave that frame with the operand
of the phrase and nothing else changed; the error of the phrase is the error of the run.
Conversely, a run that ends in a complete query starts with the tokens of a phrase.  So `assemble`
succeeds exactly on the derivable lists of tokens, with the tree of their derivation.
-/

set_option autoImplicit false

namespace SearchQuery

theorem Predicate.negated_add (predicate : Predicate) (first second : Nat) :
    (predicate.negated first).negated second = predicate.negated (first + second) := by
  induction second with
  | zero => rfl
  | succ second inductionHypothesis =>
      simp only [negated, inductionHypothesis, Nat.add_eq]

namespace Frame

variable {input : List Char} {maxDepth : Nat} {frame : Frame} {below : List Frame}

/-- Negations that wait in a frame may as well be written on its next operand. -/
theorem push_pending (frame : Frame) (count : Nat) (operand : Predicate) :
    { frame with pending := frame.pending + count }.push operand =
      frame.push (operand.negated count) := by
  simp only [push, Predicate.negated_add, Nat.add_comm frame.pending count]

/-- The negations before a group are applied when the group closes, those of the parent included. -/
theorem push_without_pending (frame : Frame) (count : Nat) (operand : Predicate) :
    { frame with pending := 0 }.push (operand.negated (frame.pending + count)) =
      frame.push (operand.negated count) := by
  simp only [push, Predicate.negated_add, Nat.add_comm frame.pending count, Nat.add_zero]

/-! ## What each token does to a frame in each state -/

theorem advance_not (position : Nat) (waiting : frame.expectsOperand = true) :
    advance input maxDepth (frame :: below) ⟨position, .not⟩ =
      .ok ({ frame with pending := frame.pending + 1 } :: below) := by
  simp [advance, waiting]

theorem advance_opening (position : Nat) (waiting : frame.expectsOperand = true)
    (room : below.length + 1 ≤ maxDepth) :
    advance input maxDepth (frame :: below) ⟨position, .opening⟩ =
      .ok (.group position frame.pending :: { frame with pending := 0 } :: below) := by
  simp only [advance, waiting, List.length_cons, gt_iff_lt, Nat.not_lt.mpr room]
  rfl

theorem advance_term (position : Nat) (name code : String) (literal : Option String)
    (waiting : frame.expectsOperand = true) :
    advance input maxDepth (frame :: below) ⟨position, .term name code literal⟩ =
      (Predicate.ofTerm name code literal).map fun leaf => frame.push leaf :: below := by
  simp only [advance, waiting, if_true]
  cases Predicate.ofTerm name code literal <;> rfl

/-- A group that has its first operand and nothing else. -/
def half (opening negations : Nat) (left : Predicate) : Frame :=
  ⟨some opening, negations, 0, some left, none, none⟩

/-- A group that waits for its second operand. -/
def joining (opening negations : Nat) (left : Predicate) (join : Join) : Frame :=
  ⟨some opening, negations, 0, some left, some join, none⟩

/-- A group that waits for its closing parenthesis. -/
def full (opening negations : Nat) (left : Predicate) (join : Join) (right : Predicate) : Frame :=
  ⟨some opening, negations, 0, some left, some join, some right⟩

theorem push_group (opening negations : Nat) (operand : Predicate) :
    (group opening negations).push operand = half opening negations operand :=
  rfl

theorem push_joining (opening negations : Nat) (left operand : Predicate) (join : Join) :
    (joining opening negations left join).push operand =
      full opening negations left join operand :=
  rfl

theorem advance_join (position opening negations : Nat) (left : Predicate) (join : Join) :
    advance input maxDepth (half opening negations left :: below) ⟨position, .join join⟩ =
      .ok (joining opening negations left join :: below) := by
  simp [advance, half, joining]

theorem advance_closing (position opening negations : Nat) (left right : Predicate) (join : Join) :
    advance input maxDepth (full opening negations left join right :: frame :: below)
        ⟨position, .closing⟩ =
      .ok (frame.push ((left.joined join right).negated negations) :: below) := by
  simp [advance, full, combined]

/-- A frame that waits for an operand takes a negation, the start of a group or a term. -/
theorem advance_waiting_cases {placed : PlacedToken} {next : List Frame}
    (waiting : frame.expectsOperand = true)
    (step : advance input maxDepth (frame :: below) placed = .ok next) :
    (placed.token = .not ∧ next = { frame with pending := frame.pending + 1 } :: below) ∨
    (placed.token = .opening ∧ below.length + 1 ≤ maxDepth ∧
      next = .group placed.position frame.pending :: { frame with pending := 0 } :: below) ∨
    (∃ name code literal leaf, placed.token = .term name code literal ∧
      Predicate.ofTerm name code literal = .ok leaf ∧ next = frame.push leaf :: below) := by
  obtain ⟨position, token⟩ := placed
  cases token with
  | not =>
      rw [advance_not position waiting] at step
      exact .inl ⟨rfl, (Except.ok.inj step).symm⟩
  | opening =>
      by_cases room : below.length + 1 ≤ maxDepth
      · rw [advance_opening position waiting room] at step
        exact .inr (.inl ⟨rfl, room, (Except.ok.inj step).symm⟩)
      · simp [advance, waiting, Nat.not_le.mp room] at step
  | term name code literal =>
      rw [advance_term position name code literal waiting] at step
      cases built : Predicate.ofTerm name code literal with
      | error error => simp [built, Except.map] at step
      | ok leaf =>
          simp only [built, Except.map, Except.ok.injEq] at step
          exact .inr (.inr ⟨name, code, literal, leaf, rfl, built, step.symm⟩)
  | join join =>
      simp only [expectsOperand, Bool.or_eq_true, Bool.and_eq_true] at waiting
      rcases waiting with noLeft | ⟨joined, _⟩
      · simp only [advance, noLeft, Bool.true_or, if_true] at step
        split at step <;> simp at step
      · simp only [advance, joined, if_true] at step
        split at step
        · simp at step
        · split at step <;> simp at step
  | word text =>
      simp only [advance] at step
      split at step <;> simp at step
  | closing =>
      simp only [advance] at step
      split at step
      · simp at step
      · split at step
        · simp at step
        · simp only [expectsOperand, Bool.or_eq_true, Bool.and_eq_true, Option.isNone_iff_eq_none]
            at waiting
          rcases waiting with noLeft | ⟨_, noRight⟩
          · simp [combined, noLeft] at step
          · cases leftOperand : frame.left <;> cases joinWord : frame.join <;>
              simp [combined, leftOperand, joinWord, noRight] at step

theorem advance_half_cases {placed : PlacedToken} {next : List Frame} {opening negations : Nat}
    {left : Predicate}
    (step : advance input maxDepth (half opening negations left :: below) placed = .ok next) :
    ∃ join, placed.token = .join join ∧ next = joining opening negations left join :: below := by
  obtain ⟨position, token⟩ := placed
  cases token with
  | join join =>
      rw [advance_join] at step
      exact ⟨join, rfl, (Except.ok.inj step).symm⟩
  | _ => simp [advance, half, expectsOperand, combined] at step

theorem advance_full_cases {placed : PlacedToken} {next : List Frame} {opening negations : Nat}
    {left right : Predicate} {join : Join}
    (step : advance input maxDepth (full opening negations left join right :: frame :: below)
      placed = .ok next) :
    placed.token = .closing ∧
      next = frame.push ((left.joined join right).negated negations) :: below := by
  obtain ⟨position, token⟩ := placed
  cases token with
  | closing =>
      rw [advance_closing] at step
      exact ⟨rfl, (Except.ok.inj step).symm⟩
  | _ => simp [advance, full, expectsOperand] at step

theorem advance_complete {placed : PlacedToken} {next : List Frame} {predicate : Predicate} :
    advance input maxDepth (root.push predicate :: below) placed ≠ .ok next := by
  obtain ⟨position, token⟩ := placed
  cases token <;> simp [advance, root, push, expectsOperand]

/-! ## A run over a phrase -/

def run (input : List Char) (maxDepth : Nat) (stack : List Frame) (placed : List PlacedToken) :
    Except SearchError (List Frame) :=
  placed.foldlM (advance input maxDepth) stack

theorem run_cons (stack : List Frame) (placed : PlacedToken) (rest : List PlacedToken) :
    run input maxDepth stack (placed :: rest) =
      (advance input maxDepth stack placed).bind fun next => run input maxDepth next rest :=
  rfl

theorem run_cons_eq_ok {stack final : List Frame} {placed : PlacedToken}
    {rest : List PlacedToken} (success : run input maxDepth stack (placed :: rest) = .ok final) :
    ∃ next, advance input maxDepth stack placed = .ok next ∧
      run input maxDepth next rest = .ok final := by
  rw [run_cons] at success
  cases step : advance input maxDepth stack placed with
  | error error => rw [step] at success; cases success
  | ok next => exact ⟨next, rfl, by rwa [step] at success⟩

theorem run_negations :
    ∀ (count : Nat) (placed rest : List PlacedToken) (frame : Frame),
      placed.map PlacedToken.token = List.replicate count .not → frame.expectsOperand = true →
      run input maxDepth (frame :: below) (placed ++ rest) =
        run input maxDepth ({ frame with pending := frame.pending + count } :: below) rest := by
  intro count
  induction count with
  | zero =>
      intro placed rest frame spelled _
      rw [List.replicate_zero, List.map_eq_nil_iff] at spelled
      subst placed
      rfl
  | succ count inductionHypothesis =>
      intro placed rest frame spelled waiting
      rw [List.replicate_succ, List.map_eq_cons_iff] at spelled
      obtain ⟨⟨position, token⟩, others, rfl, rfl, othersSpelled⟩ := spelled
      have later := inductionHypothesis others rest { frame with pending := frame.pending + 1 }
        othersSpelled waiting
      rw [List.cons_append, run_cons, advance_not position waiting, Except.bind, later,
        Nat.add_assoc, Nat.add_comm 1 count]

/-- The tokens of a phrase give the waiting frame the operand that the phrase denotes, if there is
room for the groups of the phrase; the error of the phrase is the error of the run. -/
theorem run_phrase :
    ∀ (phrase : Phrase) (placed rest : List PlacedToken) (frame : Frame) (below : List Frame),
      placed.map PlacedToken.token = phrase.tokens → frame.expectsOperand = true →
      phrase.nesting + below.length ≤ maxDepth →
      run input maxDepth (frame :: below) (placed ++ rest) =
        phrase.predicate.bind fun operand =>
          run input maxDepth (frame.push operand :: below) rest := by
  intro phrase
  induction phrase with
  | term negations name code literal =>
      intro placed rest frame below spelled waiting _
      obtain ⟨nots, term, rfl, notsSpelled, termSpelled⟩ := List.map_eq_append_iff.mp spelled
      obtain ⟨⟨position, token⟩, others, rfl, rfl, othersSpelled⟩ :=
        List.map_eq_cons_iff.mp termSpelled
      rw [List.map_eq_nil_iff] at othersSpelled
      subst others
      have stillWaiting :
          { frame with pending := frame.pending + negations }.expectsOperand = true := waiting
      rw [List.append_assoc, run_negations negations nots _ frame notsSpelled waiting,
        List.cons_append, run_cons, advance_term position name code literal stillWaiting,
        Phrase.predicate]
      cases Predicate.ofTerm name code literal with
      | error error => rfl
      | ok leaf =>
          change run _ _ (push _ leaf :: below) rest = run _ _ (frame.push _ :: below) rest
          rw [push_pending]
  | group negations left join right leftInduction rightInduction =>
      intro placed rest frame below spelled waiting room
      obtain ⟨nots, inner, rfl, notsSpelled, innerSpelled⟩ := List.map_eq_append_iff.mp spelled
      obtain ⟨front, closing, rfl, frontSpelled, closingSpelled⟩ :=
        List.map_eq_append_iff.mp innerSpelled
      obtain ⟨⟨start, openingToken⟩, operands, rfl, rfl, operandsSpelled⟩ :=
        List.map_eq_cons_iff.mp frontSpelled
      obtain ⟨leftPlaced, joined, rfl, leftSpelled, joinedSpelled⟩ :=
        List.map_eq_append_iff.mp operandsSpelled
      obtain ⟨⟨joinPosition, joinToken⟩, rightPlaced, rfl, rfl, rightSpelled⟩ :=
        List.map_eq_cons_iff.mp joinedSpelled
      obtain ⟨⟨finish, closingToken⟩, others, rfl, rfl, othersSpelled⟩ :=
        List.map_eq_cons_iff.mp closingSpelled
      rw [List.map_eq_nil_iff] at othersSpelled
      subst others
      simp only [Phrase.nesting] at room
      have leftRoom : left.nesting + (below.length + 1) ≤ maxDepth := by omega
      have rightRoom : right.nesting + (below.length + 1) ≤ maxDepth := by omega
      have openRoom : below.length + 1 ≤ maxDepth := by omega
      have stillWaiting :
          { frame with pending := frame.pending + negations }.expectsOperand = true := waiting
      simp only [List.append_assoc, List.cons_append, List.nil_append]
      rw [run_negations negations nots _ frame notsSpelled waiting, run_cons,
        advance_opening start stillWaiting openRoom]
      dsimp only [Except.bind]
      rw [leftInduction leftPlaced _ (group start (frame.pending + negations))
        ({ frame with pending := 0 } :: below) leftSpelled rfl leftRoom, Phrase.predicate]
      cases left.predicate with
      | error error => rfl
      | ok first =>
          change run _ _ (half start (frame.pending + negations) first :: _) _ = _
          rw [run_cons, advance_join]
          dsimp only [Except.bind]
          rw [rightInduction rightPlaced _ (joining start (frame.pending + negations) first join)
            ({ frame with pending := 0 } :: below) rightSpelled rfl rightRoom]
          cases right.predicate with
          | error error => rfl
          | ok second =>
              change run _ _ (full start (frame.pending + negations) first join second :: _) _ = _
              rw [run_cons, advance_closing]
              dsimp only [Except.bind]
              rw [push_without_pending]

/-! ## A run that ends in a complete query -/

theorem finish_waiting {predicate : Predicate}
    (rootEmpty : frame.opening = none → frame.left = none) :
    finish input (frame :: below) ≠ .ok predicate := by
  intro complete
  cases opened : frame.opening with
  | some position => simp [finish, opened] at complete
  | none =>
      simp only [finish, opened, rootEmpty opened] at complete
      split at complete <;> cases complete

theorem finish_open {predicate : Predicate} {position : Nat}
    (opened : frame.opening = some position) :
    finish input (frame :: below) ≠ .ok predicate := by
  simp [finish, opened]

theorem run_open_cons {predicate : Predicate} {final : List Frame} {position : Nat}
    {placed : List PlacedToken} (opened : frame.opening = some position)
    (complete : finish input final = .ok predicate)
    (success : run input maxDepth (frame :: below) placed = .ok final) :
    ∃ first rest next, placed = first :: rest ∧
      advance input maxDepth (frame :: below) first = .ok next ∧
      run input maxDepth next rest = .ok final := by
  cases placed with
  | nil =>
      cases success
      exact absurd complete (finish_open opened)
  | cons first rest =>
      obtain ⟨next, step, later⟩ := run_cons_eq_ok success
      exact ⟨first, rest, next, rfl, step, later⟩

/-- The tokens start with a phrase, the frame takes what the phrase denotes as its operand, and the
run goes on from there to its end. -/
def TakesOperand (input : List Char) (maxDepth : Nat) (final : List Frame) (frame : Frame)
    (below : List Frame) (placed : List PlacedToken) : Prop :=
  ∃ (phrase : Phrase) (front rest : List PlacedToken) (operand : Predicate),
    placed = front ++ rest ∧ front.map PlacedToken.token = phrase.tokens ∧
      phrase.nesting + below.length ≤ maxDepth ∧ phrase.predicate = .ok operand ∧
      run input maxDepth (frame.push operand :: below) rest = .ok final

theorem takesOperand_not {final : List Frame} {first : PlacedToken} {rest : List PlacedToken}
    (isNot : first.token = .not)
    (later : TakesOperand input maxDepth final { frame with pending := frame.pending + 1 }
      below rest) :
    TakesOperand input maxDepth final frame below (first :: rest) := by
  obtain ⟨phrase, front, others, operand, rfl, spelled, nested, denoted, afterwards⟩ := later
  refine ⟨phrase.negate, first :: front, others, operand.not, rfl, ?_, ?_, ?_, ?_⟩
  · rw [List.map_cons, isNot, spelled, phrase.tokens_negate]
  · rw [phrase.nesting_negate]
    exact nested
  · rw [phrase.predicate_negate, denoted]
    rfl
  · rw [push_pending frame 1 operand] at afterwards
    exact afterwards

/-- A group whose two operands are taken, one after the other, is itself taken by its parent. -/
theorem takesOperand_group {predicate : Predicate} {final : List Frame} {first : PlacedToken}
    {rest : List PlacedToken} (complete : finish input final = .ok predicate)
    (isOpening : first.token = .opening)
    (leftTaken : TakesOperand input maxDepth final (group first.position frame.pending)
      ({ frame with pending := 0 } :: below) rest)
    (rightTaken : ∀ (left : Predicate) (join : Join) (others : List PlacedToken),
      others.length ≤ rest.length →
      run input maxDepth (joining first.position frame.pending left join ::
        { frame with pending := 0 } :: below) others = .ok final →
      TakesOperand input maxDepth final (joining first.position frame.pending left join)
        ({ frame with pending := 0 } :: below) others) :
    TakesOperand input maxDepth final frame below (first :: rest) := by
  obtain ⟨left, leftFront, leftRest, leftOperand, rfl, leftSpelled, leftNested, leftDenoted,
    afterLeft⟩ := leftTaken
  rw [push_group] at afterLeft
  obtain ⟨joinToken, rightPlaced, _, rfl, joinStep, afterJoin⟩ :=
    run_open_cons rfl complete afterLeft
  obtain ⟨join, isJoin, rfl⟩ := advance_half_cases joinStep
  have shorter : rightPlaced.length ≤ (leftFront ++ joinToken :: rightPlaced).length := by
    simp only [List.length_append, List.length_cons]
    omega
  obtain ⟨right, rightFront, rightRest, rightOperand, rfl, rightSpelled, rightNested,
    rightDenoted, afterRight⟩ := rightTaken leftOperand join rightPlaced shorter afterJoin
  rw [push_joining] at afterRight
  obtain ⟨closingToken, others, _, rfl, closingStep, afterwards⟩ :=
    run_open_cons rfl complete afterRight
  obtain ⟨isClosing, rfl⟩ := advance_full_cases closingStep
  refine ⟨.group 0 left join right,
    first :: leftFront ++ joinToken :: rightFront ++ [closingToken], others,
    leftOperand.joined join rightOperand, ?_, ?_, ?_, ?_, ?_⟩
  · simp only [List.append_assoc, List.cons_append, List.nil_append]
  · simp only [List.map_append, List.map_cons, List.map_nil, isOpening, isJoin, isClosing,
      leftSpelled, rightSpelled, Phrase.tokens, List.replicate_zero, List.nil_append]
  · simp only [List.length_cons] at leftNested rightNested
    simp only [Phrase.nesting]
    omega
  · simp only [Phrase.predicate, leftDenoted, rightDenoted]
    rfl
  · have parent := push_without_pending frame 0 (leftOperand.joined join rightOperand)
    rw [Nat.add_zero] at parent
    rw [parent] at afterwards
    exact afterwards

theorem takesOperand_term {final : List Frame} {first : PlacedToken} {rest : List PlacedToken}
    {name code : String} {literal : Option String} {leaf : Predicate}
    (isTerm : first.token = .term name code literal)
    (built : Predicate.ofTerm name code literal = .ok leaf) (depth : below.length ≤ maxDepth)
    (later : run input maxDepth (frame.push leaf :: below) rest = .ok final) :
    TakesOperand input maxDepth final frame below (first :: rest) := by
  refine ⟨.term 0 name code literal, [first], rest, leaf, rfl, ?_, ?_, ?_, later⟩
  · simp [isTerm, Phrase.tokens]
  · simpa [Phrase.nesting] using depth
  · rw [Phrase.predicate, built]
    rfl

/-- A run from a waiting frame to a complete query begins with the tokens of a phrase.  The
induction is on the number of tokens, because a group uses it for both of its operands. -/
theorem takesOperand_of_run {predicate : Predicate} {final : List Frame}
    (complete : finish input final = .ok predicate) :
    ∀ (bound : Nat) (placed : List PlacedToken) (frame : Frame) (below : List Frame),
      placed.length ≤ bound → frame.expectsOperand = true →
      (frame.opening = none → frame.left = none) → below.length ≤ maxDepth →
      run input maxDepth (frame :: below) placed = .ok final →
      TakesOperand input maxDepth final frame below placed := by
  intro bound
  induction bound with
  | zero =>
      intro placed frame below short _ rootEmpty _ success
      rw [Nat.le_zero, List.length_eq_zero_iff] at short
      subst placed
      cases success
      exact absurd complete (finish_waiting rootEmpty)
  | succ bound inductionHypothesis =>
      intro placed frame below short waiting rootEmpty depth success
      cases placed with
      | nil =>
          cases success
          exact absurd complete (finish_waiting rootEmpty)
      | cons first rest =>
          simp only [List.length_cons, Nat.add_le_add_iff_right] at short
          obtain ⟨next, step, later⟩ := run_cons_eq_ok success
          rcases advance_waiting_cases waiting step with
            ⟨isNot, rfl⟩ | ⟨isOpening, room, rfl⟩ | ⟨name, code, literal, leaf, isTerm, built, rfl⟩
          · apply takesOperand_not isNot
            exact inductionHypothesis rest _ below short (by exact waiting) rootEmpty depth later
          · apply takesOperand_group complete isOpening
            · exact inductionHypothesis rest _ _ short rfl (by simp [group]) (by exact room) later
            · intro left join others shorter afterJoin
              exact inductionHypothesis others _ _ (Nat.le_trans shorter short) rfl (by simp [joining])
                (by exact room) afterJoin
          · exact takesOperand_term isTerm built depth later

end Frame

/-! ## Assembling a whole query -/

theorem assemble_eq_run (input : List Char) (maxDepth : Nat) (tokens : List PlacedToken) :
    assemble input maxDepth tokens =
      (Frame.run input maxDepth [.root] tokens).bind (Frame.finish input) :=
  rfl

theorem assemble_phrase (input : List Char) {maxDepth : Nat} {tokens : List PlacedToken}
    {phrase : Phrase} (spelled : tokens.map PlacedToken.token = phrase.tokens)
    (room : phrase.nesting ≤ maxDepth) :
    assemble input maxDepth tokens = phrase.predicate := by
  have whole : Frame.run input maxDepth [.root] (tokens ++ []) = _ :=
    Frame.run_phrase phrase tokens [] .root [] spelled rfl room
  rw [List.append_nil] at whole
  rw [assemble_eq_run, whole]
  cases phrase.predicate <;> rfl

theorem phrase_of_assemble {input : List Char} {maxDepth : Nat} {tokens : List PlacedToken}
    {predicate : Predicate} (success : assemble input maxDepth tokens = .ok predicate) :
    ∃ phrase : Phrase, tokens.map PlacedToken.token = phrase.tokens ∧
      phrase.nesting ≤ maxDepth ∧ phrase.predicate = .ok predicate := by
  rw [assemble_eq_run] at success
  cases ran : Frame.run input maxDepth [.root] tokens with
  | error error => rw [ran] at success; cases success
  | ok final =>
      rw [ran] at success
      have complete : Frame.finish input final = .ok predicate := success
      obtain ⟨phrase, front, rest, operand, rfl, spelled, nested, denoted, afterwards⟩ :=
        Frame.takesOperand_of_run complete tokens.length tokens .root [] (Nat.le_refl _) rfl
          (fun _ => rfl) (Nat.zero_le _) ran
      cases rest with
      | nil =>
          cases afterwards
          cases complete
          exact ⟨phrase, by rw [List.append_nil, spelled], nested, denoted⟩
      | cons first others =>
          obtain ⟨next, step, _⟩ := Frame.run_cons_eq_ok afterwards
          exact absurd step Frame.advance_complete

/-- The tokens assemble to a predicate exactly if they are derivable within the depth limit and the
predicate is the tree of their derivation, of which there is at most one. -/
theorem assemble_eq_ok_iff_derivable (input : List Char) (maxDepth : Nat)
    (tokens : List PlacedToken) (predicate : Predicate) :
    (assemble input maxDepth tokens = .ok predicate ↔
      ∃ phrase : Phrase, tokens.map PlacedToken.token = phrase.tokens ∧
        phrase.nesting ≤ maxDepth ∧ phrase.predicate = .ok predicate) ∧
    (∀ phrase other : Phrase, tokens.map PlacedToken.token = phrase.tokens →
      tokens.map PlacedToken.token = other.tokens → phrase = other) := by
  refine ⟨⟨phrase_of_assemble, ?_⟩, ?_⟩
  · rintro ⟨phrase, spelled, nested, denoted⟩
    rw [assemble_phrase input spelled nested, denoted]
  · intro phrase other spelled otherSpelled
    exact Phrase.tokens_injective (spelled.symm.trans otherSpelled)

end SearchQuery
