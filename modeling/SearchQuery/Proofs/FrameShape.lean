import SearchQuery.Proofs.Faults

/-!
# The shape of the stack

In every run the frame of the query stands at the bottom and nowhere else, each frame fills its
places from left to right, and a frame that has a group open above it waits for the operand which
that group will become.  So an operand never takes a place that is taken, and nothing is ever asked
of a stack without frames or of a query without an expression.
-/

set_option autoImplicit false

namespace SearchQuery

namespace Frame

variable {input : List Char} {maxDepth : Nat} {stack next : List Frame} {placed : PlacedToken}

/-! ## Frames -/

/-- The places of a frame are filled from left to right, and only a group is joined. -/
structure InOrder (frame : Frame) : Prop where
  joined : frame.join ≠ none → frame.left ≠ none
  followed : frame.right ≠ none → frame.join ≠ none
  bracketed : frame.join ≠ none → frame.opening ≠ none

/-- The later frame is the same group and has all that the earlier one holds. -/
structure Keeps (earlier later : Frame) : Prop where
  opening : later.opening = earlier.opening
  negations : later.negations = earlier.negations
  left : ∀ operand ∈ earlier.left, later.left = some operand
  join : ∀ join ∈ earlier.join, later.join = some join
  right : ∀ operand ∈ earlier.right, later.right = some operand

theorem inOrder_root : root.InOrder := by
  refine ⟨?_, ?_, ?_⟩ <;> intro filled <;> exact absurd rfl filled

theorem inOrder_group (position negations : Nat) : (group position negations).InOrder := by
  refine ⟨?_, ?_, ?_⟩ <;> intro filled <;> exact absurd rfl filled

theorem expectsOperand_iff (frame : Frame) :
    frame.expectsOperand = true ↔
      frame.left = none ∨ frame.join ≠ none ∧ frame.right = none := by
  simp [expectsOperand, Option.isSome_iff_ne_none]

theorem push_of_left_none {frame : Frame} (operand : Predicate) (free : frame.left = none) :
    frame.push operand =
      { frame with pending := 0, left := some (operand.negated frame.pending) } := by
  simp [push, free]

theorem push_of_left_some {frame : Frame} (operand : Predicate) (taken : frame.left ≠ none) :
    frame.push operand =
      { frame with pending := 0, right := some (operand.negated frame.pending) } := by
  simp [push, taken]

theorem InOrder.push {frame : Frame} (inOrder : frame.InOrder) (operand : Predicate)
    (waiting : frame.expectsOperand = true) : (frame.push operand).InOrder := by
  by_cases free : frame.left = none
  · have unjoined : frame.join = none := by
      by_contra joined
      exact inOrder.joined joined free
    rw [push_of_left_none operand free]
    refine ⟨?_, inOrder.followed, inOrder.bracketed⟩
    intro joined
    exact absurd unjoined joined
  · obtain ⟨joined, _⟩ := ((expectsOperand_iff frame).mp waiting).resolve_left free
    rw [push_of_left_some operand free]
    refine ⟨inOrder.joined, ?_, inOrder.bracketed⟩
    intro _
    exact joined

/-- A frame that waits for an operand loses nothing when it is given one. -/
theorem keeps_push {frame : Frame} (operand : Predicate)
    (waiting : frame.expectsOperand = true) : frame.Keeps (frame.push operand) := by
  by_cases free : frame.left = none
  · rw [push_of_left_none operand free]
    refine ⟨rfl, rfl, ?_, fun _ found => found, fun _ found => found⟩
    intro other found
    rw [free] at found
    cases found
  · obtain ⟨_, noRight⟩ := ((expectsOperand_iff frame).mp waiting).resolve_left free
    rw [push_of_left_some operand free]
    refine ⟨rfl, rfl, fun _ found => found, fun _ found => found, ?_⟩
    intro other found
    rw [noRight] at found
    cases found

/-! ## Stacks -/

/-- Every frame is in order, and all but the top one wait for an operand and for nothing else. -/
structure Tidy (stack : List Frame) : Prop where
  inOrder : ∀ frame ∈ stack, frame.InOrder
  waiting : ∀ frame ∈ stack.tail, frame.expectsOperand = true ∧ frame.pending = 0

structure WellShaped (stack : List Frame) : Prop extends Tidy stack where
  nonempty : stack ≠ []
  /-- A frame is that of the query exactly if no frame is below it. -/
  bottom : ∀ above frame below, stack = above ++ frame :: below →
    (frame.opening = none ↔ below = [])

theorem Tracks.opening_eq_none_iff {opened : List Nat} {above below : List Frame} {frame : Frame}
    (tracks : Tracks maxDepth (above ++ frame :: below) opened) :
    frame.opening = none ↔ below = [] := by
  have openings := tracks.openings
  rw [List.map_append, List.map_cons] at openings
  constructor
  · intro unopened
    by_contra others
    have stillBelow : below.map Frame.opening ≠ [] := by simpa using others
    have groups := congrArg List.dropLast openings
    rw [List.dropLast_append_of_ne_nil (List.cons_ne_nil _ _),
      List.dropLast_cons_of_ne_nil stillBelow, List.dropLast_concat] at groups
    have opensGroup : frame.opening ∈ opened.map some := by
      rw [← groups]
      exact List.mem_append_right _ List.mem_cons_self
    rw [unopened] at opensGroup
    simp at opensGroup
  · rintro rfl
    have last := congrArg List.getLast? openings
    simpa using last

theorem tidy_cons {frame : Frame} {below : List Frame} :
    Tidy (frame :: below) ↔ frame.InOrder ∧ (∀ other ∈ below, other.InOrder) ∧
      ∀ other ∈ below, other.expectsOperand = true ∧ other.pending = 0 := by
  constructor
  · rintro ⟨inOrder, waiting⟩
    exact ⟨inOrder frame List.mem_cons_self,
      fun other member => inOrder other (List.mem_cons_of_mem frame member), waiting⟩
  · rintro ⟨top, others, waiting⟩
    exact ⟨List.forall_mem_cons.mpr ⟨top, others⟩, waiting⟩

theorem Tidy.step (tidy : Tidy stack) (step : Step maxDepth stack placed next) : Tidy next := by
  cases step with
  | not =>
      obtain ⟨top, below⟩ := tidy_cons.mp tidy
      exact tidy_cons.mpr ⟨⟨top.joined, top.followed, top.bracketed⟩, below⟩
  | opening waiting =>
      obtain ⟨top, others, below⟩ := tidy_cons.mp tidy
      refine tidy_cons.mpr ⟨inOrder_group _ _, ?_, ?_⟩
      · exact List.forall_mem_cons.mpr ⟨⟨top.joined, top.followed, top.bracketed⟩, others⟩
      · exact List.forall_mem_cons.mpr ⟨⟨waiting, rfl⟩, below⟩
  | term waiting =>
      obtain ⟨top, below⟩ := tidy_cons.mp tidy
      exact tidy_cons.mpr ⟨top.push _ waiting, below⟩
  | join opened operand =>
      obtain ⟨top, below⟩ := tidy_cons.mp tidy
      refine tidy_cons.mpr ⟨⟨fun _ => operand, ?_, fun _ => opened⟩, below⟩
      intro _ unjoined
      cases unjoined
  | closing =>
      obtain ⟨_, others, below⟩ := tidy_cons.mp tidy
      obtain ⟨parent, rest⟩ := List.forall_mem_cons.mp others
      obtain ⟨⟨waiting, _⟩, restBelow⟩ := List.forall_mem_cons.mp below
      exact tidy_cons.mpr ⟨parent.push _ waiting, rest, restBelow⟩

theorem Tidy.run :
    ∀ {tokens : List PlacedToken} {stack final : List Frame}, Tidy stack →
      Frame.run input maxDepth stack tokens = .ok final → Tidy final := by
  intro tokens
  induction tokens with
  | nil =>
      intro stack final tidy success
      cases success
      exact tidy
  | cons first rest inductionHypothesis =>
      intro stack final tidy success
      obtain ⟨next, stepped, later⟩ := run_cons_eq_ok success
      exact inductionHypothesis (tidy.step (step_of_advance stepped)) later

theorem wellShaped_of_run {tokens : List PlacedToken} {final : List Frame}
    (success : run input maxDepth [root] tokens = .ok final) : WellShaped final := by
  have tracks := tracks_of_run success
  have start : Tidy [root] :=
    tidy_cons.mpr ⟨inOrder_root, by simp, by simp⟩
  refine ⟨start.run success, List.ne_nil_of_length_eq_add_one tracks.length_eq, ?_⟩
  rintro above frame below rfl
  exact tracks.opening_eq_none_iff

/-! ## Steps -/

/-- The frame to which a token brings an operand: a term to the top frame, and the end of a group to
the frame below. -/
def receiver? (stack : List Frame) : Token → Option Frame
  | .term _ _ _ => stack.head?
  | .closing => stack.tail.head?
  | _ => none

/-- A step changes one frame, which keeps what it holds, and opens or closes at most the group above
that frame. -/
inductive Grows : List Frame → List Frame → Prop where
  | top {earlier later : Frame} {below : List Frame} (keeps : earlier.Keeps later) :
      Grows (earlier :: below) (later :: below)
  | opened {earlier later : Frame} {below : List Frame} (position negations : Nat)
      (keeps : earlier.Keeps later) :
      Grows (earlier :: below) (group position negations :: later :: below)
  | closed {closing earlier later : Frame} {below : List Frame} (keeps : earlier.Keeps later) :
      Grows (closing :: earlier :: below) (later :: below)

theorem WellShaped.receiver_waits (shaped : WellShaped stack)
    (step : Step maxDepth stack placed next) :
    ∀ receiver ∈ receiver? stack placed.token, receiver.expectsOperand = true ∧
      ∃ operand below, next = receiver.push operand :: below := by
  intro receiver found
  cases step with
  | not => cases found
  | opening => cases found
  | join => cases found
  | term waiting =>
      cases found
      exact ⟨waiting, _, _, rfl⟩
  | closing =>
      cases found
      exact ⟨(shaped.waiting _ List.mem_cons_self).1, _, _, rfl⟩

theorem WellShaped.grows (shaped : WellShaped stack) (step : Step maxDepth stack placed next) :
    Grows stack next := by
  cases step with
  | not => exact .top ⟨rfl, rfl, fun _ found => found, fun _ found => found, fun _ found => found⟩
  | opening =>
      exact .opened _ _ ⟨rfl, rfl, fun _ found => found, fun _ found => found, fun _ found => found⟩
  | term waiting => exact .top (keeps_push _ waiting)
  | join _ _ _ unjoined =>
      refine .top ⟨rfl, rfl, fun _ found => found, ?_, fun _ found => found⟩
      intro join found
      rw [unjoined] at found
      cases found
  | closing => exact .closed (keeps_push _ (shaped.waiting _ List.mem_cons_self).1)

/-- A closing parenthesis is refused as unbalanced only where no group is open. -/
theorem WellShaped.unbalancedClose {position : Nat} {fragment : String}
    (shaped : WellShaped stack)
    (refused : advance input maxDepth stack placed =
      .error (.parse position fragment .unbalancedClose)) :
    placed.token = .closing ∧ ∃ frame, stack = [frame] ∧ frame.opening = none := by
  rcases refuses_of_advance shaped.nonempty refused with
    ⟨fault, located, refuses⟩ | ⟨name, code, literal, unbuilt⟩
  · cases located
    obtain ⟨isClosing, outside⟩ := refuses
    refine ⟨isClosing, ?_⟩
    obtain ⟨frame, below, rfl⟩ := List.exists_cons_of_ne_nil shaped.nonempty
    have bottom := shaped.bottom [] frame below rfl
    rcases outside with unopened | single
    · obtain rfl := bottom.mp unopened
      exact ⟨frame, rfl, unopened⟩
    · have alone : below = [] := by simpa using single
      rw [alone] at bottom ⊢
      exact ⟨frame, rfl, bottom.mpr rfl⟩
  · exact absurd unbuilt (Predicate.notOfText_ofTerm name code literal _ _ _)

/-! ## The end of a run -/

theorem left_push (frame : Frame) (operand : Predicate) : (frame.push operand).left ≠ none := by
  by_cases free : frame.left = none
  · rw [push_of_left_none operand free]
    exact Option.some_ne_none _
  · rw [push_of_left_some operand free]
    exact free

/-- After a token the query has an operand, or negations that wait for one, or an open group. -/
theorem begun_of_step {frame : Frame} (step : Step maxDepth stack placed next)
    (single : next = [frame]) : frame.left ≠ none ∨ 0 < frame.pending := by
  cases step with
  | not =>
      cases single
      exact .inr (Nat.succ_pos _)
  | opening => cases single
  | term =>
      cases single
      exact .inl (left_push _ _)
  | join _ operand =>
      cases single
      exact .inl operand
  | closing =>
      cases single
      exact .inl (left_push _ _)

theorem finish_ne_emptyQuery {tokens : List PlacedToken} {final : List Frame}
    (nonempty : tokens ≠ []) (success : run input maxDepth [root] tokens = .ok final)
    (position : Nat) (fragment : String) :
    finish input final ≠ .error (.parse position fragment .emptyQuery) := by
  have shaped := wellShaped_of_run success
  obtain ⟨frame, below, rfl⟩ := List.exists_cons_of_ne_nil shaped.nonempty
  intro failed
  rw [finish] at failed
  split at failed
  · cases failed
  next unopened =>
    obtain rfl := (shaped.bottom [] frame below rfl).mp unopened
    obtain ⟨before, last, rfl⟩ := (List.eq_nil_or_concat' tokens).resolve_left nonempty
    rw [run_append] at success
    cases ran : run input maxDepth [root] before with
    | error error =>
        rw [ran] at success
        cases success
    | ok reached =>
        rw [ran] at success
        obtain ⟨next, stepped, ended⟩ := run_cons_eq_ok success
        cases ended
        have begun := begun_of_step (step_of_advance stepped) rfl
        split at failed
        · cases failed
        next settled =>
          split at failed
          next noOperand => exact begun.elim (fun operand => operand noOperand) settled
          next => cases failed

end Frame

theorem tokens_ne_nil_of_scan {text : List Char} {tokens : List PlacedToken}
    (visible : text.all Text.isBlank = false) (scanned : scan text = .ok tokens) : tokens ≠ [] := by
  rintro rfl
  obtain ⟨trailing, pieces, regular, rfl, placed⟩ := exists_pieces_of_scanFrom scanned
  cases pieces with
  | nil =>
      have blank : trailing.all Text.isBlank = true := List.all_eq_true.mpr regular
      rw [Piece.text, blank] at visible
      cases visible
  | cons piece rest => cases placed

theorem assemble_ne_emptyQuery {text : List Char} {tokens : List PlacedToken} {maxDepth : Nat}
    (nonempty : tokens ≠ []) (position : Nat) (fragment : String) :
    assemble text maxDepth tokens ≠ .error (.parse position fragment .emptyQuery) := by
  intro failed
  rw [assemble_eq_run] at failed
  cases ran : Frame.run text maxDepth [.root] tokens with
  | ok final =>
      rw [ran] at failed
      exact Frame.finish_ne_emptyQuery nonempty ran position fragment failed
  | error error =>
      rw [ran] at failed
      cases failed
      obtain ⟨before, refused, _, reached, _, success, refusal⟩ := Frame.exists_refused_of_run ran
      rcases Frame.refuses_of_advance (Frame.wellShaped_of_run success).nonempty refusal with
        ⟨fault, located, refuses⟩ | ⟨name, code, literal, unbuilt⟩
      · cases located
        exact refuses
      · exact Predicate.notOfText_ofTerm name code literal _ _ _ unbuilt

namespace Frame

/-- While the tokens of a text that is not blank are put together, the stack keeps its shape.  A
token brings an operand only to a frame that expects one, and takes nothing from any frame but the
group that it closes.  A group has a frame below it, a parenthesis is unbalanced only before the
frame of the query itself, and at the end this frame is there and the query is not empty. -/
theorem stack_keeps_shape {text : List Char} {tokens : List PlacedToken} (maxDepth : Nat)
    (visible : text.all Text.isBlank = false) (scanned : scan text = .ok tokens) :
    (∀ before after reached, tokens = before ++ after →
      run text maxDepth [root] before = .ok reached →
      WellShaped reached ∧
      (∀ group below, reached = group :: below → group.opening ≠ none → below ≠ []) ∧
      ∀ placed rest, after = placed :: rest →
        (∀ next, advance text maxDepth reached placed = .ok next →
          Grows reached next ∧
          ∀ receiver ∈ receiver? reached placed.token, receiver.expectsOperand = true ∧
            ∃ operand below, next = receiver.push operand :: below) ∧
        ∀ position fragment,
          advance text maxDepth reached placed =
              .error (.parse position fragment .unbalancedClose) →
            placed.token = .closing ∧ ∃ frame, reached = [frame] ∧ frame.opening = none) ∧
    (∀ final, run text maxDepth [root] tokens = .ok final → WellShaped final ∧
      ∀ position fragment,
        finish text final ≠ .error (.parse position fragment .emptyQuery)) ∧
    ∀ position fragment,
      assemble text maxDepth tokens ≠ .error (.parse position fragment .emptyQuery) := by
  have nonempty := tokens_ne_nil_of_scan visible scanned
  refine ⟨?_, ?_, assemble_ne_emptyQuery nonempty⟩
  · intro before after reached _ success
    have shaped := wellShaped_of_run success
    refine ⟨shaped, ?_, ?_⟩
    · intro group below stacked opened alone
      exact opened ((shaped.bottom [] group below stacked).mpr alone)
    · intro placed rest _
      refine ⟨?_, fun position fragment => shaped.unbalancedClose⟩
      intro next stepped
      have step := step_of_advance stepped
      exact ⟨shaped.grows step, shaped.receiver_waits step⟩
  · intro final success
    exact ⟨wellShaped_of_run success, finish_ne_emptyQuery nonempty success⟩

def sampleNegated : List Char := "!(a|nn: AND !(b|nn: OR c|nn:))".toList

/-- The stack when the inner group of the sample has just been opened. -/
def sampleStack : List Frame :=
  [group 13 1, ⟨some 1, 1, 0, some (.bare "a" .isNotNull), some .and, none⟩, root]

/-- In the middle of the sample the outer group waits for its second operand, and the next term goes
to the inner group. -/
theorem stack_keeps_shape_negated :
    ∃ before after placed next, scan sampleNegated = .ok (before ++ placed :: after) ∧
      run sampleNegated 2 [root] before = .ok sampleStack ∧ WellShaped sampleStack ∧
      advance sampleNegated 2 sampleStack placed = .ok next ∧ Grows sampleStack next ∧
      receiver? sampleStack placed.token = some (group 13 1) ∧
      ∃ operand below, next = (group 13 1).push operand :: below := by
  let before : List PlacedToken := [⟨0, .not⟩, ⟨1, .opening⟩, ⟨2, .term "a" "nn" none⟩,
    ⟨8, .join .and⟩, ⟨12, .not⟩, ⟨13, .opening⟩]
  let after : List PlacedToken := [⟨20, .join .or⟩, ⟨23, .term "c" "nn" none⟩, ⟨28, .closing⟩,
    ⟨29, .closing⟩]
  let placed : PlacedToken := ⟨14, .term "b" "nn" none⟩
  have scanned : scan sampleNegated = .ok (before ++ placed :: after) := by decide +kernel
  have reached : run sampleNegated 2 [root] before = .ok sampleStack := by decide +kernel
  have stepped : advance sampleNegated 2 sampleStack placed =
      .ok ((group 13 1).push (.bare "b" .isNotNull) :: sampleStack.tail) := by decide +kernel
  obtain ⟨during, _⟩ := stack_keeps_shape 2 (by decide +kernel) scanned
  obtain ⟨shaped, _, steps⟩ := during before _ sampleStack rfl reached
  obtain ⟨grows, receives⟩ := (steps placed after rfl).1 _ stepped
  exact ⟨before, after, placed, _, scanned, reached, shaped, stepped, grows, rfl,
    (receives _ rfl).2⟩

end Frame

end SearchQuery
