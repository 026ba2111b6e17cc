import SearchQuery.Predicate.Text
import SearchQuery.Token

/-!
# Queries

Reading a query text under limits on its length and on the nesting of its groups. A blank text is
the search without restriction; any other is divided into tokens, which spell one predicate.

Every conjunction and disjunction stands in parentheses, so no precedence has to be resolved. The
open groups are kept as a stack of frames, the innermost first; the last frame is the query itself,
which has no parentheses. Each token changes the top of the stack and nothing else.
-/

set_option autoImplicit false

namespace SearchQuery

structure Frame where
  /-- The position of the opening parenthesis; the query itself has none. -/
  opening : Option Nat
  negations : Nat
  /-- The negations that wait for the next operand. -/
  pending : Nat := 0
  left : Option Predicate := none
  join : Option Join := none
  right : Option Predicate := none
deriving DecidableEq, Repr

namespace Frame

def root : Frame := ⟨none, 0, 0, none, none, none⟩

def group (position negations : Nat) : Frame := ⟨some position, negations, 0, none, none, none⟩

/-- An operand is missing: the first one, or the one after the joining word. -/
def expectsOperand (frame : Frame) : Bool :=
  frame.left.isNone || (frame.join.isSome && frame.right.isNone)

def refusal (frame : Frame) : ParseFault :=
  match frame.opening, frame.join with
  | none, _ => .trailingInput
  | some _, none => .missingJoin
  | some _, some _ => .overfullGroup

/-- Puts an operand, under the negations that wait for it, into the first free place. -/
def push (frame : Frame) (operand : Predicate) : Frame :=
  let negated := operand.negated frame.pending
  if frame.left.isNone then
    { frame with pending := 0, left := some negated }
  else
    { frame with pending := 0, right := some negated }

def combined (frame : Frame) : Except ParseFault Predicate :=
  match frame.left, frame.join, frame.right with
  | some left, some join, some right => .ok ((left.joined join right).negated frame.negations)
  | some _, some join, none => .error (.missingAfter join)
  | some _, none, _ => .error .groupWithoutJoin
  | none, _, _ => .error .emptyGroup

def advance (input : List Char) (maxDepth : Nat) (stack : List Frame) (placed : PlacedToken) :
    Except SearchError (List Frame) :=
  let fail (fault : ParseFault) : Except SearchError (List Frame) :=
    .error (.located input placed.position fault)
  match stack with
  | [] => fail .unbalancedClose
  | frame :: below =>
    match placed.token with
    | .not =>
      if frame.expectsOperand then
        .ok ({ frame with pending := frame.pending + 1 } :: below)
      else
        fail frame.refusal
    | .opening =>
      if !frame.expectsOperand then
        fail frame.refusal
      else if stack.length > maxDepth then
        fail (.tooDeep maxDepth)
      else
        .ok (.group placed.position frame.pending :: { frame with pending := 0 } :: below)
    | .term name code literal =>
      if frame.expectsOperand then
        match Predicate.ofTerm name code literal with
        | .error error => .error error
        | .ok leaf => .ok (frame.push leaf :: below)
      else
        fail frame.refusal
    | .join join =>
      if frame.opening.isNone then
        fail (.joinOutsideGroup join)
      else if frame.left.isNone || frame.pending > 0 then
        fail (.missingBefore join)
      else if frame.join.isSome then
        fail frame.refusal
      else
        .ok ({ frame with join := some join } :: below)
    | .word text =>
      if frame.opening.isSome && frame.left.isSome && frame.join.isNone then
        fail (.unknownJoin text)
      else
        fail (.unexpectedWord text)
    | .closing =>
      if frame.opening.isNone then
        fail .unbalancedClose
      else if frame.pending > 0 then
        fail .danglingNot
      else
        match frame.combined with
        | .error fault => fail fault
        | .ok group =>
          match below with
          | [] => fail .unbalancedClose
          | parent :: rest => .ok (parent.push group :: rest)

def finish (input : List Char) (stack : List Frame) : Except SearchError Predicate :=
  match stack with
  | [] => .error (.located input 0 .emptyQuery)
  | frame :: _ =>
    match frame.opening with
    | some position => .error (.located input position .unbalancedOpen)
    | none =>
      if frame.pending > 0 then
        .error (.located input input.length .danglingNot)
      else
        match frame.left with
        | none => .error (.located input 0 .emptyQuery)
        | some predicate => .ok predicate

end Frame

def assemble (input : List Char) (maxDepth : Nat) (tokens : List PlacedToken) :
    Except SearchError Predicate := do
  let stack ← tokens.foldlM (Frame.advance input maxDepth) [.root]
  Frame.finish input stack

structure Limits where
  maxLength : Nat := 4096
  maxDepth : Nat := 64
deriving DecidableEq, Repr

namespace Search

def parseCharacters (limits : Limits) (input : List Char) : Except SearchError Search :=
  if input.length > limits.maxLength then
    .error (.located input limits.maxLength (.tooLong limits.maxLength))
  else if input.all Text.isBlank then
    .ok .all
  else
    match scan input with
    | .error flaw => .error (.located input flaw.position flaw.fault)
    | .ok tokens => (assemble input limits.maxDepth tokens).map .only

/-- Reads a query: its length is checked first, then all of its tokens, then how they group. -/
def parse (limits : Limits) (text : String) : Except SearchError Search :=
  parseCharacters limits text.toList

end Search

end SearchQuery
