import SearchQuery.Predicate.Text
import SearchQuery.Query

/-!
# The grammar of queries

A phrase is a derivation of the grammar

    E ::= Not^k Term | Not^k ( E Join E )

kept as a tree.  `tokens` is the list of tokens that the derivation yields, `characters` its
canonical spelling, `nesting` the greatest number of groups open at once, and `predicate` the tree
that it denotes: every term is built into its leaf, from left to right, and the first term that
cannot be built is the error of the whole phrase.
-/

set_option autoImplicit false

namespace SearchQuery

inductive Phrase where
  | term (negations : Nat) (name code : String) (literal : Option String)
  | group (negations : Nat) (left : Phrase) (join : Join) (right : Phrase)
deriving DecidableEq, Repr

namespace Phrase

def tokens : Phrase → List Token
  | .term negations name code literal =>
      List.replicate negations .not ++ [.term name code literal]
  | .group negations left join right =>
      List.replicate negations .not ++
        (.opening :: left.tokens ++ .join join :: right.tokens ++ [.closing])

def nesting : Phrase → Nat
  | .term _ _ _ _ => 0
  | .group _ left _ right => max left.nesting right.nesting + 1

def predicate : Phrase → Except SearchError Predicate
  | .term negations name code literal =>
      (Predicate.ofTerm name code literal).map fun leaf => leaf.negated negations
  | .group negations left join right =>
      match left.predicate, right.predicate with
      | .error error, _ => .error error
      | .ok _, .error error => .error error
      | .ok first, .ok second => .ok ((first.joined join second).negated negations)

def literalCharacters : Option String → List Char
  | none => []
  | some content => quoteMark :: content.toList ++ [quoteMark]

def characters : Phrase → List Char
  | .term negations name code literal =>
      List.replicate negations '!' ++
        (name.toList ++ '|' :: code.toList ++ ':' :: literalCharacters literal)
  | .group negations left join right =>
      List.replicate negations '!' ++
        ('(' :: left.characters ++ ' ' :: join.keyword.toList ++ ' ' :: right.characters ++ [')'])

def negate : Phrase → Phrase
  | .term negations name code literal => .term (negations + 1) name code literal
  | .group negations left join right => .group (negations + 1) left join right

theorem tokens_negate (phrase : Phrase) : phrase.negate.tokens = .not :: phrase.tokens := by
  cases phrase <;> simp [negate, tokens, List.replicate_succ]

theorem nesting_negate (phrase : Phrase) : phrase.negate.nesting = phrase.nesting := by
  cases phrase <;> rfl

theorem characters_negate (phrase : Phrase) :
    phrase.negate.characters = '!' :: phrase.characters := by
  cases phrase <;> simp [negate, characters, List.replicate_succ]

theorem predicate_negate (phrase : Phrase) :
    phrase.negate.predicate = phrase.predicate.map Predicate.not := by
  cases phrase with
  | term negations name code literal =>
      simp only [negate, predicate]
      cases Predicate.ofTerm name code literal <;> rfl
  | group negations left join right =>
      simp only [negate, predicate]
      cases left.predicate with
      | error error => rfl
      | ok first => cases right.predicate <;> rfl

/-! ## One derivation for a list of tokens -/

/-- The negations in front of a list end where its first other token stands. -/
theorem replicate_not_injective : ∀ (count other : Nat) {head otherHead : Token}
    {rest otherRest : List Token}, head ≠ .not → otherHead ≠ .not →
    List.replicate count Token.not ++ head :: rest =
      List.replicate other Token.not ++ otherHead :: otherRest →
    count = other ∧ head = otherHead ∧ rest = otherRest := by
  intro count
  induction count with
  | zero =>
      intro other head otherHead rest otherRest headPlain otherPlain same
      cases other with
      | zero => simpa using same
      | succ other => simp [List.replicate_succ, headPlain] at same
  | succ count inductionHypothesis =>
      intro other head otherHead rest otherRest headPlain otherPlain same
      cases other with
      | zero => simp [List.replicate_succ, otherPlain.symm] at same
      | succ other =>
          simp only [List.replicate_succ, List.cons_append, List.cons.injEq, true_and] at same
          obtain ⟨countSame, tailSame⟩ := inductionHypothesis other headPlain otherPlain same
          exact ⟨congrArg (· + 1) countSame, tailSame⟩

/-- No phrase is an initial part of another, so what follows a phrase is determined too. -/
theorem tokens_append_injective :
    ∀ (phrase other : Phrase) (rest otherRest : List Token),
      phrase.tokens ++ rest = other.tokens ++ otherRest → phrase = other ∧ rest = otherRest := by
  intro phrase
  induction phrase with
  | term negations name code literal =>
      intro other rest otherRest same
      cases other with
      | term otherNegations otherName otherCode otherLiteral =>
          simp only [tokens, List.append_assoc, List.cons_append, List.nil_append] at same
          obtain ⟨negationsSame, termSame, restSame⟩ :=
            replicate_not_injective negations otherNegations (by simp) (by simp) same
          cases termSame
          exact ⟨by rw [negationsSame], restSame⟩
      | group otherNegations left join right =>
          simp only [tokens, List.append_assoc, List.cons_append, List.nil_append] at same
          obtain ⟨_, impossible, _⟩ :=
            replicate_not_injective negations otherNegations (by simp) (by simp) same
          cases impossible
  | group negations left join right leftInduction rightInduction =>
      intro other rest otherRest same
      cases other with
      | term otherNegations name code literal =>
          simp only [tokens, List.append_assoc, List.cons_append, List.nil_append] at same
          obtain ⟨_, impossible, _⟩ :=
            replicate_not_injective negations otherNegations (by simp) (by simp) same
          cases impossible
      | group otherNegations otherLeft otherJoin otherRight =>
          simp only [tokens, List.append_assoc, List.cons_append, List.nil_append] at same
          obtain ⟨negationsSame, _, innerSame⟩ :=
            replicate_not_injective negations otherNegations (by simp) (by simp) same
          obtain ⟨leftSame, afterLeft⟩ := leftInduction _ _ _ innerSame
          simp only [List.cons.injEq, Token.join.injEq] at afterLeft
          obtain ⟨joinSame, afterJoin⟩ := afterLeft
          obtain ⟨rightSame, afterRight⟩ := rightInduction _ _ _ afterJoin
          simp only [List.cons.injEq, true_and] at afterRight
          rw [negationsSame, leftSame, joinSame, rightSame]
          exact ⟨rfl, afterRight⟩

theorem tokens_injective {phrase other : Phrase} (same : phrase.tokens = other.tokens) :
    phrase = other := by
  apply (tokens_append_injective phrase other [] [] _).1
  rw [same]

end Phrase

end SearchQuery
