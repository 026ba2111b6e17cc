import SearchQuery.Proofs.Skeleton
import SearchQuery.Proofs.Sql.Written

/-!
# The text of a condition and the values of its filter

Values do not reach the text of a condition, and all else of the filter can be read off the text,
whatever characters its attributes hold.  The one thing besides the values that the text does not
show is where a pattern allows other text, since the wildcards are bound with the value.
-/

set_option autoImplicit false

namespace SearchQuery

/-! ## Conditions with one text -/

theorem Text.dottedParts_eq_splitOn (text : List Char) :
    Text.dottedParts text = text.splitOn '.' := by
  induction text with
  | nil => rfl
  | cons c rest inductionHypothesis =>
      rw [dottedParts, List.splitOn_cons_eq_if_modifyHead, inductionHypothesis]
      by_cases isDot : c = '.'
      · simp [isDot]
      · obtain ⟨first, others, divided⟩ :=
          List.exists_cons_of_ne_nil (List.splitOn_ne_nil '.' rest)
        simp [isDot, divided]

theorem Document.path_injective {name other : String}
    (samePath : Document.path name = Document.path other) : name = other := by
  have sameParts : Text.dottedParts name.toList = Text.dottedParts other.toList :=
    (List.map_inj_right fun _ _ sameText => String.ofList_injective sameText).mp samePath
  rw [Text.dottedParts_eq_splitOn, Text.dottedParts_eq_splitOn] at sameParts
  have sameCharacters := congrArg (['.'].intercalate ·) sameParts
  simp only [List.intercalate_splitOn] at sameCharacters
  exact String.toList_inj.mp sameCharacters

namespace Condition

theorem clause_injective :
    ∀ {condition other : Condition}, condition.clause = other.clause → condition = other := by
  intro condition
  induction condition with
  | compare name sign placeholder =>
      intro other sameClause
      cases other <;> simp only [clause, Sql.Clause.compare.injEq, Sql.Operand.column.injEq,
        reduceCtorEq] at sameClause
      rw [Document.path_injective sameClause.1, sameClause.2.1, sameClause.2.2]
  | like name negated placeholder =>
      intro other sameClause
      cases other <;> simp only [clause, Sql.Clause.like.injEq, Sql.Operand.lower.injEq,
        reduceCtorEq] at sameClause
      rw [Document.path_injective sameClause.1, sameClause.2.1, sameClause.2.2]
  | within name placeholders =>
      intro other sameClause
      cases other <;> simp only [clause, Sql.Clause.within.injEq, Sql.Operand.column.injEq,
        reduceCtorEq] at sameClause
      rw [Document.path_injective sameClause.1, sameClause.2]
  | isNull name =>
      intro other sameClause
      cases other <;> simp only [clause, Sql.Clause.null.injEq, Sql.Operand.column.injEq,
        reduceCtorEq, and_true, and_false] at sameClause
      rw [Document.path_injective sameClause]
  | isNotNull name =>
      intro other sameClause
      cases other <;> simp only [clause, Sql.Clause.null.injEq, Sql.Operand.column.injEq,
        reduceCtorEq, and_true, and_false] at sameClause
      rw [Document.path_injective sameClause]
  | and left right leftInjective rightInjective =>
      intro other sameClause
      cases other <;> simp only [clause, Sql.Clause.and.injEq, reduceCtorEq] at sameClause
      rw [leftInjective sameClause.1, rightInjective sameClause.2]
  | or left right leftInjective rightInjective =>
      intro other sameClause
      cases other <;> simp only [clause, Sql.Clause.or.injEq, reduceCtorEq] at sameClause
      rw [leftInjective sameClause.1, rightInjective sameClause.2]
  | not inner innerInjective =>
      intro other sameClause
      cases other <;> simp only [clause, Sql.Clause.not.injEq, reduceCtorEq] at sameClause
      rw [innerInjective sameClause]

theorem eq_of_text_eq {condition other : Condition} (nonempty : condition.ListsNonempty)
    (otherNonempty : other.ListsNonempty) (sameText : condition.text = other.text) :
    condition = other := by
  have read := ofText?_text nonempty
  rw [sameText, ofText?_text otherNonempty] at read
  exact (clause_injective (Option.some.inj read)).symm

end Condition

/-! ## Skeletons with one condition -/

/-- The comparison without the place at which its pattern stands. -/
def Comparison.withoutAnchor : Comparison → Comparison
  | .startsWith => .like
  | .endsWith => .like
  | other => other

namespace Skeleton

def withoutAnchors : Skeleton → Skeleton
  | .comparison name kind => .comparison name kind.withoutAnchor
  | .membership name count => .membership name count
  | .isNull name => .isNull name
  | .isNotNull name => .isNotNull name
  | .and left right => .and left.withoutAnchors right.withoutAnchors
  | .or left right => .or left.withoutAnchors right.withoutAnchors
  | .not inner => .not inner.withoutAnchors

end Skeleton

def Sign.comparison : Sign → Comparison
  | .equal => .equal
  | .notEqual => .notEqual
  | .greaterThan => .greaterThan
  | .greaterOrEqual => .greaterOrEqual
  | .lessThan => .lessThan
  | .lessOrEqual => .lessOrEqual

/-- What a condition tells of the filter that it came from. -/
def Condition.skeleton : Condition → Skeleton
  | .compare name sign _ => .comparison name sign.comparison
  | .like name negated _ => .comparison name (if negated then .notLike else .like)
  | .within name placeholders => .membership name placeholders.length
  | .isNull name => .isNull name
  | .isNotNull name => .isNotNull name
  | .and left right => .and left.skeleton right.skeleton
  | .or left right => .or left.skeleton right.skeleton
  | .not inner => .not inner.skeleton

namespace Skeleton

theorem skeleton_condition :
    ∀ (skeleton : Skeleton) (used : Nat),
      (skeleton.condition used).skeleton = skeleton.withoutAnchors := by
  intro skeleton
  induction skeleton with
  | comparison name kind =>
      intro used
      cases kind <;> rfl
  | membership name count =>
      intro used
      simp [condition, Condition.skeleton, withoutAnchors, placeholdersAfter]
  | isNull name =>
      intro used
      rfl
  | isNotNull name =>
      intro used
      rfl
  | and left right leftRead rightRead =>
      intro used
      rw [condition, Condition.skeleton, leftRead, rightRead, withoutAnchors]
  | or left right leftRead rightRead =>
      intro used
      rw [condition, Condition.skeleton, leftRead, rightRead, withoutAnchors]
  | not inner innerRead =>
      intro used
      rw [condition, Condition.skeleton, innerRead, withoutAnchors]

theorem parameterCount_withoutAnchors (skeleton : Skeleton) :
    skeleton.withoutAnchors.parameterCount = skeleton.parameterCount := by
  induction skeleton with
  | and left right leftCount rightCount =>
      rw [withoutAnchors, parameterCount, leftCount, rightCount, parameterCount]
  | or left right leftCount rightCount =>
      rw [withoutAnchors, parameterCount, leftCount, rightCount, parameterCount]
  | not inner innerCount => exact innerCount
  | _ => rfl

theorem condition_withoutAnchors :
    ∀ (skeleton : Skeleton) (used : Nat),
      skeleton.withoutAnchors.condition used = skeleton.condition used := by
  intro skeleton
  induction skeleton with
  | comparison name kind =>
      intro used
      cases kind <;> rfl
  | and left right leftSame rightSame =>
      intro used
      rw [withoutAnchors, condition, leftSame, rightSame, parameterCount_withoutAnchors, condition]
  | or left right leftSame rightSame =>
      intro used
      rw [withoutAnchors, condition, leftSame, rightSame, parameterCount_withoutAnchors, condition]
  | not inner innerSame =>
      intro used
      rw [withoutAnchors, condition, innerSame, condition]
  | _ =>
      intro used
      rfl

theorem condition_eq_iff (first second : Skeleton) (used : Nat) :
    first.condition used = second.condition used ↔
      first.withoutAnchors = second.withoutAnchors := by
  constructor
  · intro sameCondition
    rw [← skeleton_condition first used, sameCondition, skeleton_condition]
  · intro sameShape
    rw [← condition_withoutAnchors first, sameShape, condition_withoutAnchors]

end Skeleton

namespace Filter

/-- The text of a condition shows all of a filter but its values and the places at which its
patterns stand, and it shows nothing of these. -/
theorem text_eq_iff_withoutAnchors_eq {first second : Filter} {used : Nat}
    {firstBound secondBound : BoundCondition} (firstBuilt : first.toCondition used = .ok firstBound)
    (secondBuilt : second.toCondition used = .ok secondBound) :
    firstBound.condition.text = secondBound.condition.text ↔
      first.skeleton.withoutAnchors = second.skeleton.withoutAnchors := by
  have firstNonempty := toCondition_listsNonempty firstBuilt
  have secondNonempty := toCondition_listsNonempty secondBuilt
  obtain ⟨_, rfl⟩ := (toCondition_eq_ok_iff first used firstBound).mp firstBuilt
  obtain ⟨_, rfl⟩ := (toCondition_eq_ok_iff second used secondBound).mp secondBuilt
  rw [← Skeleton.condition_eq_iff first.skeleton second.skeleton used]
  exact ⟨Condition.eq_of_text_eq firstNonempty secondNonempty, congrArg Condition.text⟩

/-- A filter whose attributes hold quotes, dots and marks of the text, or nothing. -/
def hostileFilter (kind : Comparison) (value member : Value) : Filter :=
  .or (.comparison "a\".\"b\" = $1) OR (" kind value) (.membership "" [member])

theorem text_eq_iff_withoutAnchors_eq_hostile :
    ∃ first second third : BoundCondition,
      (hostileFilter .endsWith (.string "x") (.long 7)).toCondition 2 = .ok first ∧
      (hostileFilter .startsWith (.integer 5) (.boolean true)).toCondition 2 = .ok second ∧
      (hostileFilter .notLike (.integer 5) (.boolean true)).toCondition 2 = .ok third ∧
      first.condition.text = second.condition.text ∧
      first.condition.text ≠ third.condition.text := by
  have built : ∀ kind value member, ∃ bound,
      (hostileFilter kind value member).toCondition 2 = .ok bound := by
    intro kind value member
    exact ⟨_, (toCondition_eq_ok_iff _ 2 _).mpr ⟨rfl, rfl⟩⟩
  obtain ⟨first, firstBuilt⟩ := built .endsWith (.string "x") (.long 7)
  obtain ⟨second, secondBuilt⟩ := built .startsWith (.integer 5) (.boolean true)
  obtain ⟨third, thirdBuilt⟩ := built .notLike (.integer 5) (.boolean true)
  refine ⟨first, second, third, firstBuilt, secondBuilt, thirdBuilt, ?_, ?_⟩
  · exact (text_eq_iff_withoutAnchors_eq firstBuilt secondBuilt).mpr rfl
  · intro sameText
    have sameShape := (text_eq_iff_withoutAnchors_eq firstBuilt thirdBuilt).mp sameText
    exact absurd sameShape (by decide)

/-- The text does not determine the comparison: a pattern at the start has the text of one that may
stand anywhere. -/
theorem text_without_anchor :
    ¬∀ (first second : Filter) (used : Nat) (firstBound secondBound : BoundCondition),
      first.toCondition used = .ok firstBound → second.toCondition used = .ok secondBound →
      (firstBound.condition.text = secondBound.condition.text ↔
        first.skeleton = second.skeleton) := by
  intro determined
  have sameSkeleton := (determined (.comparison "a" .like (.string "x"))
    (.comparison "a" .startsWith (.string "x")) 0 _ _ rfl rfl).mp rfl
  exact absurd sameSkeleton (by decide)

end Filter

end SearchQuery
