import Mathlib.Algebra.Group.Nat.Defs
import SearchQuery.Proofs.Rearrangement
import SearchQuery.Proofs.Sql.Meaning
import SearchQuery.Proofs.Sql.Written

/-!
# A database keeps the rows whose documents satisfy the filter

The text of a filter's condition, read and evaluated on the row of a document, has the truth that
the filter has of the document.  This needs every tested attribute to have at most one value in the
document, and that of the kind of the values that it is compared with.
-/

set_option autoImplicit false

namespace SearchQuery.Sql

/-! ## Patterns -/

theorem likeMatch_percent_iff (pattern text : List Char) :
    likeMatch ('%' :: pattern) text = true ↔
      ∃ front rest, text = front ++ rest ∧ likeMatch pattern rest = true := by
  rw [likeMatch.eq_def]
  simp only [if_true, List.any_eq_true, List.mem_range]
  constructor
  · rintro ⟨skipped, _, isMatch⟩
    exact ⟨text.take skipped, text.drop skipped, (List.take_append_drop skipped text).symm, isMatch⟩
  · rintro ⟨front, rest, rfl, isMatch⟩
    refine ⟨front.length, ?_, ?_⟩
    · rw [List.length_append]
      omega
    · rwa [List.drop_left]

theorem likeMatch_nil_iff (text : List Char) : likeMatch [] text = true ↔ text = [] := by
  rw [likeMatch, List.isEmpty_iff]

theorem firstThen_iff (literal : Char) (next : List Char → Bool) (text : List Char) :
    firstThen (· == literal) next text = true ↔
      ∃ rest, text = literal :: rest ∧ next rest = true := by
  cases text with
  | nil => simp [firstThen]
  | cons c rest =>
      rw [firstThen, Bool.and_eq_true, beq_iff_eq]
      constructor
      · rintro ⟨rfl, accepted⟩
        exact ⟨rest, rfl, accepted⟩
      · rintro ⟨_, same, accepted⟩
        cases same
        exact ⟨rfl, accepted⟩

theorem likeMatch_escapedPattern_cons (c : Char) (part pattern text : List Char) :
    likeMatch (escapedPattern (c :: part) ++ pattern) text = true ↔
      ∃ rest, text = c :: rest ∧ likeMatch (escapedPattern part ++ pattern) rest = true := by
  rw [← firstThen_iff]
  by_cases special : (c == '\\' || c == '%' || c == '_') = true
  · rw [escapedPattern, if_pos special, List.cons_append, List.cons_append, likeMatch.eq_def]
    rfl
  · rw [escapedPattern, if_neg special, List.cons_append, likeMatch.eq_def]
    simp only [Bool.or_eq_true, beq_iff_eq, not_or] at special
    simp only [special, if_false]

theorem likeMatch_escapedPattern_iff (pattern : List Char) :
    ∀ part text : List Char,
      likeMatch (escapedPattern part ++ pattern) text = true ↔
        ∃ rest, text = part ++ rest ∧ likeMatch pattern rest = true := by
  intro part
  induction part with
  | nil =>
      intro text
      simp [escapedPattern]
  | cons c others inductionHypothesis =>
      intro text
      rw [likeMatch_escapedPattern_cons]
      constructor
      · rintro ⟨tail, rfl, isMatch⟩
        obtain ⟨rest, rfl, restMatch⟩ := (inductionHypothesis tail).mp isMatch
        exact ⟨rest, rfl, restMatch⟩
      · rintro ⟨rest, rfl, restMatch⟩
        exact ⟨others ++ rest, rfl, (inductionHypothesis _).mpr ⟨rest, rfl, restMatch⟩⟩

theorem occursIn_iff (part : List Char) :
    ∀ text : List Char, occursIn part text = true ↔ ∃ front rest, text = front ++ (part ++ rest) := by
  intro text
  induction text with
  | nil => simp [occursIn, List.isEmpty_iff]
  | cons c others inductionHypothesis =>
      rw [occursIn, Bool.or_eq_true, List.isPrefixOf_iff_prefix, inductionHypothesis]
      constructor
      · rintro (⟨rest, spelled⟩ | ⟨front, rest, rfl⟩)
        · exact ⟨[], rest, spelled.symm⟩
        · exact ⟨c :: front, rest, rfl⟩
      · rintro ⟨_ | ⟨d, front⟩, rest, spelled⟩
        · exact .inl ⟨rest, spelled.symm⟩
        · cases spelled
          exact .inr ⟨front, rest, rfl⟩

/-- A pattern for a literal text matches where the text occurs. -/
theorem likeMatch_pattern (anchor : Anchor) (part text : List Char) :
    likeMatch (anchor.pattern part) text = anchor.occurs part text := by
  have anything : ∀ rest, likeMatch ['%'] rest = true := fun rest =>
    (likeMatch_percent_iff [] rest).mpr ⟨rest, [], by simp, rfl⟩
  rw [Bool.eq_iff_iff]
  cases anchor with
  | contains =>
      rw [Anchor.pattern, List.cons_append, likeMatch_percent_iff, Anchor.occurs, occursIn_iff]
      constructor
      · rintro ⟨front, tail, rfl, isMatch⟩
        obtain ⟨rest, rfl, _⟩ := (likeMatch_escapedPattern_iff _ part tail).mp isMatch
        exact ⟨front, rest, rfl⟩
      · rintro ⟨front, rest, rfl⟩
        refine ⟨front, part ++ rest, rfl, ?_⟩
        exact (likeMatch_escapedPattern_iff _ part _).mpr ⟨rest, rfl, anything rest⟩
  | start =>
      rw [Anchor.pattern, likeMatch_escapedPattern_iff, Anchor.occurs, List.isPrefixOf_iff_prefix]
      constructor
      · rintro ⟨rest, rfl, _⟩
        exact ⟨rest, rfl⟩
      · rintro ⟨rest, rfl⟩
        exact ⟨rest, rfl, anything rest⟩
  | ending =>
      rw [Anchor.pattern, likeMatch_percent_iff, Anchor.occurs, List.isSuffixOf_iff_suffix]
      constructor
      · rintro ⟨front, tail, rfl, isMatch⟩
        rw [← List.append_nil (escapedPattern part)] at isMatch
        obtain ⟨rest, rfl, atEnd⟩ := (likeMatch_escapedPattern_iff [] part tail).mp isMatch
        obtain rfl := (likeMatch_nil_iff rest).mp atEnd
        exact ⟨front, by simp⟩
      · rintro ⟨front, rfl⟩
        refine ⟨front, part, rfl, ?_⟩
        rw [← List.append_nil (escapedPattern part)]
        exact (likeMatch_escapedPattern_iff [] part part).mpr ⟨[], by simp, rfl⟩

/-! ## Rows of documents -/

/-- The kinds of values that a column is compared with here: texts, whole numbers and truth values,
but no fractions. -/
def isWhole : Value → Bool
  | .double _ => false
  | .float _ => false
  | _ => true

def isText : Value → Bool
  | .string _ => true
  | .enumeration _ => true
  | _ => false

def isLike : Comparison → Bool
  | .like => true
  | .notLike => true
  | .startsWith => true
  | .endsWith => true
  | _ => false

/-- A value of a document has the kind of a value of a filter. -/
def sameKind : Json → Value → Bool
  | .string _, .string _ => true
  | .string _, .enumeration _ => true
  | .number (.integer _), .integer _ => true
  | .number (.integer _), .long _ => true
  | .bool _, .boolean _ => true
  | _, _ => false

/-- The attribute has no value in the document, or a single one of the kind of all the others. -/
def FitsColumn (document : Json) (name : String) (values : List Value) : Prop :=
  Document.presentValues document name = [] ∨
    ∃ leaf, Document.presentValues document name = [leaf] ∧
      ∀ value ∈ values, sameKind leaf value = true

/-- The document can be read as a row of a table with a column for every attribute of the filter. -/
def FitsRow (document : Json) : Filter → Prop
  | .comparison name kind value =>
      isWhole value = true ∧ (isLike kind = true → isText value = true) ∧
        FitsColumn document name [value]
  | .membership name values =>
      (∀ value ∈ values, isWhole value = true) ∧ FitsColumn document name values
  | .isNull _ => True
  | .isNotNull _ => True
  | .and left right => FitsRow document left ∧ FitsRow document right
  | .or left right => FitsRow document left ∧ FitsRow document right
  | .not inner => FitsRow document inner

/-- The values are bound to the parameters with the next numbers, which have 64 bits. -/
def Binds (parameter : Nat → Option Value) (used : Nat) (values : List Value) : Prop :=
  ∀ place value, values[place]? = some value →
    parameter ((used + (place + 1)) % 2 ^ 64) = some value

theorem Binds.left {parameter : Nat → Option Value} {used : Nat} {first second : List Value}
    (binds : Binds parameter used (first ++ second)) : Binds parameter used first := by
  intro place value found
  apply binds place value
  rw [List.getElem?_append_left (List.getElem?_eq_some_iff.mp found).1]
  exact found

theorem Binds.right {parameter : Nat → Option Value} {used : Nat} {first second : List Value}
    (binds : Binds parameter used (first ++ second)) :
    Binds parameter (used + first.length) second := by
  intro place value found
  have foundBehind : (first ++ second)[first.length + place]? = some value := by
    rw [List.getElem?_append_right (Nat.le_add_right _ _), Nat.add_sub_cancel_left]
    exact found
  rw [← binds (first.length + place) value foundBehind]
  congr 2
  omega

theorem Binds.head {parameter : Nat → Option Value} {used : Nat} {first : Value}
    {others : List Value} (binds : Binds parameter used (first :: others)) :
    parameter (placeholderAfter used 1) = some first :=
  binds 0 first rfl

theorem Binds.tail {parameter : Nat → Option Value} {used : Nat} {first : Value}
    {others : List Value} (binds : Binds parameter used (first :: others)) :
    Binds parameter (used + 1) others := by
  have divided : Binds parameter used ([first] ++ others) := binds
  exact divided.right

/-- The session evaluates clauses on the row of the document.  Its database writes texts in lowercase
and orders them as is done here. -/
structure Session.Reads (session : Session) (document : Json) : Prop where
  row : ∀ name, session.row (Document.path name) = (Document.presentValues document name).head?
  lower : ∀ text, session.lower text = Text.lowercase text
  collate : ∀ left right, session.collate left right = compare left right

section

variable {session : Session} {document : Json} {name : String} {value : Value} {leaf : Json}

theorem cell?_column_missing (reads : session.Reads document)
    (missing : Document.presentValues document name = []) :
    session.cell? (.column (Document.path name)) = some none := by
  simp [Session.cell?, reads.row name, missing]

theorem cell?_column_present (reads : session.Reads document)
    (present : Document.presentValues document name = [leaf]) :
    session.cell? (.column (Document.path name)) = (Datum.ofLeaf? leaf).map some := by
  simp [Session.cell?, reads.row name, present]

theorem isNull_column (reads : session.Reads document) :
    session.isNull (.column (Document.path name)) =
      (Document.presentValues document name).isEmpty := by
  rw [Session.isNull, reads.row name]
  cases Document.presentValues document name <;> rfl

theorem ofValue?_of_isWhole (whole : isWhole value = true) :
    ∃ datum, Datum.ofValue? value = some datum := by
  cases value with
  | double => cases whole
  | float => cases whole
  | _ => exact ⟨_, rfl⟩

/-- Things of one kind are compared alike, by their data and as values of documents. -/
theorem order?_eq_compare? (reads : session.Reads document) (kinds : sameKind leaf value = true) :
    ∃ datum other order, Datum.ofLeaf? leaf = some datum ∧ Datum.ofValue? value = some other ∧
      session.order? datum other = some order ∧ Document.compare? leaf value = some order := by
  unfold sameKind at kinds
  split at kinds
  next text other => exact ⟨_, _, _, rfl, rfl, congrArg some (reads.collate text other), rfl⟩
  next text label => exact ⟨_, _, _, rfl, rfl, congrArg some (reads.collate text label), rfl⟩
  next integer other => exact ⟨_, _, _, rfl, rfl, rfl, rfl⟩
  next integer other => exact ⟨_, _, _, rfl, rfl, rfl, rfl⟩
  next truth other => exact ⟨_, _, _, rfl, rfl, rfl, rfl⟩
  next => cases kinds

theorem satisfies_eq_holds {kind : Comparison} {sign : Sign} {order : Ordering}
    (expressed : kind.expression = .sign sign)
    (compared : Document.compare? leaf value = some order) :
    Document.satisfies leaf kind value = holds sign order := by
  cases kind <;> cases expressed <;> rw [Document.satisfies, compared] <;> cases order <;> rfl

theorem bound?_eq {number : Nat} {datum : Datum} (bound : session.parameter number = some value)
    (isDatum : Datum.ofValue? value = some datum) : session.bound? number = some datum := by
  rw [Session.bound?, bound]
  exact isDatum

theorem evaluate_missing {kind : Comparison}
    (missing : Document.presentValues document name = []) :
    Document.evaluate document (.comparison name kind value) = none := by
  rw [Document.evaluate, Document.anyPresent, missing]

theorem evaluate_present {kind : Comparison}
    (present : Document.presentValues document name = [leaf]) :
    Document.evaluate document (.comparison name kind value) =
      some (Document.satisfies leaf kind value) := by
  simp [Document.evaluate, Document.anyPresent, present]

theorem evaluate?_compare {kind : Comparison} {sign : Sign} {number : Nat}
    (reads : session.Reads document) (fits : FitsRow document (.comparison name kind value))
    (expressed : kind.expression = .sign sign) (bound : session.parameter number = some value) :
    (Clause.compare (.column (Document.path name)) sign number).evaluate? session =
      some (Document.evaluate document (.comparison name kind value)) := by
  obtain ⟨whole, _, missing | ⟨leaf, present, kinds⟩⟩ := fits
  · obtain ⟨other, isDatum⟩ := ofValue?_of_isWhole whole
    rw [Clause.evaluate?, cell?_column_missing reads missing, bound?_eq bound isDatum,
      evaluate_missing missing]
    rfl
  · obtain ⟨datum, other, order, leafDatum, isDatum, ordered, compared⟩ :=
      order?_eq_compare? reads (kinds value List.mem_cons_self)
    rw [Clause.evaluate?, cell?_column_present reads present, leafDatum, bound?_eq bound isDatum,
      evaluate_present present, satisfies_eq_holds expressed compared]
    simp [Session.test?, Session.compare?, ordered]

theorem text_of_sameKind (kinds : sameKind leaf value = true) (textual : isText value = true) :
    ∃ text, leaf = .string text := by
  unfold sameKind at kinds
  split at kinds
  next text other => exact ⟨text, rfl⟩
  next text label => exact ⟨text, rfl⟩
  next => cases textual
  next => cases textual
  next => cases textual
  next => cases kinds

theorem satisfies_eq_occurs {kind : Comparison} {anchor : Anchor} {negated : Bool} {text : String}
    (expressed : kind.expression = .pattern anchor negated) :
    Document.satisfies (.string text) kind value =
      (anchor.occurs (Text.lowercase value.plainText).toList (Text.lowercase text).toList
        != negated) := by
  cases kind <;> cases expressed <;> simp [Document.satisfies, Document.like, Document.text?]

theorem isLike_of_pattern {kind : Comparison} {anchor : Anchor} {negated : Bool}
    (expressed : kind.expression = .pattern anchor negated) : isLike kind = true := by
  cases kind <;> cases expressed <;> rfl

theorem evaluate?_like {kind : Comparison} {anchor : Anchor} {negated : Bool} {number : Nat}
    (reads : session.Reads document) (fits : FitsRow document (.comparison name kind value))
    (expressed : kind.expression = .pattern anchor negated)
    (bound : session.parameter number = some (anchor.boundPattern value)) :
    (Clause.like (.lower (Document.path name)) negated number).evaluate? session =
      some (Document.evaluate document (.comparison name kind value)) := by
  obtain ⟨_, textual, missing | ⟨leaf, present, kinds⟩⟩ := fits
  · have cell : session.cell? (.lower (Document.path name)) = some none := by
      simp [Session.cell?, reads.row name, missing]
    rw [Clause.evaluate?, cell, bound?_eq bound rfl, evaluate_missing missing]
    rfl
  · obtain ⟨text, rfl⟩ := text_of_sameKind (kinds value List.mem_cons_self)
      (textual (isLike_of_pattern expressed))
    have cell : session.cell? (.lower (Document.path name)) =
        some (some (.text (Text.lowercase text))) := by
      simp [Session.cell?, reads.row name, present, reads.lower text]
    rw [Clause.evaluate?, cell, bound?_eq bound rfl, evaluate_present present,
      satisfies_eq_occurs expressed, ← likeMatch_pattern]
    simp [Session.test?, Session.like?]

/-- A list of equations with `NULL` has no true or false one. -/
theorem within?_missing :
    ∀ {values : List Value} {used : Nat}, Binds session.parameter used values →
      (∀ value ∈ values, isWhole value = true) →
      session.within? none (placeholdersAfter used values.length) =
        some (if values.isEmpty then some false else none) := by
  intro values
  induction values with
  | nil =>
      intro used _ _
      rfl
  | cons value others inductionHypothesis =>
      intro used binds allWhole
      obtain ⟨other, isDatum⟩ := ofValue?_of_isWhole (allWhole value List.mem_cons_self)
      have othersWithin := inductionHypothesis binds.tail
        fun value member => allWhole value (List.mem_cons_of_mem _ member)
      rw [List.length_cons, placeholdersAfter_succ, Session.within?, bound?_eq binds.head isDatum,
        othersWithin]
      cases others <;> rfl

theorem within?_present {datum : Datum} (reads : session.Reads document)
    (leafDatum : Datum.ofLeaf? leaf = some datum) :
    ∀ {values : List Value} {used : Nat}, Binds session.parameter used values →
      (∀ value ∈ values, sameKind leaf value = true) →
      session.within? (some datum) (placeholdersAfter used values.length) =
        some (some (values.any fun value => Document.compare? leaf value == some .eq)) := by
  intro values
  induction values with
  | nil =>
      intro used _ _
      rfl
  | cons value others inductionHypothesis =>
      intro used binds kinds
      obtain ⟨sameDatum, other, order, sameLeaf, isDatum, ordered, compared⟩ :=
        order?_eq_compare? reads (kinds value List.mem_cons_self)
      obtain rfl : datum = sameDatum := Option.some.inj (leafDatum.symm.trans sameLeaf)
      have othersWithin := inductionHypothesis binds.tail
        fun value member => kinds value (List.mem_cons_of_mem _ member)
      rw [List.length_cons, placeholdersAfter_succ, Session.within?, bound?_eq binds.head isDatum,
        othersWithin, List.any_cons, compared]
      simp only [Session.test?, Session.compare?, ordered, Option.map_some, Option.bind_eq_bind,
        Option.bind_some, greater_eq_or, Option.pure_def]
      cases order <;> cases others.any _ <;> rfl

theorem evaluate?_within {values : List Value} {used : Nat} (reads : session.Reads document)
    (fits : FitsRow document (.membership name values)) (nonempty : values ≠ [])
    (binds : Binds session.parameter used values) :
    (Clause.within (.column (Document.path name))
        (placeholdersAfter used values.length)).evaluate? session =
      some (Document.evaluate document (.membership name values)) := by
  obtain ⟨allWhole, missing | ⟨leaf, present, kinds⟩⟩ := fits
  · rw [Clause.evaluate?, cell?_column_missing reads missing, Document.evaluate,
      Document.anyPresent, missing]
    change session.within? none _ = _
    rw [within?_missing binds allWhole, if_neg (by simpa using nonempty)]
  · obtain ⟨value, member⟩ := List.exists_mem_of_ne_nil values nonempty
    obtain ⟨datum, _, _, leafDatum, _⟩ := order?_eq_compare? reads (kinds value member)
    rw [Clause.evaluate?, cell?_column_present reads present, leafDatum, Document.evaluate,
      Document.anyPresent, present]
    change session.within? (some datum) _ = _
    rw [within?_present reads leafDatum binds kinds]
    simp

end

/-! ## Filters -/

theorem evaluate?_clause {session : Session} {document : Json} (reads : session.Reads document) :
    ∀ {filter : Filter} {used : Nat} {bound : BoundCondition},
      filter.toCondition used = .ok bound → FitsRow document filter →
      Binds session.parameter used bound.parameters →
      bound.condition.clause.evaluate? session = some (Document.evaluate document filter) := by
  apply Filter.toCondition_induction
  · intro name kind sign value used expressed fits binds
    exact evaluate?_compare reads fits expressed binds.head
  · intro name kind anchor negated value used expressed fits binds
    exact evaluate?_like reads fits expressed binds.head
  · intro name values used nonempty fits binds
    exact evaluate?_within reads fits nonempty binds
  · intro name used _ _
    simp [Condition.clause, Clause.evaluate?, isNull_column reads, Document.evaluate]
  · intro name used _ _
    simp [Condition.clause, Clause.evaluate?, isNull_column reads, Document.evaluate]
  · intro left right used leftBound rightBound leftTruth rightTruth fits binds
    simp [Condition.clause, Clause.evaluate?, leftTruth fits.1 binds.left,
      rightTruth fits.2 binds.right, Document.evaluate, lesser_eq_and]
  · intro left right used leftBound rightBound leftTruth rightTruth fits binds
    simp [Condition.clause, Clause.evaluate?, leftTruth fits.1 binds.left,
      rightTruth fits.2 binds.right, Document.evaluate, greater_eq_or]
  · intro inner used bound innerTruth fits binds
    simp [Condition.clause, Clause.evaluate?, innerTruth fits binds, Document.evaluate,
      opposite_eq_not]

def Session.ofDocument (document : Json) (used : Nat) (values : List Value) : Session where
  row := fun path =>
    (Worklist.run Document.openValue (Document.pathValues path document) []).head?
  parameter := fun number => values[number - (used + 1)]?
  lower := Text.lowercase
  collate := compare

theorem Session.ofDocument_reads (document : Json) (used : Nat) (values : List Value) :
    (Session.ofDocument document used values).Reads document :=
  ⟨fun _ => rfl, fun _ => rfl, fun _ _ => rfl⟩

theorem Session.ofDocument_binds (document : Json) {used : Nat} {values : List Value}
    (inRange : used + values.length < 2 ^ 64) :
    Binds (Session.ofDocument document used values).parameter used values := by
  intro place value found
  have inside : place < values.length := (List.getElem?_eq_some_iff.mp found).1
  have number : (used + (place + 1)) % 2 ^ 64 = used + (place + 1) := Nat.mod_eq_of_lt (by omega)
  have index : used + (place + 1) - (used + 1) = place := by omega
  rw [number]
  change values[used + (place + 1) - (used + 1)]? = some value
  rw [index]
  exact found

/-- The text of a filter's condition can be read, and what it says of the row of a document is what
the filter says of the document; so the row is kept if and only if the document matches. -/
theorem evaluate_text_eq_document_evaluate {filter : Filter} {used : Nat} {bound : BoundCondition}
    {session : Session} {document : Json} (built : filter.toCondition used = .ok bound)
    (fits : FitsRow document filter) (reads : session.Reads document)
    (binds : Binds session.parameter used bound.parameters) :
    ∃ clause, Clause.ofText? bound.condition.text = some clause ∧
      clause.evaluate? session = some (Document.evaluate document filter) ∧
      (clause.keeps session ↔ Document.isMatch filter document = true) := by
  have read := Condition.ofText?_text (Filter.toCondition_listsNonempty built)
  have evaluated := evaluate?_clause reads built fits binds
  refine ⟨bound.condition.clause, read, evaluated, ?_⟩
  rw [Clause.keeps, evaluated, Document.isMatch]
  simp

/-- An order whose buyer is written as a list, and which says nothing of a rebate. -/
def sampleOrder : Json :=
  .object [("buyer", .array [.object [("name", .string "is 50%_ OFF")], .null]),
    ("count", .number (.integer 7))]

def sampleFilter : Filter :=
  .and (.comparison "buyer.name" .like (.string "50%_"))
    (.or (.not (.membership "count" [.integer 3, .long 40]))
      (.comparison "rebate" .lessThan (.boolean true)))

def sampleBound : BoundCondition :=
  ⟨.and (.like "buyer.name" false 3)
      (.or (.not (.within "count" [4, 5])) (.compare "rebate" .lessThan 6)),
    [Anchor.contains.boundPattern (.string "50%_"), .integer 3, .long 40, .boolean true]⟩

theorem evaluate_text_eq_document_evaluate_sample :
    sampleFilter.toCondition 2 = .ok sampleBound ∧ FitsRow sampleOrder sampleFilter ∧
      ∃ clause, Clause.ofText? sampleBound.condition.text = some clause ∧
        clause.evaluate? (Session.ofDocument sampleOrder 2 sampleBound.parameters) =
          some (Document.evaluate sampleOrder sampleFilter) := by
  have built : sampleFilter.toCondition 2 = .ok sampleBound :=
    Filter.toCondition_eq_ok sampleFilter 2 rfl
  have spelled : Document.path "buyer.name" = ["buyer", "name"] := by
    decide +kernel
  have buyer : Document.presentValues sampleOrder "buyer.name" = [.string "is 50%_ OFF"] := by
    rw [Document.presentValues_eq_reverse, spelled]
    simp [sampleOrder, Document.reading, Document.reading_array, Json.field?]
  have count : Document.presentValues sampleOrder "count" = [.number (.integer 7)] := by
    with_unfolding_all rfl
  have rebate : Document.presentValues sampleOrder "rebate" = [] := by with_unfolding_all rfl
  have fits : FitsRow sampleOrder sampleFilter :=
    ⟨⟨rfl, fun _ => rfl, .inr ⟨.string "is 50%_ OFF", buyer, by decide⟩⟩,
      ⟨by decide, .inr ⟨.number (.integer 7), count, by decide⟩⟩,
      ⟨rfl, by decide, .inl rebate⟩⟩
  have inRange : 2 + sampleBound.parameters.length < 2 ^ 64 := by
    simp [sampleBound]
  obtain ⟨clause, read, evaluated, _⟩ := evaluate_text_eq_document_evaluate built fits
    (Session.ofDocument_reads sampleOrder 2 sampleBound.parameters)
    (Session.ofDocument_binds sampleOrder inRange)
  exact ⟨built, fits, clause, read, evaluated⟩

end SearchQuery.Sql
