import Mathlib.Logic.Relation
import SearchQuery.Document.Match

/-!
# Arrays in documents

The values that a document has for an attribute are those of a plain recursive reading: an object
leads on to its field, and an array leads to whatever any of its items leads to.  How a document
groups, orders and repeats the items of its arrays is therefore of no account to a filter.
-/

set_option autoImplicit false

namespace SearchQuery.Document

/-! ## Reading a path -/

mutual

/-- The values at the end of a path, arrays opened wherever they stand. -/
def reading : List String → Json → List Json
  | path, .array items => readingOfItems path items
  | _, .null => []
  | [], value => [value]
  | name :: path, .object fields =>
      match Json.field? name fields with
      | some value => reading path value
      | none => []
  | _ :: _, _ => []
termination_by path value => (path.length, sizeOf value)

def readingOfItems : List String → List Json → List Json
  | _, [] => []
  | path, item :: rest => reading path item ++ readingOfItems path rest
termination_by path items => (path.length, sizeOf items)

end

theorem readingOfItems_eq_flatMap (path : List String) (items : List Json) :
    readingOfItems path items = items.flatMap (reading path) := by
  induction items with
  | nil => rw [readingOfItems, List.flatMap_nil]
  | cons item rest inductionHypothesis =>
      rw [readingOfItems, inductionHypothesis, List.flatMap_cons]

theorem reading_array (path : List String) (items : List Json) :
    reading path (.array items) = items.flatMap (reading path) := by
  rw [reading, readingOfItems_eq_flatMap]

mutual

theorem flatMap_fieldValues (name : String) (path : List String) :
    ∀ value : Json, (fieldValues name value).flatMap (reading path) = reading (name :: path) value
  | .null => by simp [fieldValues, reading]
  | .bool _ => by simp [fieldValues, reading]
  | .number _ => by simp [fieldValues, reading]
  | .string _ => by simp [fieldValues, reading]
  | .object fields => by
      rw [fieldValues, reading]
      cases Json.field? name fields with
      | none => rfl
      | some value => simp
  | .array items => by rw [fieldValues, reading, flatMap_fieldValuesOfItems]

theorem flatMap_fieldValuesOfItems (name : String) (path : List String) :
    ∀ items : List Json,
      (fieldValuesOfItems name items).flatMap (reading path) = readingOfItems (name :: path) items
  | [] => by rw [fieldValuesOfItems, readingOfItems, List.flatMap_nil]
  | item :: rest => by
      rw [fieldValuesOfItems, readingOfItems, List.flatMap_append, flatMap_fieldValues,
        flatMap_fieldValuesOfItems]

end

/-- The loop over the parts of a path keeps all values that have been reached so far. -/
theorem foldl_fieldValues (path : List String) (values : List Json) :
    (path.foldl (fun values name => values.flatMap (fieldValues name)) values).flatMap
        (reading []) =
      values.flatMap (reading path) := by
  induction path generalizing values with
  | nil => rfl
  | cons name path inductionHypothesis =>
      have sameSteps : (fun value => (fieldValues name value).flatMap (reading path)) =
          reading (name :: path) := funext (flatMap_fieldValues name path)
      rw [List.foldl_cons, inductionHypothesis, List.flatMap_assoc, sameSteps]

theorem reverse_reading_nil (value : Json) :
    (reading [] value).reverse = (openValue value).found ++
      (openValue value).added.reverse.flatMap fun item => (reading [] item).reverse := by
  cases value with
  | null => simp [openValue, reading]
  | bool truth => simp [openValue, reading]
  | number number => simp [openValue, reading]
  | string text => simp [openValue, reading]
  | object fields => simp [openValue, reading]
  | array items => rw [reading_array, List.reverse_flatMap]; rfl

/-- Of all that is still pending, the worklist finds what a reading finds, from its end on. -/
theorem run_openValue (pending found : List Json) :
    Worklist.run openValue pending found =
      found ++ (pending.flatMap (reading [])).reverse := by
  rw [Worklist.run_eq_flatMap openValue reverse_reading_nil, List.reverse_flatMap]
  rfl

theorem presentValues_eq_reverse (document : Json) (name : String) :
    presentValues document name = (reading (path name) document).reverse := by
  rw [presentValues, run_openValue, pathValues, foldl_fieldValues, List.flatMap_singleton]
  rfl

/-! ## What tests see of a value -/

/-- An object without its fields, any other value as it is. -/
def outline : Json → Json
  | .object _ => .object []
  | value => value

theorem text?_outline (value : Json) : text? (outline value) = text? value := by
  cases value <;> rfl

theorem double?_outline (value : Json) : double? (outline value) = double? value := by
  cases value <;> rfl

theorem compareInteger?_outline (value : Json) (number : Int) :
    compareInteger? (outline value) number = compareInteger? value number := by
  cases value <;> rfl

theorem truth?_outline (value : Json) : truth? (outline value) = truth? value := by
  cases value <;> rfl

theorem compare?_outline (value : Json) (other : Value) :
    compare? (outline value) other = compare? value other := by
  cases other with
  | integer number => exact compareInteger?_outline value number
  | long number => exact compareInteger?_outline value number
  | double number => rw [compare?, compare?, double?_outline]
  | float number => rw [compare?, compare?, double?_outline]
  | boolean truth => rw [compare?, compare?, truth?_outline]
  | string text => rw [compare?, compare?, text?_outline]
  | enumeration label => rw [compare?, compare?, text?_outline]

theorem like_outline (anchor : Anchor) (value : Json) (pattern : Value) :
    like anchor (outline value) pattern = like anchor value pattern := by
  rw [like, like, text?_outline]

theorem satisfies_outline (value : Json) (kind : Comparison) (other : Value) :
    satisfies (outline value) kind other = satisfies value kind other := by
  cases kind <;> simp only [satisfies, like_outline, text?_outline, compare?_outline]

/-- The values at the end of a path as tests see them. -/
def views (path : List String) (document : Json) : List Json :=
  (reading path document).map outline

/-- The lists hold the same values, in whatever order and however often.  Objects are not looked
into. -/
def SameValues (values others : List Json) : Prop :=
  ∀ seen, seen ∈ values.map outline ↔ seen ∈ others.map outline

theorem SameValues.isEmpty_eq {values others : List Json} (same : SameValues values others) :
    values.isEmpty = others.isEmpty := by
  rw [← List.isEmpty_map (f := outline), ← List.isEmpty_map (l := others) (f := outline),
    Bool.eq_iff_iff, List.isEmpty_iff, List.isEmpty_iff, List.eq_nil_iff_forall_not_mem,
    List.eq_nil_iff_forall_not_mem]
  exact forall_congr' fun seen => not_congr (same seen)

theorem SameValues.any_eq {values others : List Json} {test : Json → Bool}
    (same : SameValues values others) (blind : ∀ value, test (outline value) = test value) :
    values.any test = others.any test := by
  have sameTest : test ∘ outline = test := funext blind
  rw [← sameTest, ← List.any_map, ← List.any_map, Bool.eq_iff_iff, List.any_eq_true,
    List.any_eq_true]
  exact exists_congr fun seen => and_congr_left' (same seen)

/-- Filters cannot tell the two documents apart: at the end of every path they show the same values,
in whatever order and however often. -/
def LooksLike (document other : Json) : Prop :=
  ∀ (path : List String) (seen : Json), seen ∈ views path document ↔ seen ∈ views path other

namespace LooksLike

variable {document other : Json}

theorem sameValues (alike : LooksLike document other) (name : String) :
    SameValues (presentValues document name) (presentValues other name) := by
  intro seen
  rw [presentValues_eq_reverse, presentValues_eq_reverse, List.map_reverse, List.map_reverse,
    List.mem_reverse, List.mem_reverse]
  exact alike (path name) seen

theorem anyPresent_eq (alike : LooksLike document other) (name : String) {test : Json → Bool}
    (blind : ∀ value, test (outline value) = test value) :
    anyPresent document name test = anyPresent other name test := by
  have sameTruth := (alike.sameValues name).any_eq blind
  have samePresence := (alike.sameValues name).isEmpty_eq
  rw [anyPresent, anyPresent]
  cases first : presentValues document name with
  | nil =>
      cases second : presentValues other name with
      | nil => rfl
      | cons value rest => rw [first, second] at samePresence; cases samePresence
  | cons value rest =>
      cases second : presentValues other name with
      | nil => rw [first, second] at samePresence; cases samePresence
      | cons otherValue otherRest =>
          rw [first, second] at sameTruth
          exact congrArg some sameTruth

theorem evaluate_eq (alike : LooksLike document other) (filter : Filter) :
    evaluate document filter = evaluate other filter := by
  induction filter with
  | comparison name kind value =>
      exact alike.anyPresent_eq name fun present => satisfies_outline present kind value
  | membership name values =>
      apply alike.anyPresent_eq name
      intro present
      simp only [compare?_outline]
  | isNull name => rw [evaluate, evaluate, (alike.sameValues name).isEmpty_eq]
  | isNotNull name => rw [evaluate, evaluate, (alike.sameValues name).isEmpty_eq]
  | and left right leftSame rightSame => rw [evaluate, evaluate, leftSame, rightSame]
  | or left right leftSame rightSame => rw [evaluate, evaluate, leftSame, rightSame]
  | not inner innerSame => rw [evaluate, evaluate, innerSame]

end LooksLike

/-! ## Rearranging arrays -/

/-- One change to the arrays of a document, at any place in it. -/
inductive Rearranges : Json → Json → Prop where
  | permuted {items others : List Json} (reordered : items.Perm others) :
      Rearranges (.array items) (.array others)
  | repeated {item : Json} {items : List Json} (member : item ∈ items) :
      Rearranges (.array items) (.array (item :: items))
  | flattened (inner items : List Json) :
      Rearranges (.array (.array inner :: items)) (.array (inner ++ items))
  | withoutNull (items : List Json) : Rearranges (.array (.null :: items)) (.array items)
  | withoutEmpty (items : List Json) : Rearranges (.array (.array [] :: items)) (.array items)
  | wrapped (value : Json) : Rearranges value (.array [value])
  | item {value other : Json} (before after : List Json) (inside : Rearranges value other) :
      Rearranges (.array (before ++ value :: after)) (.array (before ++ other :: after))
  | field {value other : Json} (name : String) (before after : List (String × Json))
      (inside : Rearranges value other) :
      Rearranges (.object (before ++ (name, value) :: after))
        (.object (before ++ (name, other) :: after))

/-- Any number of changes to the arrays of a document, each made or undone. -/
def Rearranged : Json → Json → Prop :=
  Relation.EqvGen Rearranges

theorem mem_views_array {path : List String} {items : List Json} {seen : Json} :
    seen ∈ views path (.array items) ↔ ∃ item ∈ items, seen ∈ views path item := by
  rw [views, reading_array, List.map_flatMap, List.mem_flatMap]
  exact Iff.rfl

theorem views_null (path : List String) : views path .null = [] := by
  rw [views, reading, List.map_nil]

theorem field?_cons (sought name : String) (value : Json) (rest : List (String × Json)) :
    Json.field? sought ((name, value) :: rest) =
      if sought = name then some value else Json.field? sought rest := by
  rw [Json.field?, Json.field?, List.lookup_cons]
  by_cases same : sought = name
  · rw [if_pos same, beq_iff_eq.mpr same]
  · rw [if_neg same, beq_eq_false_iff_ne.mpr same]

/-- With one field replaced, a name finds what it found before or the field that was replaced. -/
theorem field?_replaced (sought name : String) (value other : Json)
    (before after : List (String × Json)) :
    Json.field? sought (before ++ (name, value) :: after) =
        Json.field? sought (before ++ (name, other) :: after) ∨
      Json.field? sought (before ++ (name, value) :: after) = some value ∧
        Json.field? sought (before ++ (name, other) :: after) = some other := by
  induction before with
  | nil =>
      rw [List.nil_append, List.nil_append, field?_cons, field?_cons]
      by_cases same : sought = name
      · exact .inr ⟨if_pos same, if_pos same⟩
      · exact .inl (by rw [if_neg same, if_neg same])
  | cons entry rest inductionHypothesis =>
      obtain ⟨entryName, entryValue⟩ := entry
      rw [List.cons_append, List.cons_append, field?_cons, field?_cons]
      by_cases same : sought = entryName
      · exact .inl (by rw [if_pos same, if_pos same])
      · rw [if_neg same, if_neg same]
        exact inductionHypothesis

theorem LooksLike.of_field {value other : Json} (alike : LooksLike value other) (name : String)
    (before after : List (String × Json)) :
    LooksLike (.object (before ++ (name, value) :: after))
      (.object (before ++ (name, other) :: after)) := by
  intro path seen
  cases path with
  | nil => simp [views, reading, outline]
  | cons sought path =>
      rw [views, views, reading, reading]
      rcases field?_replaced sought name value other before after with same | ⟨first, second⟩
      · rw [same]
      · rw [first, second]
        exact alike path seen

theorem LooksLike.of_rearranges {document other : Json} (step : Rearranges document other) :
    LooksLike document other := by
  induction step with
  | permuted reordered =>
      intro path seen
      simp only [mem_views_array, reordered.mem_iff]
  | @repeated item items member =>
      intro path seen
      rw [mem_views_array, mem_views_array]
      constructor
      · rintro ⟨found, among, there⟩
        exact ⟨found, List.mem_cons_of_mem item among, there⟩
      · rintro ⟨found, among, there⟩
        rcases List.mem_cons.mp among with rfl | among
        · exact ⟨found, member, there⟩
        · exact ⟨found, among, there⟩
  | flattened inner items =>
      intro path seen
      simp [mem_views_array, or_and_right, exists_or]
  | withoutNull items =>
      intro path seen
      simp [mem_views_array, views_null]
  | withoutEmpty items =>
      intro path seen
      simp [mem_views_array]
  | wrapped value =>
      intro path seen
      simp [mem_views_array]
  | item before after inside alike =>
      intro path seen
      simp [mem_views_array, alike path seen, or_and_right, exists_or]
  | field name before after inside alike => exact alike.of_field name before after

theorem LooksLike.of_rearranged {document other : Json} (rearranged : Rearranged document other) :
    LooksLike document other := by
  induction rearranged with
  | rel document other step => exact .of_rearranges step
  | refl document =>
      intro path seen
      exact Iff.rfl
  | symm document other _ alike =>
      intro path seen
      exact (alike path seen).symm
  | trans document between other _ _ first second =>
      intro path seen
      exact (first path seen).trans (second path seen)

/-- The values for an attribute are those of the recursive reading, up to their order, and no filter
distinguishes documents that differ in how their arrays are arranged. -/
theorem arrays_are_flat_bags :
    (∀ (document : Json) (name : String),
      (presentValues document name).Perm (reading (path name) document)) ∧
    ∀ document other : Json, Rearranged document other →
      ∀ filter : Filter, evaluate document filter = evaluate other filter := by
  refine ⟨?_, ?_⟩
  · intro document name
    rw [presentValues_eq_reverse]
    exact List.reverse_perm _
  · intro document other rearranged filter
    exact (LooksLike.of_rearranged rearranged).evaluate_eq filter

def sampleShelf (tags owner : Json) : Json :=
  .object [("tags", tags), ("owner", owner)]

def sampleOwner : Json :=
  .object [("name", .string "Ann"), ("pets", .array [.null, .string "cat"])]

def sampleQuestion : Filter :=
  .and (.comparison "tags" .equal (.string "red")) (.isNotNull "owner.pets")

/-- A list of tags in another order, with one of them twice and one in a list of its own, and an
owner who has become a list. -/
theorem arrays_are_flat_bags_shelf :
    Rearranged (sampleShelf (.array [.string "red", .string "blue", .null]) sampleOwner)
      (sampleShelf (.array [.array [.string "blue"], .string "red", .string "red"])
        (.array [sampleOwner])) ∧
    evaluate (sampleShelf (.array [.string "red", .string "blue", .null]) sampleOwner)
      sampleQuestion = some true ∧
    evaluate (sampleShelf (.array [.array [.string "blue"], .string "red", .string "red"])
      (.array [sampleOwner])) sampleQuestion = some true := by
  generalize redTag : Json.string "red" = red
  generalize blueTag : Json.string "blue" = blue
  have inTags : ∀ {tags others : Json}, Rearranges tags others →
      Rearranged (sampleShelf tags sampleOwner) (sampleShelf others sampleOwner) := by
    intro tags others step
    exact .rel _ _ (.field "tags" [] [("owner", sampleOwner)] step)
  have nullFirst : Rearranged (sampleShelf (.array [red, blue, .null]) sampleOwner)
      (sampleShelf (.array [.null, red, blue]) sampleOwner) :=
    inTags (.permuted (List.perm_append_singleton Json.null [red, blue]))
  have redTwice : Rearranged (sampleShelf (.array [red, blue]) sampleOwner)
      (sampleShelf (.array [red, red, blue]) sampleOwner) :=
    inTags (.repeated List.mem_cons_self)
  have blueFirst : Rearranged (sampleShelf (.array [red, red, blue]) sampleOwner)
      (sampleShelf (.array [blue, red, red]) sampleOwner) :=
    inTags (.permuted (List.perm_append_singleton blue [red, red]))
  have blueNested : Rearranged (sampleShelf (.array [blue, red, red]) sampleOwner)
      (sampleShelf (.array [.array [blue], red, red]) sampleOwner) :=
    .symm _ _ (inTags (.flattened [blue] [red, red]))
  have ownerWrapped : Rearranged (sampleShelf (.array [.array [blue], red, red]) sampleOwner)
      (sampleShelf (.array [.array [blue], red, red]) (.array [sampleOwner])) :=
    .rel _ _ (.field "owner" [("tags", _)] [] (.wrapped sampleOwner))
  have rearranged := nullFirst.trans _ _ _ ((inTags (.withoutNull [red, blue])).trans _ _ _
    (redTwice.trans _ _ _ (blueFirst.trans _ _ _ (blueNested.trans _ _ _ ownerWrapped))))
  have truth : evaluate (sampleShelf (.array [red, blue, .null]) sampleOwner) sampleQuestion =
      some true := by
    subst redTag blueTag
    decide +kernel
  refine ⟨rearranged, truth, ?_⟩
  rw [← arrays_are_flat_bags.2 _ _ rearranged]
  exact truth

end SearchQuery.Document
