import SearchQuery.Proofs.JsonText
import SearchQuery.Schema.Json

/-!
# Schemas survive their JSON text

A schema is read back from its compact JSON text, with every name and every label, if it is valid.
If it is not, the first of its enumerations without labels is reported.
-/

set_option autoImplicit false

namespace SearchQuery

namespace Schema

open JsonForm (units inUnits Reads FieldReads)

/-! ## Declarations in order -/

theorem insertEntry_last {name : String} (spec : AttributeSpec) :
    ∀ entries : List (String × AttributeSpec), (∀ entry ∈ entries, entry.1 < name) →
      insertEntry name spec entries = entries ++ [(name, spec)] := by
  intro entries
  induction entries with
  | nil =>
      intro _
      rfl
  | cons entry rest inductionHypothesis =>
      intro before
      have entryBefore : entry.1 < name := before entry List.mem_cons_self
      rw [insertEntry, if_neg (String.lt_asymm entryBefore),
        if_neg (String.ne_of_lt entryBefore).symm,
        inductionHypothesis fun other member => before other (List.mem_cons_of_mem _ member)]
      rfl

theorem entries_foldl_insert :
    ∀ (declarations : List (String × AttributeSpec)) (schema : Schema),
      Ordered (schema.entries ++ declarations) →
      (declarations.foldl (fun schema entry => schema.insert entry.1 entry.2) schema).entries =
        schema.entries ++ declarations := by
  intro declarations
  induction declarations with
  | nil =>
      intro schema _
      exact (List.append_nil _).symm
  | cons declaration rest inductionHypothesis =>
      intro schema ordered
      have last : (schema.insert declaration.1 declaration.2).entries =
          schema.entries ++ [declaration] :=
        insertEntry_last _ _ fun entry member =>
          (List.pairwise_append.mp ordered).2.2 entry member declaration List.mem_cons_self
      rw [List.append_cons, ← last] at ordered ⊢
      exact inductionHypothesis _ ordered

theorem eq_of_entries_eq {first second : Schema} (same : first.entries = second.entries) :
    first = second := by
  cases first
  cases second
  cases same
  rfl

theorem ofList_entries (schema : Schema) : ofList schema.entries = schema :=
  eq_of_entries_eq (entries_foldl_insert schema.entries empty schema.ordered)

/-! ## The form of a schema -/

def specForm (spec : AttributeSpec) : JsonForm :=
  .object ((("type", .string (units spec.tag.name)) ::
    if spec.labels.isEmpty then []
    else [("labels", .array (spec.labels.map fun label => .string (units label)))]).map inUnits)

def attributesForm (schema : Schema) : JsonForm :=
  .object ((schema.entries.map fun entry => (entry.1, specForm entry.2)).map inUnits)

def form (schema : Schema) : JsonForm :=
  .object ([("attributes", schema.attributesForm)].map inUnits)

theorem namedFields?_inUnits :
    ∀ fields : List (String × JsonForm), namedFields? (fields.map inUnits) = some fields := by
  intro fields
  induction fields with
  | nil => rfl
  | cons field rest inductionHypothesis =>
      rw [List.map_cons, inUnits, namedFields?, JsonForm.unitsText?_units, inductionHypothesis]

theorem textsOfForms?_units (labels : List String) :
    textsOfForms? (labels.map fun label => .string (units label)) = some labels := by
  induction labels with
  | nil => rfl
  | cons label rest inductionHypothesis =>
      rw [List.map_cons, textsOfForms?, JsonForm.unitsText?_units, inductionHypothesis]

theorem tagOfForm?_name (tag : TypeTag) : tagOfForm? (.string (units tag.name)) = some tag := by
  rw [tagOfForm?, JsonForm.unitsText?_units]
  exact TypeTag.ofName?_name tag

theorem specOfForm?_specForm (spec : AttributeSpec) : specOfForm? (specForm spec) = some spec := by
  obtain ⟨tag, labels⟩ := spec
  rw [specForm, specOfForm?, namedFields?_inUnits]
  cases labels with
  | nil => simp [uniqueField?, tagOfForm?_name, optionalLabels?]
  | cons label others =>
      have labelsRead := textsOfForms?_units (label :: others)
      rw [List.map_cons] at labelsRead
      simp [uniqueField?, tagOfForm?_name, optionalLabels?, labelsOfForm?, labelsRead]

theorem specsOfFields?_specForm :
    ∀ entries : List (String × AttributeSpec),
      specsOfFields? (entries.map fun entry => (entry.1, specForm entry.2)) = some entries := by
  intro entries
  induction entries with
  | nil => rfl
  | cons entry rest inductionHypothesis =>
      rw [List.map_cons, specsOfFields?, specOfForm?_specForm, inductionHypothesis]

theorem attributesOfForm?_attributesForm (schema : Schema) :
    attributesOfForm? schema.attributesForm = some schema := by
  rw [attributesForm, attributesOfForm?, namedFields?_inUnits]
  simp [specsOfFields?_specForm, ofList_entries]

theorem ofForm?_form (schema : Schema) : ofForm? schema.form = some schema := by
  rw [form, ofForm?, namedFields?_inUnits]
  simp [uniqueField?, attributesOfForm?_attributesForm]

/-! ## The text of a schema -/

theorem reads_specJson (spec : AttributeSpec) : Reads (specJson spec) (specForm spec) := by
  have labelsRead : List.Forall₂ Reads (spec.labels.map .string)
      (spec.labels.map fun label => .string (units label)) := by
    rw [List.forall₂_map_left_iff, List.forall₂_map_right_iff, List.forall₂_same]
    exact fun label _ => JsonForm.reads_string label
  apply JsonForm.reads_object
  refine .cons (.named "type" (JsonForm.reads_string _)) ?_
  split
  · exact .nil
  · exact .cons (.named "labels" (JsonForm.reads_array labelsRead)) .nil

theorem reads_toJson (schema : Schema) : Reads schema.toJson schema.form := by
  have entriesRead : List.Forall₂ FieldReads
      (schema.entries.map fun entry => (entry.1, specJson entry.2))
      (schema.entries.map fun entry => (entry.1, specForm entry.2)) := by
    rw [List.forall₂_map_left_iff, List.forall₂_map_right_iff, List.forall₂_same]
    exact fun entry _ => .named entry.1 (reads_specJson entry.2)
  exact JsonForm.reads_object (.cons (.named _ (JsonForm.reads_object entriesRead)) .nil)

/-- Reading the text of a schema comes down to the check of the schema itself. -/
theorem ofJson_compact (schema : Schema) : ofJson schema.toJson.compact = schema.validated := by
  rw [ofJson, JsonForm.read?_compact schema.reads_toJson, Option.bind_some, ofForm?_form]

/-! ## Enumerations without labels -/

/-- The schema declares the attribute as an enumeration without labels. -/
def LacksLabels (schema : Schema) (name : String) : Prop :=
  (name, ⟨.enumeration, []⟩) ∈ schema.entries

/-- The search stops at the first enumeration without labels, and names increase. -/
theorem unlabelled?_cases (schema : Schema) :
    (schema.unlabelled? = none ∧ ∀ name, ¬schema.LacksLabels name) ∨
      ∃ name, schema.unlabelled? = some name ∧ schema.LacksLabels name ∧
        ∀ other, schema.LacksLabels other → name ≤ other := by
  unfold unlabelled?
  cases found : schema.entries.find? fun entry =>
      entry.2.tag = .enumeration ∧ entry.2.labels = [] with
  | none =>
      refine .inl ⟨rfl, fun name lacks => ?_⟩
      have complete := List.find?_eq_none.mp found _ lacks
      simp at complete
  | some entry =>
      obtain ⟨name, ⟨tag, labels⟩⟩ := entry
      obtain ⟨lacking, earlier, later, split, noneEarlier⟩ :=
        List.find?_eq_some_iff_append.mp found
      simp only [decide_eq_true_eq] at lacking
      obtain ⟨rfl, rfl⟩ := lacking
      have ordered := schema.ordered
      rw [Ordered, split, List.pairwise_append] at ordered
      have afterName := (List.pairwise_cons.mp ordered.2.1).1
      refine .inr ⟨name, rfl, List.mem_of_find?_eq_some found, fun other lacks => ?_⟩
      rw [LacksLabels, split, List.mem_append, List.mem_cons] at lacks
      rcases lacks with isEarlier | same | isLater
      · have complete := noneEarlier _ isEarlier
        simp at complete
      · cases same
        exact String.le_refl _
      · exact String.not_lt.mp (String.lt_asymm (afterName _ isLater))

/-- The compact JSON text of a schema is read as that schema, which gives every attribute the same
type, if every enumeration has a label; otherwise it is refused for the least name of an enumeration
that has none. -/
theorem schema_survives_json_text (schema : Schema) :
    ((∀ entry ∈ schema.entries, entry.2.tag = .enumeration → entry.2.labels ≠ []) →
        ofJson schema.toJson.compact = .ok schema ∧
          (ofJson schema.toJson.compact).map types = .ok schema.types) ∧
      (¬(∀ entry ∈ schema.entries, entry.2.tag = .enumeration → entry.2.labels ≠ []) →
        ∃ name, schema.LacksLabels name ∧ (∀ other, schema.LacksLabels other → name ≤ other) ∧
          ofJson schema.toJson.compact = .error (.unlabelled name)) := by
  rw [ofJson_compact, validated]
  rcases schema.unlabelled?_cases with ⟨noneFound, complete⟩ | ⟨name, nameFound, lacks, least⟩
  · rw [noneFound]
    refine ⟨fun _ => ⟨rfl, rfl⟩, fun incomplete => absurd ?_ incomplete⟩
    rintro ⟨name, ⟨_, _⟩⟩ declared rfl rfl
    exact complete name declared
  · rw [nameFound]
    exact ⟨fun labelled => absurd rfl (labelled _ lacks rfl), fun _ => ⟨name, lacks, least, rfl⟩⟩

/-- Names and labels that have to be escaped, an empty one, and labels that no enumeration has. -/
def hostileSchema : Schema :=
  ofList [("\"quoted\"", ⟨.enumeration, ["\\", "", "\x01\n"]⟩), ("\x00", ⟨.double, ["unused"]⟩),
    ("", ⟨.boolean, []⟩), ("𝄞", ⟨.enumeration, ["/\x7f"]⟩)]

def hostileIncompleteSchema : Schema :=
  (hostileSchema.insert "z" ⟨.enumeration, []⟩).insert "\t\\" ⟨.enumeration, []⟩

theorem schema_survives_json_text_hostile :
    ofJson hostileSchema.toJson.compact = .ok hostileSchema ∧
      ofJson hostileIncompleteSchema.toJson.compact = .error (.unlabelled "\t\\") := by
  obtain ⟨name, lacks, least, refused⟩ :=
    (schema_survives_json_text hostileIncompleteSchema).2 (by decide)
  have candidates : ∀ entry ∈ hostileIncompleteSchema.entries, entry.2 = ⟨.enumeration, []⟩ →
      entry.1 ≤ "\t\\" → entry.1 = "\t\\" := by
    decide
  have isLeast : name = "\t\\" :=
    candidates _ lacks rfl (least _ (by unfold LacksLabels; decide))
  rw [isLeast] at refused
  exact ⟨((schema_survives_json_text hostileSchema).1 (by decide)).1, refused⟩

end Schema

end SearchQuery
