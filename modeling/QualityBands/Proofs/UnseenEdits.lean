import QualityBands.Proofs.Edits

/-!
Reading edited documents.

Fields are leaves, so they look alike in an edited document, and sections are mappings, so none
of them is taken out. Null and tags that can be edited at all are thus not seen by reading.
-/

namespace QualityBands

/-! ### Sections -/

namespace Tree

variable {edit : Edit} {entries others : List (Tree × Tree)}

/-- Two sections of one key, the second of which is the first one edited. -/
structure SectionEdited (edit : Edit) (a b : String × Tree) : Prop where
  key : b.1 = a.1
  keysDiffer : edit = .pruning → a.2.keysDiffer
  edited : Edited edit .fields a.2 b.2

lemma sections_cons (key value : Tree) (rest : List (Tree × Tree)) :
    sections ((key, value) :: rest) =
      (if value.isMapping then (key.scalarText?.map (·, value)).toList else []) ++
        sections rest := by
  unfold sections named
  cases hk : key.scalarText? <;> cases hm : value.isMapping <;> simp [hk, hm]

/-- Sections are edited one by one, for null is no section. -/
lemma EditedEntries.sections (hk : edit = .pruning → ∀ entry ∈ entries, entry.2.keysDiffer)
    (h : EditedEntries edit .groups entries others) :
    List.Forall₂ (SectionEdited edit) (sections entries) (sections others) := by
  induction entries generalizing others with
  | nil =>
    cases h
    exact .nil
  | cons first rest ih =>
    have hrest : edit = .pruning → ∀ entry ∈ rest, entry.2.keysDiffer := fun he entry hm =>
      hk he entry (List.mem_cons_of_mem _ hm)
    cases h with
    | drop key _ _ hr =>
      rw [sections_cons]
      exact ih hrest hr
    | @keep _ key s t _ _ hv hr =>
      have hs : edit = .pruning → s.keysDiffer := fun he => hk he _ List.mem_cons_self
      rw [sections_cons, sections_cons, hv.isMapping_eq]
      refine List.rel_append ?_ (ih hrest hr)
      split
      · cases key.scalarText? with
        | none => exact .nil
        | some text => exact .cons ⟨rfl, hs, hv⟩ .nil
      · exact .nil

end Tree

namespace Node.Edited

variable {edit : Edit} {a b : Node}

/-- The fields of edited sections look alike. -/
lemma sections (h : Node.Edited edit .groups a b) (fields : List String) :
    List.Forall₂ (Reading.SectionsAlike fields) (Reading.sections a) (Reading.sections b) := by
  rw [Node.sections_eq, Node.sections_eq, List.forall₂_map_left_iff, List.forall₂_map_right_iff]
  have hentries := h.rawEntries.sections fun he entry hm =>
    keysDiffer_of_mem_rawEntries (h.keysDiffer he) hm
  refine hentries.imp fun x y hxy => ⟨hxy.key, fun field _ => ?_⟩
  have hnode : Node.Edited edit .fields (entryAt a.path x).2 (entryAt b.path y).2 :=
    { path := by simp only [entryAt, h.path, hxy.key]
      keysDiffer := fun he t ht => Option.some.inj ht ▸ hxy.keysDiffer he
      found := .edited hxy.edited }
  exact (hnode.child field).alike

lemma countVariable?_eq (h : Node.Edited edit .groups a b) :
    Reading.countVariable? b = Reading.countVariable? a :=
  funext fun key => ((h.child key).child "variable_count").alike.truthyText?_eq

end Node.Edited

/-! ### Documents -/

namespace Tree.Edited

variable {edit : Edit} {document other : Tree} {dialect : Dialect}

lemma root (hk : edit = .pruning → document.keysDiffer)
    (h : Tree.Edited edit .document document other) :
    Node.Edited edit .document (Node.root document) (Node.root other) :=
  ⟨rfl, fun he _ ht => Option.some.inj ht ▸ hk he, .edited h⟩

lemma dimensions (hk : edit = .pruning → document.keysDiffer)
    (h : Tree.Edited edit .document document other) :
    Node.Edited edit .groups (Place.dimensions document) (Place.dimensions other) :=
  (h.root hk).walk ["dimension_scores", "dimensions"]

lemma cards (hk : edit = .pruning → document.keysDiffer)
    (h : Tree.Edited edit .document document other) :
    Node.Edited edit .groups (Place.cards document) (Place.cards other) :=
  (h.root hk).walk ["error_distribution", "dimensions"]

lemma hasSection_eq (hk : edit = .pruning → document.keysDiffer)
    (h : Tree.Edited edit .document document other) (key : String) :
    Dialect.hasSection other key = Dialect.hasSection document key := by
  have hget := h.get? hk key
  unfold Dialect.hasSection
  generalize document.get? key = before at hget ⊢
  generalize other.get? key = after at hget ⊢
  cases hget with
  | none => rfl
  | edited hv => exact hv.isMapping_eq
  | dropped => rfl

/-- The entry that decides the dialect is never taken out. -/
lemma enabled_eq (hk : edit = .pruning → document.keysDiffer)
    (h : Tree.Edited edit .document document other) :
    ((other.get? "dimension_scores").bind (·.get? "enabled")).isSome =
      ((document.get? "dimension_scores").bind (·.get? "enabled")).isSome := by
  have hget : Found edit .scores (document.get? "dimension_scores")
      (other.get? "dimension_scores") := h.get? hk "dimension_scores"
  generalize document.get? "dimension_scores" = before at hget ⊢
  generalize other.get? "dimension_scores" = after at hget ⊢
  cases hget with
  | none => rfl
  | edited hv => exact hv.isSome_get?_eq rfl
  | dropped => rfl

lemma detect_eq (hk : edit = .pruning → document.keysDiffer)
    (h : Tree.Edited edit .document document other) :
    Dialect.detect other = Dialect.detect document := by
  simp only [Dialect.detect, h.hasSection_eq hk, h.enabled_eq hk]

lemma along_of_mem_fixedFields {keys : List String} (hf : keys ∈ dialect.fixedFields) :
    Part.document.along keys = .leaf := by
  have hall : ∀ keys ∈ dialect.fixedFields, Part.document.along keys = .leaf := by
    cases dialect <;> decide
  exact hall keys hf

lemma bands_eq (hk : edit = .pruning → document.keysDiffer)
    (h : Tree.Edited edit .document document other) :
    dialect.bands other = dialect.bands document := by
  refine Dialect.bands_eq fun keys hf => ?_
  have hwalk := (h.root hk).walk keys
  rw [along_of_mem_fixedFields hf] at hwalk
  exact hwalk.alike

lemma cards_eq (hk : edit = .pruning → document.keysDiffer)
    (h : Tree.Edited edit .document document other) :
    dialect.cards other = dialect.cards document := by
  cases dialect with
  | complete =>
    simp only [Dialect.cards, Reading.completeCards, (h.dimensions hk).countVariable?_eq]
  | legacy =>
    exact Reading.map_sections_eq Reading.legacyCard (fun _ _ _ => Reading.legacyCard_eq)
      ((h.cards hk).sections Dialect.cardFields)

lemma omitted_eq (hk : edit = .pruning → document.keysDiffer)
    (h : Tree.Edited edit .document document other) :
    dialect.omitted other = dialect.omitted document := by
  cases dialect with
  | complete =>
    simp only [Dialect.omitted, Reading.omittedCards, (h.dimensions hk).countVariable?_eq]
  | legacy => rfl

lemma textEntries_eq {s t : Tree} (h : Tree.Edited edit .templates s t) :
    TemplateSet.textEntries t = TemplateSet.textEntries s := by
  refine h.entries_getD.filterMap_eq (fun key s t hv => ?_) fun key => ?_
  · simp only [hv.taggedText?_eq]
  · have hnull : taggedText? null = none := rfl
    simp only [hnull]
    cases key.taggedText? <;> rfl

lemma templateTexts_eq (hk : edit = .pruning → document.keysDiffer)
    (h : Tree.Edited edit .document document other) :
    other.templateTexts = document.templateTexts := by
  have hget : Found edit .templates (document.get? "templates") (other.get? "templates") :=
    h.get? hk "templates"
  unfold templateTexts
  generalize document.get? "templates" = before at hget ⊢
  generalize other.get? "templates" = after at hget ⊢
  cases hget with
  | none => rfl
  | edited ht => exact ht.textEntries_eq
  | dropped => rfl

lemma templates_eq (hk : edit = .pruning → document.keysDiffer)
    (h : Tree.Edited edit .document document other) :
    dialect.templates other = dialect.templates document := by
  cases dialect with
  | complete => rfl
  | legacy => rw [Dialect.templates_legacy, Dialect.templates_legacy, h.templateTexts_eq hk]

lemma reading_eq (hk : edit = .pruning → document.keysDiffer)
    (h : Tree.Edited edit .document document other) :
    dialect.reading other = dialect.reading document := by
  have hdimensions := Reading.map_sections_eq dialect.dimension
    (fun _ _ _ => Reading.dimension_eq) ((h.dimensions hk).sections dialect.dimensionFields)
  funext bands
  simp only [Dialect.reading, h.cards_eq hk, h.omitted_eq hk, h.templates_eq hk, hdimensions]

/-- An edited document is read like the document itself. -/
lemma read_eq (hk : edit = .pruning → document.keysDiffer)
    (h : Tree.Edited edit .document document other) : Rules.read other = Rules.read document := by
  have hmapping : other.isMapping = document.isMapping := h.isMapping_eq
  by_cases hm : document.isMapping
  · rw [Dialect.read_eq hm, Dialect.read_eq (hmapping.trans hm), h.detect_eq hk, h.bands_eq hk,
      h.reading_eq hk]
  · rw [Rules.read, Rules.read, if_neg hm, if_neg (by rwa [hmapping])]

end Tree.Edited

/-! ### Null -/

variable {document other : Tree}

/-- **An entry with null for its value is like no entry.** In a document with each key once,
however many of them are taken out of the mappings that reading goes into, the dialect is the
same, and so is the reading or the error. The one entry that is kept says by being there that a
document is complete. -/
theorem read_eq_of_pruned (hk : document.keysDiffer)
    (h : Tree.Edited .pruning .document document other) :
    Dialect.detect other = Dialect.detect document ∧ Rules.read other = Rules.read document := by
  have hall : Edit.pruning = .pruning → document.keysDiffer := fun _ => hk
  exact ⟨h.detect_eq hall, h.read_eq hall⟩

/-- A complete document with null in every mapping that reading goes into. -/
def nulledDocument : Tree :=
  .mapping
    [(.text "global", .mapping [(.text "version", .null)]),
     (.text "dimension_scores", .tagged "!s" (.mapping
       [(.text "enabled", .null),
        (.text "weights", .null),
        (.text "thresholds", .mapping
          [(.text "good", .null),
           (.text "excellent", .mapping
             [(.text "value", .number (.integer 95)), (.text "label_it", .null)]),
           (.text "acceptable", .mapping [(.null, .null), (.text "value", .text "80")])]),
        (.text "dimensions", .mapping
          [(.text "completeness", .null),
           (.text "accuracy", .mapping
             [(.text "variable_score", .null),
              (.text "variable", .text "v"),
              (.text "variable_count", .text "n")]),
           (.text "consistency", .mapping [(.text "variable_count", .null)])])])),
     (.text "error_distribution", .mapping
       [(.text "enabled", .null),
        (.text "thresholds", .mapping
         [(.text "critical", .mapping
            [(.text "value", .number (.integer 5)), (.text "label_it", .null)]),
          (.text "high", .mapping [(.text "value", .number (.integer 3))]),
          (.text "medium", .mapping [(.text "value", .number (.integer 1))]),
          (.text "low", .mapping [(.text "threshold_value", .null)])]),
        (.text "dimensions", .mapping
          [(.text "accuracy", .mapping [(.text "label", .null)]), (.text "other", .null)])]),
     (.text "templates", .mapping [(.text "dimension_score_html", .null)])]

/-- The same document without null, but for the entry that decides the dialect. -/
def prunedDocument : Tree :=
  .mapping
    [(.text "global", .mapping []),
     (.text "dimension_scores", .tagged "!s" (.mapping
       [(.text "enabled", .null),
        (.text "thresholds", .mapping
          [(.text "excellent", .mapping [(.text "value", .number (.integer 95))]),
           (.text "acceptable", .mapping [(.text "value", .text "80")])]),
        (.text "dimensions", .mapping
          [(.text "accuracy", .mapping
             [(.text "variable", .text "v"), (.text "variable_count", .text "n")]),
           (.text "consistency", .mapping [])])])),
     (.text "error_distribution", .mapping
       [(.text "thresholds", .mapping
         [(.text "critical", .mapping [(.text "value", .number (.integer 5))]),
          (.text "high", .mapping [(.text "value", .number (.integer 3))]),
          (.text "medium", .mapping [(.text "value", .number (.integer 1))]),
          (.text "low", .mapping [])]),
        (.text "dimensions", .mapping [(.text "accuracy", .mapping [])])]),
     (.text "templates", .mapping [])]

theorem read_eq_of_pruned_everywhere :
    nulledDocument.keysDiffer ∧
      Tree.Edited .pruning .document nulledDocument prunedDocument ∧
      Dialect.detect nulledDocument = .complete ∧ Dialect.detect prunedDocument = .complete ∧
      ∃ r, Rules.read nulledDocument = .ok r ∧ Rules.read prunedDocument = .ok r ∧
        r.rules.dimensions.map (·.scoreVariable) = ["v", ""] ∧
        r.omitted = ["completeness", "consistency"] := by
  have hk : nulledDocument.keysDiffer := by decide +kernel
  have hpruned : nulledDocument.pruned .document = prunedDocument := rfl
  have h : Tree.Edited .pruning .document nulledDocument prunedDocument :=
    hpruned ▸ Tree.edited_pruned .document nulledDocument
  have hdetect : Dialect.detect nulledDocument = .complete := by decide +kernel
  obtain ⟨r, hr, hv⟩ := exists_ok_of_any (x := Rules.read nulledDocument)
    (p := fun r => r.rules.dimensions.map (·.scoreVariable) = ["v", ""] ∧
      r.omitted = ["completeness", "consistency"]) (by decide +kernel)
  obtain ⟨hd, hread⟩ := read_eq_of_pruned hk h
  exact ⟨hk, h, hdetect, hd.trans hdetect, r, hr, hread.trans hr, of_decide_eq_true hv⟩

/-! ### Tags -/

/-- **Tags on mappings that reading goes into, and on the texts of templates, are not seen.**
However many of them are put on and taken off, the dialect is the same, and so is the reading or
the error. -/
theorem read_eq_of_retagged (h : Tree.Edited .tagging .document document other) :
    Dialect.detect other = Dialect.detect document ∧ Rules.read other = Rules.read document := by
  have hnone : Edit.tagging = .pruning → document.keysDiffer := nofun
  exact ⟨h.detect_eq hnone, h.read_eq hnone⟩

/-- A legacy document with tags on every mapping that reading goes into. -/
def taggedDocument : Tree :=
  .tagged "!root" (.mapping
    [(.text "global", .tagged "!g" (.mapping [])),
     (.text "dimension_scores", .tagged "!s" (.tagged "!t" (.mapping
       [(.text "thresholds", .tagged "!t" (.mapping
          [(.text "excellent", .tagged "!e" (.mapping
             [(.text "percentage", .number (.integer 95))])),
           (.text "acceptable", .tagged "!a" (.mapping
             [(.text "min_percentage", .text "80")]))])),
        (.text "dimensions", .tagged "!d" (.mapping
          [(.text "a", .tagged "!x" (.mapping
             [(.text "variable", .text "v"),
              (.text "label_it", .tagged "!kept" (.text "A"))]))]))]))),
     (.text "error_distribution", .tagged "!e" (.mapping
       [(.text "thresholds", .tagged "!t" (.mapping
         [(.text "critical", .tagged "!c" (.mapping [(.text "min_count", .number (.integer 3))])),
          (.text "high", .tagged "!h" (.mapping [(.text "min_count", .number (.integer 2))])),
          (.text "medium", .tagged "!m" (.mapping [(.text "min_count", .number (.integer 1))])),
          (.text "low", .tagged "!l" (.mapping []))])),
        (.text "dimensions", .tagged "!d" (.mapping
          [(.text "a", .tagged "!x" (.mapping [(.text "label", .text "L")]))]))])),
     (.text "templates", .tagged "!t" (.mapping
       [(.text "dimension_score_html", .tagged "!u" (.tagged "!v" (.text "D"))),
        (.tagged "!kept" (.text "more"), .text "M")]))])

/-- The same document with no tags but those of values that are read as they are, and of keys. -/
def bareDocument : Tree :=
  .mapping
    [(.text "global", .mapping []),
     (.text "dimension_scores", .mapping
       [(.text "thresholds", .mapping
          [(.text "excellent", .mapping [(.text "percentage", .number (.integer 95))]),
           (.text "acceptable", .mapping [(.text "min_percentage", .text "80")])]),
        (.text "dimensions", .mapping
          [(.text "a", .mapping
             [(.text "variable", .text "v"),
              (.text "label_it", .tagged "!kept" (.text "A"))])])]),
     (.text "error_distribution", .mapping
       [(.text "thresholds", .mapping
         [(.text "critical", .mapping [(.text "min_count", .number (.integer 3))]),
          (.text "high", .mapping [(.text "min_count", .number (.integer 2))]),
          (.text "medium", .mapping [(.text "min_count", .number (.integer 1))]),
          (.text "low", .mapping [])]),
        (.text "dimensions", .mapping [(.text "a", .mapping [(.text "label", .text "L")])])]),
     (.text "templates", .mapping
       [(.text "dimension_score_html", .text "D"), (.tagged "!kept" (.text "more"), .text "M")])]

theorem read_eq_of_retagged_everywhere :
    Tree.Edited .tagging .document taggedDocument bareDocument ∧
      Dialect.detect bareDocument = Dialect.detect taggedDocument ∧
      ∃ r, Rules.read taggedDocument = .ok r ∧ Rules.read bareDocument = .ok r ∧
        r.rules.dimensions.map (·.scoreVariable) = ["v"] ∧
        r.rules.cards.map (·.label) = ["L"] ∧ r.rules.templates.dimensionScore = "D" := by
  have hbare : taggedDocument.bare .document = bareDocument := rfl
  have h : Tree.Edited .tagging .document taggedDocument bareDocument :=
    hbare ▸ Tree.edited_bare .document taggedDocument
  obtain ⟨r, hr, hv⟩ := exists_ok_of_any (x := Rules.read taggedDocument)
    (p := fun r => r.rules.dimensions.map (·.scoreVariable) = ["v"] ∧
      r.rules.cards.map (·.label) = ["L"] ∧ r.rules.templates.dimensionScore = "D")
    (by decide +kernel)
  obtain ⟨hd, hread⟩ := read_eq_of_retagged h
  exact ⟨h, hd, r, hr, hread.trans hr, of_decide_eq_true hv⟩

end QualityBands
