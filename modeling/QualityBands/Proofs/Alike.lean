import Mathlib.Data.List.Forall2
import QualityBands.Proofs.ReportCards

/-!
Documents that look alike.

All that a reader learns of a value is the number, the count and the text that it stands for,
whether it is truthy, and what an error says about it. Two documents in which the fixed fields
of a dialect look alike give the same bands or fail with the same error. What else they give is
made from the entries of a few mappings.
-/

namespace QualityBands

/-! ### Places -/

/-- Two values that stand for the same. -/
structure Tree.Alike (a b : Tree) : Prop where
  number : Node.readNumber? b = Node.readNumber? a
  count : Node.readCount? b = Node.readCount? a
  text : b.scalarText? = a.scalarText?
  truth : b.isTruthy = a.isTruthy

lemma Tree.Alike.refl (t : Tree) : Alike t t := ⟨rfl, rfl, rfl, rfl⟩

namespace Node

/-- Two places of one path at which readers find the same. -/
structure Alike (a b : Node) : Prop where
  path : b.path = a.path
  shown : describe b.found = describe a.found
  value : Option.Rel Tree.Alike a.value? b.value?

namespace Alike

variable {a b : Node} {α : Type}

lemma refl (node : Node) : Alike node node := by
  refine ⟨rfl, rfl, ?_⟩
  cases node.value? with
  | none => exact .none
  | some t => exact .some (.refl t)

lemma of_found (hp : b.path = a.path) (hf : b.found = a.found) : Alike a b := by
  obtain ⟨found, path⟩ := b
  obtain rfl : path = a.path := hp
  obtain rfl : found = a.found := hf
  exact refl a

/-- What is made from the values of two such places is the same when it is the same for values
that stand for the same. -/
lemma value_eq (h : Alike a b) (f : Option Tree → α)
    (hf : ∀ s t, Tree.Alike s t → f (some t) = f (some s)) : f b.value? = f a.value? := by
  have hv := h.value
  generalize a.value? = before at hv ⊢
  generalize b.value? = after at hv ⊢
  cases hv with
  | none => rfl
  | some ht => exact hf _ _ ht

lemma toNumber_eq (h : Alike a b) : b.toNumber = a.toNumber := by
  rw [toNumber, toNumber, h.value_eq (·.bind readNumber?) fun _ _ ht => ht.number, h.path,
    h.shown]

lemma toCount_eq (h : Alike a b) : b.toCount = a.toCount := by
  rw [toCount, toCount, h.value_eq (·.bind readCount?) fun _ _ ht => ht.count, h.path, h.shown]

lemma toCountOr_eq (h : Alike a b) (default : Count) :
    b.toCountOr default = a.toCountOr default := by
  rw [toCountOr, toCountOr, h.value_eq Option.isSome fun _ _ _ => rfl, h.toCount_eq]

lemma text?_eq (h : Alike a b) : b.text? = a.text? :=
  h.value_eq (·.bind Tree.scalarText?) fun _ _ ht => ht.text

lemma any_isTruthy_eq (h : Alike a b) :
    b.value?.any Tree.isTruthy = a.value?.any Tree.isTruthy :=
  h.value_eq (·.any Tree.isTruthy) fun _ _ ht => ht.truth

lemma truthyText?_eq (h : Alike a b) : b.truthyText? = a.truthyText? := by
  refine h.value_eq (fun value => (value.filter Tree.isTruthy).bind Tree.scalarText?) ?_
  intro s t ht
  cases hs : s.isTruthy <;> simp [Option.filter, ht.truth, hs, ht.text]

/-- The first choice is the same when all candidates look alike. -/
lemma firstText_eq {candidates : List String}
    (h : ∀ key ∈ candidates, Alike (a.child key) (b.child key)) :
    b.firstText candidates = a.firstText candidates := by
  have hfind : ((candidates.map b.child).find? (·.value?.any Tree.isTruthy)).bind Node.text? =
      ((candidates.map a.child).find? (·.value?.any Tree.isTruthy)).bind Node.text? := by
    induction candidates with
    | nil => rfl
    | cons key rest ih =>
      obtain ⟨hkey, hrest⟩ := List.forall_mem_cons.mp h
      simp only [List.map_cons, List.find?_cons, hkey.any_isTruthy_eq]
      split
      · exact hkey.text?_eq
      · exact ih hrest
  rw [firstText, firstText, hfind]

end Alike

end Node

/-! ### Entries -/

namespace Tree

/-- The entries whose keys have a text, by that text. -/
def named (entries : List (Tree × Tree)) : List (String × Tree) :=
  entries.filterMap fun (key, value) => key.scalarText?.map fun text => (text, value)

/-- The named entries that are mappings. -/
def sections (entries : List (Tree × Tree)) : List (String × Tree) :=
  (named entries).filter (·.2.isMapping)

end Tree

namespace Node

variable {node : Node}

/-- The entries at a place, whatever their keys are. -/
def rawEntries (node : Node) : List (Tree × Tree) := (node.found.bind Tree.entries?).getD []

lemma found_child (node : Node) (key : String) : (node.child key).found =
    (node.rawEntries.find? fun entry => Tree.isKey key entry.1).map (·.2) := by
  rw [child, rawEntries]
  cases node.found with
  | none => rfl
  | some t => exact t.get?_eq_find? key

/-- The place of a named entry. -/
def entryAt (path : String) (entry : String × Tree) : String × Node :=
  (entry.1, ⟨some entry.2, extend path entry.1⟩)

lemma entries_eq : node.entries = (Tree.named node.rawEntries).map (entryAt node.path) := by
  rw [entries, value?_bind_entries?, ← rawEntries, Tree.named, List.map_filterMap]
  refine List.filterMap_congr fun entry _ => ?_
  rw [Option.map_map]
  rfl

lemma sections_eq :
    Reading.sections node = (Tree.sections node.rawEntries).map (entryAt node.path) := by
  rw [Reading.sections, entries_eq, List.filter_map, Tree.sections]
  congr 1
  refine List.filter_congr fun entry _ => ?_
  exact isMapping_eq

end Node

lemma eachOnce_rawEntries {document : Tree} (hk : document.keysDiffer) (keys : List String) :
    Tree.EachOnce ((Node.root document).walk keys).rawEntries := by
  rw [Node.rawEntries, Node.found_walk]
  cases ht : (Node.root document).found.bind (·.at? keys) with
  | none => exact List.Pairwise.nil
  | some t => exact Tree.eachOnce_entries (Tree.keysDiffer_at? hk ht)

open Node (Alike)

/-! ### Items -/

namespace Dialect

/-- The fields of a dimension. -/
def dimensionFields : Dialect → List String
  | complete => ["variable_score", "variable", "id", "variable_error", "error_variable",
      "label_it", "label_en", "description_it", "variable_count"]
  | legacy => ["variable", "error_variable", "label_it", "label_en", "description_it",
      "error_label_it"]

/-- The fields of an error card, which only the legacy dialect has entries for. -/
def cardFields : List String := ["variable", "label", "subtitle_fallback_it"]

def dimension : Dialect → String → Node → Dimension
  | complete => Reading.completeDimension
  | legacy => Reading.legacyDimension

end Dialect

namespace Reading

variable {a b : Node} {key : String}

lemma field_eq (h : Alike (a.child key) (b.child key)) : field b key = field a key := by
  rw [field, field, h.text?_eq]

lemma labelOr_eq {severity : Severity} (h : Alike (a.child "label_it") (b.child "label_it")) :
    labelOr b severity = labelOr a severity := by
  rw [labelOr, labelOr, h.text?_eq]

lemma dimension_eq {dialect : Dialect}
    (h : ∀ field ∈ dialect.dimensionFields, Alike (a.child field) (b.child field)) :
    dialect.dimension key b = dialect.dimension key a := by
  cases dialect with
  | complete =>
    simp only [Dialect.dimensionFields, List.forall_mem_cons] at h
    obtain ⟨hscore, hvariable, hid, herror, hold, hit, hen, hdescription, -⟩ := h
    have hs : b.firstText ["variable_score", "variable", "id"] =
        a.firstText ["variable_score", "variable", "id"] :=
      Alike.firstText_eq (by simp [hscore, hvariable, hid])
    have he : b.firstText ["variable_error", "error_variable"] =
        a.firstText ["variable_error", "error_variable"] :=
      Alike.firstText_eq (by simp [herror, hold])
    simp only [Dialect.dimension, completeDimension, hs, he, field_eq hit, field_eq hen,
      field_eq hdescription]
  | legacy =>
    simp only [Dialect.dimensionFields, List.forall_mem_cons] at h
    obtain ⟨hvariable, herror, hit, hen, hdescription, hlabel, -⟩ := h
    simp only [Dialect.dimension, legacyDimension, field_eq hvariable, field_eq herror,
      field_eq hit, field_eq hen, field_eq hdescription, hlabel.text?_eq]

lemma legacyCard_eq (h : ∀ field ∈ Dialect.cardFields, Alike (a.child field) (b.child field)) :
    legacyCard key b = legacyCard key a := by
  simp only [Dialect.cardFields, List.forall_mem_cons] at h
  obtain ⟨hvariable, hlabel, hsubtitle, -⟩ := h
  simp only [legacyCard, field_eq hvariable, field_eq hlabel, field_eq hsubtitle]

/-- Two sections under one key that look alike in some fields. -/
def SectionsAlike (fields : List String) (a b : String × Node) : Prop :=
  b.1 = a.1 ∧ ∀ field ∈ fields, Alike (a.2.child field) (b.2.child field)

/-- Items made from sections that look alike are the same. -/
lemma map_sections_eq {α : Type} {fields : List String} {as bs : List (String × Node)}
    (item : String → Node → α)
    (hitem : ∀ key a b, (∀ field ∈ fields, Alike (a.child field) (b.child field)) →
      item key b = item key a)
    (h : List.Forall₂ (SectionsAlike fields) as bs) :
    (bs.map fun entry => item entry.1 entry.2) = as.map fun entry => item entry.1 entry.2 := by
  induction h with
  | nil => rfl
  | @cons a b as bs hab _ ih =>
    obtain ⟨ka, a⟩ := a
    obtain ⟨kb, b⟩ := b
    obtain ⟨rfl, hfields⟩ : kb = ka ∧ _ := hab
    exact congrArg₂ List.cons (hitem kb a b hfields) ih

end Reading

/-- The entries of a legacy document that give its cards. -/
def Place.cards (document : Tree) : Node := (errors document).child "dimensions"

/-! ### Bands -/

namespace Dialect

/-- The keys under which the two percentages stand. -/
def percentageKeys : Dialect → String × String
  | complete => ("value", "value")
  | legacy => ("percentage", "min_percentage")

def floor : Dialect → Node → Severity → Except RulesError CountFloor
  | complete => Reading.strictFloor
  | legacy => Reading.inclusiveFloor

/-- The keys under which a floor and the ceiling stand. -/
def countKeys : Dialect → String × String
  | complete => ("value", "threshold_value")
  | legacy => ("min_count", "max_count")

variable (dialect : Dialect)

/-- The bands of a document, the only part of its rules that can fail to be read. -/
def bands (document : Tree) : Except RulesError (ScoreBands × CountBands) := do
  let percentages := Place.percentages document
  let excellent ← ((percentages.child "excellent").child dialect.percentageKeys.1).toNumber
  let acceptable ← ((percentages.child "acceptable").child dialect.percentageKeys.2).toNumber
  let counts ← Reading.counts (Place.counts document) dialect.floor dialect.countKeys.2
  pure (⟨excellent, acceptable⟩, counts)

/-- The fields that a document has at most once, each by the keys that lead to it: the figures
and the labels of the bands. -/
def fixedFields : List (List String) :=
  dialect.figures.map (·.keys) ++
    Severity.all.map fun severity =>
      ["error_distribution", "thresholds", severity.key, "label_it"]

variable {dialect} {a b : Node} {severity : Severity}

lemma floor_eq (hcount : Alike ((a.child severity.key).child dialect.countKeys.1)
      ((b.child severity.key).child dialect.countKeys.1))
    (hlabel : Alike ((a.child severity.key).child "label_it")
      ((b.child severity.key).child "label_it")) :
    dialect.floor b severity = dialect.floor a severity := by
  cases dialect with
  | complete =>
    simp only [countKeys] at hcount
    simp only [floor, Reading.strictFloor, hcount.toCount_eq, hcount.path,
      Reading.labelOr_eq hlabel]
  | legacy =>
    simp only [countKeys] at hcount
    simp only [floor, Reading.inclusiveFloor, hcount.toCount_eq, Reading.labelOr_eq hlabel]

/-- Counts are the same when all their fields look alike. -/
lemma counts_eq
    (hfloor : ∀ severity ∈ [Severity.critical, .high, .medium],
      dialect.floor b severity = dialect.floor a severity)
    (hceiling : Alike ((a.child Severity.low.key).child dialect.countKeys.2)
      ((b.child Severity.low.key).child dialect.countKeys.2))
    (hlabel : Alike ((a.child Severity.low.key).child "label_it")
      ((b.child Severity.low.key).child "label_it")) :
    Reading.counts b dialect.floor dialect.countKeys.2 =
      Reading.counts a dialect.floor dialect.countKeys.2 := by
  simp only [List.forall_mem_cons] at hfloor
  obtain ⟨hcritical, hhigh, hmedium, -⟩ := hfloor
  simp only [Reading.counts, hcritical, hhigh, hmedium, hceiling.toCountOr_eq,
    Reading.labelOr_eq hlabel]

/-- **Bands are made from the fixed fields.** -/
theorem bands_eq {document other : Tree}
    (h : ∀ keys ∈ dialect.fixedFields,
      Alike ((Node.root document).walk keys) ((Node.root other).walk keys)) :
    dialect.bands other = dialect.bands document := by
  have hlabel : ∀ severity ∈ Severity.all,
      Alike (((Place.counts document).child severity.key).child "label_it")
        (((Place.counts other).child severity.key).child "label_it") := fun severity hs =>
    h _ (List.mem_append_right _ (List.mem_map_of_mem hs))
  have hfigure : ∀ figure ∈ dialect.figures,
      Alike (figure.node document) (figure.node other) := fun figure hf =>
    h _ (List.mem_append_left _ (List.mem_map_of_mem hf))
  have hpercentages : Alike
        (((Place.percentages document).child "excellent").child dialect.percentageKeys.1)
        (((Place.percentages other).child "excellent").child dialect.percentageKeys.1) ∧
      Alike (((Place.percentages document).child "acceptable").child dialect.percentageKeys.2)
        (((Place.percentages other).child "acceptable").child dialect.percentageKeys.2) := by
    cases dialect
    all_goals
      simp only [figures, List.forall_mem_cons] at hfigure
      exact ⟨hfigure.1, hfigure.2.1⟩
  have hcounts : (∀ severity ∈ [Severity.critical, .high, .medium],
        Alike (((Place.counts document).child severity.key).child dialect.countKeys.1)
          (((Place.counts other).child severity.key).child dialect.countKeys.1)) ∧
      Alike (((Place.counts document).child Severity.low.key).child dialect.countKeys.2)
        (((Place.counts other).child Severity.low.key).child dialect.countKeys.2) := by
    cases dialect
    all_goals
      simp only [figures, List.forall_mem_cons] at hfigure
      obtain ⟨-, -, hcritical, hhigh, hmedium, hlow, -⟩ := hfigure
      refine ⟨?_, hlow⟩
      simp only [List.forall_mem_cons]
      exact ⟨hcritical, hhigh, hmedium, nofun⟩
  have hfloor : ∀ severity ∈ [Severity.critical, .high, .medium],
      dialect.floor (Place.counts other) severity =
        dialect.floor (Place.counts document) severity := fun severity hs =>
    floor_eq (hcounts.1 severity hs) (hlabel severity (by cases severity <;> simp [Severity.all]))
  simp only [bands, hpercentages.1.toNumber_eq, hpercentages.2.toNumber_eq,
    counts_eq hfloor hcounts.2 (hlabel .low (by simp [Severity.all]))]

/-! ### Everything else -/

def cards : Dialect → Tree → List ErrorCard
  | complete, document => Reading.completeCards (Place.dimensions document)
  | legacy, document =>
    (Reading.sections (Place.cards document)).map fun (key, node) => Reading.legacyCard key node

def omitted : Dialect → Tree → List String
  | complete, document => Reading.omittedCards (Place.dimensions document)
  | legacy, _ => []

def templates : Dialect → Tree → TemplateSet
  | complete, _ => .builtin
  | legacy, document => .merged ((Node.root document).child "templates").value?

/-- What a document gives when its bands have been read. -/
def reading (dialect : Dialect) (document : Tree) (bands : ScoreBands × CountBands) :
    Reading where
  rules :=
    { scores := bands.1
      dimensions := (Reading.sections (Place.dimensions document)).map fun (key, node) =>
        dialect.dimension key node
      counts := bands.2
      cards := dialect.cards document
      templates := dialect.templates document }
  dialect := dialect
  omitted := dialect.omitted document

lemma complete_eq (document : Tree) :
    Reading.complete document = complete.reading document <$> complete.bands document := by
  simp only [bands, map_bind]
  rfl

lemma legacy_eq (document : Tree) :
    Reading.legacy document = legacy.reading document <$> legacy.bands document := by
  simp only [bands, map_bind]
  rfl

/-- Reading fails where the bands fail, and then assembles the rest. -/
lemma read_eq {document : Tree} (hm : document.isMapping) :
    Rules.read document =
      (detect document).reading document <$> (detect document).bands document := by
  rw [Rules.read, if_pos hm]
  cases detect document with
  | complete => exact complete_eq document
  | legacy => exact legacy_eq document

end Dialect

end QualityBands
