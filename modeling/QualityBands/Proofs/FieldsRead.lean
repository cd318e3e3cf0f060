import QualityBands.Proofs.Alike

/-!
The fields that a dialect reads.

Each dialect reads the figures and the labels of the bands, the same few fields of every entry
of a section, and the legacy dialect also the templates. Documents that agree on these are read
alike, whatever else they hold and wherever the fields of the other dialect stand in them.
-/

namespace QualityBands

open Node (Alike)

namespace Tree

/-- What named entries show of themselves: the key, whether the value is a mapping, and the
values of some fields. -/
def shown (fields : List String) (entries : List (Tree × Tree)) :
    List (String × Bool × List (Option Tree)) :=
  (named entries).map fun (key, value) => (key, value.isMapping, fields.map value.get?)

/-- Two named entries that show the same. -/
def ShowSame (fields : List String) (a b : String × Tree) : Prop :=
  b.1 = a.1 ∧ b.2.isMapping = a.2.isMapping ∧ ∀ field ∈ fields, b.2.get? field = a.2.get? field

variable {fields : List String} {entries others : List (Tree × Tree)}

lemma forall₂_named (h : shown fields others = shown fields entries) :
    List.Forall₂ (ShowSame fields) (named entries) (named others) := by
  have hviews : List.Forall₂ Eq (shown fields entries) (shown fields others) := by
    rw [h, List.forall₂_eq_eq_eq]
  rw [shown, shown, List.forall₂_map_left_iff, List.forall₂_map_right_iff] at hviews
  refine hviews.imp fun a b hab => ?_
  obtain ⟨hkey, hmapping, hfields⟩ : a.1 = b.1 ∧ a.2.isMapping = b.2.isMapping ∧
      fields.map a.2.get? = fields.map b.2.get? := by simpa using hab
  exact ⟨hkey.symm, hmapping.symm, fun field hf => (List.map_inj_left.mp hfields field hf).symm⟩

lemma forall₂_sections (h : shown fields others = shown fields entries) :
    List.Forall₂ (ShowSame fields) (sections entries) (sections others) :=
  List.rel_filter (fun _ _ hab => iff_of_eq (congrArg (· = true) hab.2.1.symm)) (forall₂_named h)

end Tree

/-! ### The two ways to an entry -/

section
variable {node other : Node} {fields : List String} {key field : String}

lemma Reading.forall₂_sections (hp : other.path = node.path)
    (h : Tree.shown fields other.rawEntries = Tree.shown fields node.rawEntries) :
    List.Forall₂ (SectionsAlike fields) (sections node) (sections other) := by
  rw [Node.sections_eq, Node.sections_eq, List.forall₂_map_left_iff, List.forall₂_map_right_iff]
  refine (Tree.forall₂_sections h).imp fun a b ⟨hkey, _, hfields⟩ => ⟨hkey, fun field hf => ?_⟩
  refine Alike.of_found ?_ (hfields field hf)
  simp only [Node.child, Node.entryAt, hp, hkey]

/-- A key that only a text is read as finds the first named entry of that name. -/
lemma Node.found_child_eq (ho : Tree.OnlyText key) :
    (node.child key).found = ((Tree.named node.rawEntries).find? (·.1 = key)).map (·.2) := by
  rw [found_child]
  induction node.rawEntries with
  | nil => rfl
  | cons entry rest ih =>
    obtain ⟨k, value⟩ := entry
    rw [List.find?_cons, Tree.named]
    by_cases hk : Tree.isKey key k
    · simp [Tree.isKey_iff.mp hk, Tree.isKey, Tree.scalarText?]
    · simp only [hk]
      rw [ih, Tree.named]
      cases hs : k.scalarText? with
      | none => rw [List.filterMap_cons_none (by rw [hs]; rfl)]
      | some text =>
        have hne : text ≠ key := fun he => hk (Tree.isKey_iff.mpr (ho k (he ▸ hs)))
        rw [List.filterMap_cons_some (by rw [hs]; rfl), List.find?_cons_of_neg (by simpa)]

/-- A field of the first entry of a name is among what the entries show. -/
lemma find?_bind_get?_eq {as bs : List (String × Tree)}
    (h : List.Forall₂ (Tree.ShowSame fields) as bs) (hf : field ∈ fields) :
    (bs.find? (·.1 = key)).bind (·.2.get? field) =
      (as.find? (·.1 = key)).bind (·.2.get? field) := by
  induction h with
  | nil => rfl
  | @cons a b as bs hab _ ih =>
    rw [List.find?_cons, List.find?_cons, hab.1]
    split
    · exact hab.2.2 field hf
    · exact ih

lemma countVariable?_eq (hp : other.path = node.path) (ho : Tree.OnlyText key)
    (hf : "variable_count" ∈ fields)
    (h : Tree.shown fields other.rawEntries = Tree.shown fields node.rawEntries) :
    Reading.countVariable? other key = Reading.countVariable? node key := by
  refine (Alike.of_found ?_ ?_).truthyText?_eq
  · simp only [Node.child, hp]
  · change (other.child key).found.bind (·.get? "variable_count") =
      (node.child key).found.bind (·.get? "variable_count")
    rw [Node.found_child_eq ho, Node.found_child_eq ho, Option.bind_map, Option.bind_map]
    exact find?_bind_get?_eq (Tree.forall₂_named h) hf

end

/-! ### Agreement -/

/-- Two documents have the same in every field that a dialect reads. -/
structure Dialect.Agree (dialect : Dialect) (document other : Tree) : Prop where
  fixed : ∀ keys ∈ dialect.fixedFields, other.at? keys = document.at? keys
  dimensions : Tree.shown dialect.dimensionFields (Place.dimensions other).rawEntries =
    Tree.shown dialect.dimensionFields (Place.dimensions document).rawEntries
  cards : dialect = .legacy → Tree.shown cardFields (Place.cards other).rawEntries =
    Tree.shown cardFields (Place.cards document).rawEntries
  templates : dialect = .legacy → other.at? ["templates"] = document.at? ["templates"]

section
variable {dialect : Dialect} {document other : Tree}

/-- The place that keys lead to is the same when the same stands there. -/
lemma Node.walk_eq {keys : List String} (h : other.at? keys = document.at? keys) :
    (root other).walk keys = (root document).walk keys := by
  have hpath : ((root other).walk keys).path = ((root document).walk keys).path := by
    rw [path_walk, path_walk]
    rfl
  have hfound : ((root other).walk keys).found = ((root document).walk keys).found := by
    rw [found_walk, found_walk]
    exact h
  exact congrArg₂ Node.mk hfound hpath

lemma Dialect.Agree.cards_eq (h : dialect.Agree document other) :
    dialect.cards other = dialect.cards document := by
  cases dialect with
  | complete =>
    have hcount : ∀ key ∈ cardKeys,
        Reading.countVariable? (Place.dimensions other) key =
          Reading.countVariable? (Place.dimensions document) key := fun key hk =>
      countVariable?_eq rfl (onlyText_of_mem_cardKeys hk) (by simp [dimensionFields]) h.dimensions
    unfold Dialect.cards Reading.completeCards
    refine List.filterMap_congr fun report hr => ?_
    exact congrArg (Option.map _) (hcount report.1 (List.mem_map_of_mem hr))
  | legacy =>
    have hsections : List.Forall₂ (Reading.SectionsAlike cardFields)
        (Reading.sections (Place.cards document)) (Reading.sections (Place.cards other)) :=
      Reading.forall₂_sections rfl (h.cards rfl)
    exact Reading.map_sections_eq Reading.legacyCard (fun _ _ _ => Reading.legacyCard_eq) hsections

lemma Dialect.Agree.omitted_eq (h : dialect.Agree document other) :
    dialect.omitted other = dialect.omitted document := by
  cases dialect with
  | complete =>
    unfold Dialect.omitted Reading.omittedCards
    refine List.filter_congr fun key hk => ?_
    have hcount : Reading.countVariable? (Place.dimensions other) key =
        Reading.countVariable? (Place.dimensions document) key :=
      countVariable?_eq rfl (onlyText_of_mem_cardKeys hk) (by simp [dimensionFields])
        h.dimensions
    rw [hcount]
  | legacy => rfl

lemma Dialect.Agree.templates_eq (h : dialect.Agree document other) :
    dialect.templates other = dialect.templates document := by
  cases dialect with
  | complete => rfl
  | legacy =>
    have ht : (Node.root other).child "templates" = (Node.root document).child "templates" :=
      Node.walk_eq (h.templates rfl)
    exact congrArg (fun node => TemplateSet.merged node.value?) ht

/-- **A dialect reads nothing but its fields.** Two mappings of one dialect that have the same in
all of its fields give the same reading, or fail with the same error. -/
theorem read_eq_of_agree (hm : document.isMapping) (hm' : other.isMapping)
    (hd : Dialect.detect other = Dialect.detect document)
    (h : (Dialect.detect document).Agree document other) :
    Rules.read other = Rules.read document := by
  have hbands : (Dialect.detect document).bands other = (Dialect.detect document).bands document :=
    Dialect.bands_eq fun keys hk => Node.walk_eq (h.fixed keys hk) ▸ .refl _
  have hsections : List.Forall₂ (Reading.SectionsAlike (Dialect.detect document).dimensionFields)
      (Reading.sections (Place.dimensions document)) (Reading.sections (Place.dimensions other)) :=
    Reading.forall₂_sections rfl h.dimensions
  have hdimensions := Reading.map_sections_eq (Dialect.detect document).dimension
    (fun _ _ _ => Reading.dimension_eq) hsections
  have hreading : (Dialect.detect document).reading other =
      (Dialect.detect document).reading document := by
    funext bands
    simp only [Dialect.reading, h.cards_eq, h.omitted_eq, h.templates_eq, hdimensions]
  rw [Dialect.read_eq hm, Dialect.read_eq hm', hd, hbands, hreading]

/-- A complete document with two dimensions. -/
def plainDocument : Tree :=
  .mapping
    [(.text "global", .mapping []),
     (.text "dimension_scores", .mapping
       [(.text "enabled", .bool true),
        (.text "thresholds", .mapping
          [(.text "excellent", .mapping [(.text "value", .number (.integer 95))]),
           (.text "acceptable", .mapping [(.text "value", .number (.integer 80))])]),
        (.text "dimensions", .mapping
          [(.text "accuracy", .mapping [(.text "id", .text "a")]),
           (.text "skipped", .null)])]),
     (.text "error_distribution", .mapping
       [(.text "thresholds", .mapping
         [(.text "critical", .mapping [(.text "value", .number (.integer 5))]),
          (.text "high", .mapping [(.text "value", .number (.integer 3))]),
          (.text "medium", .mapping [(.text "value", .text "1")])])])]

/-- The same document with the fields of a legacy one, and some that no dialect reads. -/
def paddedDocument : Tree :=
  .mapping
    [(.text "templates", .mapping [(.text "dimension_score_html", .text "")]),
     (.text "error_distribution", .tagged "!e" (.mapping
       [(.text "dimensions", .mapping [(.text "accuracy", .mapping [(.text "label", .text "A")])]),
        (.text "thresholds", .mapping
         [(.text "medium", .mapping
            [(.text "min_count", .number (.integer 2)), (.text "value", .text "1")]),
          (.text "low", .list []),
          (.text "high", .mapping [(.text "value", .number (.integer 3))]),
          (.text "critical", .mapping [(.text "value", .number (.integer 5))])])])),
     (.text "dimension_scores", .mapping
       [(.text "enabled", .null),
        (.text "thresholds", .mapping
          [(.text "excellent", .mapping
            [(.text "percentage", .number (.integer 60)), (.text "value", .number (.integer 95))]),
           (.text "acceptable", .mapping [(.text "value", .number (.integer 80))])]),
        (.text "dimensions", .mapping
          [(.text "accuracy", .mapping
            [(.text "error_label_it", .text "E"), (.text "id", .text "a")]),
           (.list [], .mapping [(.text "id", .text "unnamed")]),
           (.text "skipped", .list [])])]),
     (.text "global", .mapping [(.text "version", .text "1.0")])]

theorem read_eq_of_agree_padded :
    plainDocument.isMapping ∧ paddedDocument.isMapping ∧
      Dialect.detect paddedDocument = Dialect.detect plainDocument ∧
      (Dialect.detect plainDocument).Agree plainDocument paddedDocument ∧
      ∃ r, Rules.read plainDocument = .ok r ∧ Rules.read paddedDocument = .ok r := by
  have hm : plainDocument.isMapping := by decide +kernel
  have hm' : paddedDocument.isMapping := by decide +kernel
  have hd : Dialect.detect plainDocument = .complete := by decide +kernel
  have hd' : Dialect.detect paddedDocument = Dialect.detect plainDocument := by decide +kernel
  have hfixed : ∀ keys ∈ Dialect.complete.fixedFields,
      paddedDocument.at? keys = plainDocument.at? keys := by
    simp only [Dialect.fixedFields, Dialect.figures, Severity.all, List.map_cons, List.map_nil,
      List.cons_append, List.nil_append, List.forall_mem_cons]
    exact ⟨rfl, rfl, rfl, rfl, rfl, rfl, rfl, rfl, rfl, rfl, List.forall_mem_nil _⟩
  have hagree : (Dialect.detect plainDocument).Agree plainDocument paddedDocument := by
    rw [hd]
    exact ⟨hfixed, rfl, fun h => absurd h (by decide), fun h => absurd h (by decide)⟩
  obtain ⟨r, hr, -⟩ := exists_ok_of_any (x := Rules.read plainDocument) (p := fun _ => true)
    (by decide +kernel)
  exact ⟨hm, hm', hd', hagree, r, hr, (read_eq_of_agree hm hm' hd' hagree).trans hr⟩

end

end QualityBands
