import QualityBands.Proofs.Keyed
import QualityBands.Proofs.Reading
import QualityBands.Proofs.TemplateSets
import QualityBands.Rules.Outline
import QualityBands.Rules.Validation
import QualityBands.Snippets

/-!
Rules are read back from what they are printed as.

Printed rules are a document of the legacy dialect, whatever dialect they were read from. All
of their fields are texts and numbers and come back as they are; items with the same key become
one item.
-/

namespace QualityBands

/-! ### Items under their keys -/

/-- The sections of a printed mapping are its items, each key once. -/
lemma Reading.sections_fields {α : Type} (key : α → String) (value : α → Outline) (xs : List α)
    {node : Node}
    (h : node.found = some (Outline.fields (xs.map fun x => (key x, value x))).toTree)
    (hm : ∀ y path, Node.isMapping ⟨some (value y).toTree, path⟩) :
    sections node = (collapsed key xs).map fun y =>
      (key y, ⟨some (value y).toTree, Node.extend node.path (key y)⟩) := by
  have hv : node.value?.bind Tree.entries? =
      some ((collapsed key xs).map (Outline.entry key value)) := by
    rw [Node.value?, h, Outline.toTree_fields]
    rfl
  have he : node.entries = (collapsed key xs).map fun y =>
      (key y, ⟨some (value y).toTree, Node.extend node.path (key y)⟩) := by
    rw [Node.entries, hv, Option.getD_some, List.filterMap_map, ← List.filterMap_eq_map]
    rfl
  rw [sections, he, List.filter_eq_self]
  exact List.forall_mem_map.mpr fun y _ => hm y _

/-! ### Fields -/

lemma Node.toCount_integer {node : Node} {n : Count}
    (h : node.found = some (.number (.integer n.val))) : node.toCount = .ok n := by
  have hv : node.value?.bind readCount? = some n := by
    have hread : readCount? (.number (.integer n.val)) = some n := by
      simp only [readCount?, n.ofInt?_val]
    rw [value?, h]
    exact hread
  rw [toCount, hv]

lemma Node.toCountOr_integer {node : Node} {n : Count} (default : Count)
    (h : node.found = some (.number (.integer n.val))) : node.toCountOr default = .ok n := by
  have hv : node.value?.isSome := by
    rw [value?, h]
    rfl
  rw [toCountOr, if_pos hv, toCount_integer h]

namespace Rules

variable (rules : Rules)

lemma counts_outline : Reading.counts (Place.counts rules.outline.toTree)
    Reading.inclusiveFloor "max_count" = .ok rules.counts := by
  simp only [Reading.counts_eq_ok_iff, Reading.inclusiveFloor_eq_ok_iff]
  exact ⟨⟨Node.toCount_integer rfl, rfl⟩, ⟨Node.toCount_integer rfl, rfl⟩,
    ⟨Node.toCount_integer rfl, rfl⟩, Node.toCountOr_integer _ rfl, rfl⟩

lemma dimensions_outline : (Reading.sections (Place.dimensions rules.outline.toTree)).map
      (fun (key, node) => Reading.legacyDimension key node) =
    collapsed (·.key) rules.dimensions := by
  rw [Reading.sections_fields (·.key) Dimension.outline rules.dimensions rfl fun _ _ => rfl,
    List.map_map]
  exact List.map_id _

lemma cards_outline :
    (Reading.sections ((Place.errors rules.outline.toTree).child "dimensions")).map
      (fun (key, node) => Reading.legacyCard key node) =
    collapsed (·.key) rules.cards := by
  rw [Reading.sections_fields (·.key) ErrorCard.outline rules.cards rfl fun _ _ => rfl,
    List.map_map]
  exact List.map_id _

/-- The rules with each key once. -/
def settled : Rules :=
  { rules with
    dimensions := collapsed (·.key) rules.dimensions
    cards := collapsed (·.key) rules.cards }

lemma isLegacy_outline (h : rules.templates.Ordered) :
    Reading.IsLegacy rules.outline.toTree ⟨rules.settled, .legacy, []⟩ where
  excellent := rfl
  acceptable := rfl
  counts := rules.counts_outline
  dimensions := rules.dimensions_outline.symm
  cards := rules.cards_outline.symm
  templates := h.merged_outline.symm
  dialect := rfl
  omitted := rfl

/-- A printed document has no global section, so it is read as a legacy one. -/
lemma read_settled (h : rules.templates.Ordered) :
    Rules.read rules.outline.toTree = .ok ⟨rules.settled, .legacy, []⟩ :=
  Reading.read_eq_ok_iff.mpr ⟨rfl, Or.inr ⟨rfl, rules.isLegacy_outline h⟩⟩

lemma settled_of_nodup (hd : (rules.dimensions.map (·.key)).Nodup)
    (hc : (rules.cards.map (·.key)).Nodup) : rules.settled = rules := by
  rw [settled, collapsed_of_nodup hd, collapsed_of_nodup hc]

end Rules

/-! ### The round trip -/

variable {document : Tree} {a : Reading}

lemma ordered_templates (h : Rules.read document = .ok a) : a.rules.templates.Ordered := by
  rcases (Reading.read_eq_ok_iff.mp h).2 with ⟨-, hr⟩ | ⟨-, hr⟩
  · rw [hr.templates]
    exact TemplateSet.ordered_builtin
  · rw [hr.templates]
    exact TemplateSet.ordered_merged _

/-- **Printed rules are read back.** Rules of either dialect are printed as a legacy document
that gives the same bands and templates, and the items with each key once; where the keys
differ it gives the same rules, which are as valid and look the same. -/
theorem read_outline (h : Rules.read document = .ok a) :
    ∃ b, Rules.read a.rules.outline.toTree = .ok b ∧ b.dialect = .legacy ∧ b.omitted = [] ∧
      b.rules.scores = a.rules.scores ∧ b.rules.counts = a.rules.counts ∧
      b.rules.templates = a.rules.templates ∧
      b.rules.dimensions = collapsed (·.key) a.rules.dimensions ∧
      b.rules.cards = collapsed (·.key) a.rules.cards ∧
      ((a.rules.dimensions.map (·.key)).Nodup → (a.rules.cards.map (·.key)).Nodup →
        b.rules = a.rules ∧ b.rules.validate = a.rules.validate ∧
          Snippets.render b.rules = Snippets.render a.rules) := by
  refine ⟨_, a.rules.read_settled (ordered_templates h), rfl, rfl, rfl, rfl, rfl, rfl, rfl,
    fun hd hc => ?_⟩
  rw [a.rules.settled_of_nodup hd hc]
  exact ⟨rfl, rfl, rfl⟩

/-- A document with two keys of one text, a percentage that is no number and one template more. -/
def repeatedKeyDocument : Tree :=
  .mapping
    [(.text "dimension_scores", .mapping
       [(.text "thresholds", .mapping
          [(.text "excellent", .mapping [(.text "percentage", .number (.float .nan))]),
           (.text "acceptable", .mapping [(.text "min_percentage", .number (.integer 80))])]),
        (.text "dimensions", .mapping
          [(.number (.integer 1), .mapping [(.text "variable", .text "first")]),
           (.text "2", .mapping [(.text "variable", .text "other")]),
           (.text "1", .mapping [(.text "variable", .text "last")])])]),
     (.text "error_distribution", .mapping
       [(.text "thresholds", .mapping
         [(.text "critical", .mapping [(.text "min_count", .number (.integer 3))]),
          (.text "high", .mapping [(.text "min_count", .number (.integer 2))]),
          (.text "medium", .mapping [(.text "min_count", .number (.integer 1))])])]),
     (.text "templates", .mapping [(.text "more", .text "")])]

theorem read_outline_repeated_key :
    ∃ a b, Rules.read repeatedKeyDocument = .ok a ∧ Rules.read a.rules.outline.toTree = .ok b ∧
      a.rules.dimensions.map (·.scoreVariable) = ["first", "other", "last"] ∧
      b.rules.dimensions.map (·.scoreVariable) = ["last", "other"] ∧
      b.rules.scores.excellent = .nan ∧ b.rules.templates.extra = [("more", "")] := by
  obtain ⟨a, ha, hd, hs, ht⟩ : ∃ a, Rules.read repeatedKeyDocument = .ok a ∧
      a.rules.dimensions =
        [⟨"1", "first", "", "", "", "", Rules.defaultErrorLabelIt⟩,
         ⟨"2", "other", "", "", "", "", Rules.defaultErrorLabelIt⟩,
         ⟨"1", "last", "", "", "", "", Rules.defaultErrorLabelIt⟩] ∧
      a.rules.scores.excellent = .nan ∧ a.rules.templates.extra = [("more", "")] :=
    ⟨_, rfl, rfl, rfl, rfl⟩
  obtain ⟨b, hb, -, -, hsb, -, htb, hdb, -⟩ := read_outline ha
  refine ⟨a, b, ha, hb, by rw [hd]; rfl, ?_, hsb ▸ hs, htb ▸ ht⟩
  rw [hdb, hd]
  decide +kernel

end QualityBands
