import QualityBands.Proofs.CleanText
import QualityBands.Proofs.Reading

/-!
The texts of a document, and what a reading takes from them.

Every text that a complete reading holds is a text of the document, a part of one, a number, or
a fixed label. So a document without delimiters gives rules without delimiters.
-/

namespace QualityBands

namespace Tree

mutual

/-- All texts of a document, keys and the contents of tags included. -/
def texts : Tree → List String
  | null | bool _ | number _ => []
  | text s => [s]
  | list items => itemTexts items
  | mapping entries => entryTexts entries
  | tagged _ content => content.texts

def itemTexts : List Tree → List String
  | [] => []
  | item :: rest => item.texts ++ itemTexts rest

def entryTexts : List (Tree × Tree) → List String
  | [] => []
  | (key, value) :: rest => key.texts ++ (value.texts ++ entryTexts rest)

end

lemma texts_untagged (t : Tree) : t.untagged.texts = t.texts := by
  induction t using untagged.induct with
  | case1 tag content ih => rw [untagged, ih, texts]
  | case2 t h => rw [untagged]; exact h

lemma entry_texts_subset {key value : Tree} {entries : List (Tree × Tree)}
    (h : (key, value) ∈ entries) :
    key.texts ⊆ entryTexts entries ∧ value.texts ⊆ entryTexts entries := by
  induction entries with
  | nil => cases h
  | cons entry entries ih =>
    obtain ⟨k, v⟩ := entry
    rw [entryTexts]
    rcases List.mem_cons.mp h with h | h
    · cases h
      exact ⟨List.subset_append_left _ _,
        fun s hs => List.mem_append_right _ (List.mem_append_left _ hs)⟩
    · exact ⟨fun s hs => List.mem_append_right _ (List.mem_append_right _ ((ih h).1 hs)),
        fun s hs => List.mem_append_right _ (List.mem_append_right _ ((ih h).2 hs))⟩

lemma entryTexts_of_entries? {t : Tree} {entries : List (Tree × Tree)}
    (h : t.entries? = some entries) : entryTexts entries = t.texts := by
  rw [← texts_untagged]
  unfold entries? at h
  split at h
  · next es he => cases h; rw [he, texts]
  · cases h

lemma texts_subset_of_get? {t value : Tree} {key : String} (h : t.get? key = some value) :
    value.texts ⊆ t.texts := by
  simp only [get?, Option.bind_eq_bind, Option.bind_eq_some_iff] at h
  obtain ⟨entries, he, ⟨k, v⟩, hf, hv⟩ := h
  cases hv
  rw [← entryTexts_of_entries? he]
  exact (entry_texts_subset (List.mem_of_find?_eq_some hf)).2

/-- A document without delimiters. -/
def Clean (t : Tree) : Prop := ∀ s ∈ t.texts, QualityBands.Clean s

lemma Clean.scalarText {t : Tree} (h : t.Clean) {s : String} (hs : t.scalarText? = some s) :
    QualityBands.Clean s := by
  cases t with
  | text _ => cases hs; exact h s (by simp [texts])
  | number n => cases hs; exact n.clean_text
  | bool b => cases hs; cases b <;> exact clean_of_not_mem (by decide)
  | _ => cases hs

end Tree

/-! ### Nodes -/

namespace Node

/-- A node at which there is nothing with a delimiter. -/
def Clean (node : Node) : Prop := ∀ t, node.found = some t → t.Clean

variable {node : Node}

lemma clean_root {document : Tree} (h : document.Clean) : (root document).Clean := by
  rintro _ ⟨⟩
  exact h

lemma Clean.child (h : node.Clean) (key : String) : (node.child key).Clean := by
  intro t ht
  obtain ⟨parent, hp, hg⟩ := Option.bind_eq_some_iff.mp ht
  exact fun s hs => h parent hp s (Tree.texts_subset_of_get? hg hs)

lemma Clean.value? (h : node.Clean) {t : Tree} (ht : node.value? = some t) : t.Clean :=
  h t (Option.filter_eq_some_iff.mp ht).1

lemma Clean.text? (h : node.Clean) {s : String} (hs : node.text? = some s) :
    QualityBands.Clean s := by
  obtain ⟨t, ht, hs⟩ := Option.bind_eq_some_iff.mp hs
  exact (h.value? ht).scalarText hs

lemma Clean.truthyText? (h : node.Clean) {s : String} (hs : node.truthyText? = some s) :
    QualityBands.Clean s := by
  obtain ⟨t, ht, hs⟩ := Option.bind_eq_some_iff.mp hs
  exact (h.value? (Option.filter_eq_some_iff.mp ht).1).scalarText hs

lemma clean_getD {found : Option String} {default : String} (hd : QualityBands.Clean default)
    (h : ∀ s, found = some s → QualityBands.Clean s) : QualityBands.Clean (found.getD default) := by
  cases found with
  | none => exact hd
  | some s => exact h s rfl

lemma Clean.field (h : node.Clean) (key : String) : QualityBands.Clean (Reading.field node key) :=
  clean_getD (clean_of_not_mem (by decide)) fun _ => (h.child key).text?

lemma Clean.firstText (h : node.Clean) (candidates : List String) :
    QualityBands.Clean (node.firstText candidates) := by
  refine clean_getD (clean_of_not_mem (by decide)) fun s hs => ?_
  obtain ⟨place, hp, hs⟩ := Option.bind_eq_some_iff.mp hs
  obtain ⟨key, -, rfl⟩ := List.mem_map.mp (List.mem_of_find?_eq_some hp)
  exact (h.child key).text? hs

lemma Clean.labelOr (h : node.Clean) (severity : Severity) :
    QualityBands.Clean (Reading.labelOr node severity) :=
  clean_getD (clean_of_not_mem (by cases severity <;> decide)) fun _ =>
     (h.child "label_it").text?

lemma Clean.sections (h : node.Clean) {key : String} {entry : Node}
    (he : (key, entry) ∈ Reading.sections node) : entry.Clean := by
  obtain ⟨⟨k, v⟩, hm, hk⟩ := List.mem_filterMap.mp (List.mem_of_mem_filter he)
  obtain ⟨_, -, heq⟩ := Option.map_eq_some_iff.mp hk
  cases heq
  rintro _ ⟨⟩
  cases hv : node.value?.bind Tree.entries? with
  | none => simp [hv] at hm
  | some entries =>
    obtain ⟨t, ht, hes⟩ := Option.bind_eq_some_iff.mp hv
    rw [hv, Option.getD_some] at hm
    have hsub := (Tree.entry_texts_subset hm).2
    rw [Tree.entryTexts_of_entries? hes] at hsub
    exact fun s hs => h.value? ht s (hsub hs)

end Node

/-! ### Complete readings -/

namespace Reading.IsComplete

variable {document : Tree} {r : Reading}

lemma clean_dimension (h : IsComplete document r) (hc : document.Clean) {d : Dimension}
    (hd : d ∈ r.rules.dimensions) :
    Clean d.scoreVariable ∧ Clean d.errorVariable ∧ Clean d.labelIt ∧ Clean d.labelEn ∧
      Clean d.descriptionIt ∧ Clean d.errorLabelIt := by
  rw [h.dimensions] at hd
  obtain ⟨⟨key, node⟩, hm, rfl⟩ := List.mem_map.mp hd
  have hn : node.Clean := (((Node.clean_root hc).child _).child _).sections hm
  exact ⟨hn.firstText _, hn.firstText _, (hn.field _).cleanLabel, hn.field _, hn.field _,
    show Clean Rules.defaultErrorLabelIt from clean_of_not_mem (by decide)⟩

lemma clean_card (h : IsComplete document r) (hc : document.Clean) {c : ErrorCard}
    (hd : c ∈ r.rules.cards) :
    Clean c.countVariable ∧ Clean c.label ∧ Clean c.subtitleIt := by
  rw [h.cards] at hd
  obtain ⟨⟨key, label, subtitle⟩, hm, hs⟩ := List.mem_filterMap.mp hd
  obtain ⟨name, hv, rfl⟩ := Option.map_eq_some_iff.mp hs
  have hfixed : ∀ card ∈ reportCards, '@' ∉ card.2.1.toList ∧ '@' ∉ card.2.2.toList := by
    decide
  have hn := (((Node.clean_root hc).child "dimension_scores").child "dimensions").child key
  exact ⟨(hn.child "variable_count").truthyText? hv, clean_of_not_mem (hfixed _ hm).1,
    clean_of_not_mem (hfixed _ hm).2⟩

lemma clean_labelIt (h : IsComplete document r) (hc : document.Clean) (severity : Severity) :
    Clean (r.rules.counts.labelIt severity) := by
  have hn (key : String) : ((Place.counts document).child key).Clean :=
    (((Node.clean_root hc).child _).child _).child key
  cases hf : r.rules.counts.floor? severity with
  | some floor =>
    obtain ⟨_, -, -, hl⟩ := strictFloor_eq_ok_iff.mp (h.strictFloor hf)
    rw [CountBands.labelIt_of_floor hf, hl]
    exact (hn _).labelOr _
  | none =>
    obtain ⟨-, -, -, -, hl⟩ := counts_eq_ok_iff.mp h.counts
    rw [CountBands.eq_low_of_floor hf, CountBands.labelIt, hl]
    exact (hn _).labelOr _

end Reading.IsComplete

end QualityBands
