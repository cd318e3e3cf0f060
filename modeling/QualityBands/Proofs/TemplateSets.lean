import Mathlib.Data.String.Basic
import QualityBands.Proofs.Keyed
import QualityBands.Template.TemplateSet

/-!
Sets of templates keep their order and give themselves back.

However a set has come about, its further templates are sorted by name and none of them has a
required name. Inserting the entries of such a set again from the first to the last gives the
set.
-/

namespace QualityBands.TemplateSet

variable {set : TemplateSet} {name text : String} {entries : List (String × String)}

/-- The further templates are sorted by name and not under a required name. -/
structure Ordered (set : TemplateSet) : Prop where
  sorted : set.extra.Pairwise (·.1 < ·.1)
  apart : ∀ e ∈ set.extra, e.1 ≠ dimensionScoreName ∧ e.1 ≠ errorCardName

/-! ### One text -/

lemma mem_put {e : String × String} (h : e ∈ put name text entries) :
    e = (name, text) ∨ e ∈ entries := by
  induction entries with
  | nil => exact Or.inl (List.mem_singleton.mp h)
  | cons entry rest ih =>
    rw [put] at h
    split_ifs at h with hlt heq
    · exact List.mem_cons.mp h
    · subst heq
      exact (List.mem_cons.mp h).imp id (List.mem_cons_of_mem _)
    · rcases List.mem_cons.mp h with rfl | h
      · exact Or.inr List.mem_cons_self
      · exact (ih h).imp id (List.mem_cons_of_mem _)

lemma sorted_put (h : entries.Pairwise (·.1 < ·.1)) :
    (put name text entries).Pairwise (·.1 < ·.1) := by
  induction entries with
  | nil => exact List.pairwise_singleton _ _
  | cons entry rest ih =>
    obtain ⟨hfirst, hrest⟩ := List.pairwise_cons.mp h
    rw [put]
    split_ifs with hlt heq
    · refine List.pairwise_cons.mpr ⟨fun e he => ?_, h⟩
      rcases List.mem_cons.mp he with rfl | he
      · exact hlt
      · exact hlt.trans (hfirst e he)
    · exact List.pairwise_cons.mpr ⟨hfirst, hrest⟩
    · refine List.pairwise_cons.mpr ⟨fun e he => ?_, ih hrest⟩
      rcases mem_put he with rfl | he
      · exact lt_of_le_of_ne (not_lt.mp hlt) (Ne.symm heq)
      · exact hfirst e he

/-- A name behind all others goes to the end. -/
lemma put_of_forall_lt (h : ∀ e ∈ entries, e.1 < name) :
    put name text entries = entries ++ [(name, text)] := by
  induction entries with
  | nil => rfl
  | cons entry rest ih =>
    obtain ⟨hfirst, hrest⟩ := List.forall_mem_cons.mp h
    rw [put, if_neg hfirst.not_gt, if_neg hfirst.ne', ih hrest, List.cons_append]

lemma Ordered.insert (h : Ordered set) (name text : String) : Ordered (set.insert name text) := by
  unfold TemplateSet.insert
  split_ifs with hd he
  · exact ⟨h.sorted, h.apart⟩
  · exact ⟨h.sorted, h.apart⟩
  · refine ⟨sorted_put h.sorted, fun e hm => ?_⟩
    rcases mem_put hm with rfl | hm
    · exact ⟨hd, he⟩
    · exact h.apart e hm

/-! ### The order of insertions -/

lemma put_comm_of_lt {other : String} (hlt : name < other) (s t : String) :
    put other t (put name s entries) = put name s (put other t entries) := by
  induction entries with
  | nil => simp [put, hlt, hlt.not_gt, hlt.ne']
  | cons entry rest ih =>
    rcases lt_trichotomy name entry.1 with hn | rfl | hn
    · rcases lt_trichotomy other entry.1 with ho | rfl | ho
      · simp [put, hn, ho, hlt, hlt.not_gt, hlt.ne']
      · simp [put, hn, hlt.not_gt, hlt.ne']
      · simp [put, hn, hlt.not_gt, hlt.ne', ho.not_gt, ho.ne']
    · simp [put, hlt.not_gt, hlt.ne']
    · have ho : entry.1 < other := hn.trans hlt
      simp [put, hn.not_gt, hn.ne', ho.not_gt, ho.ne', ih]

/-- Texts under different names can be put in either order. -/
lemma put_comm {other : String} (hne : name ≠ other) (s t : String) :
    put other t (put name s entries) = put name s (put other t entries) := by
  rcases lt_or_gt_of_ne hne with hlt | hlt
  · exact put_comm_of_lt hlt s t
  · exact (put_comm_of_lt hlt t s).symm

lemma insert_comm {other : String} (hne : name ≠ other) (s t : String) :
    (set.insert name s).insert other t = (set.insert other t).insert name s := by
  unfold insert
  split_ifs <;> simp_all [put_comm hne]

/-- Inserting entries of different names gives the same set in any order. -/
lemma foldl_insert_of_perm {others : List (String × String)} (hp : entries.Perm others)
    (hn : (entries.map (·.1)).Nodup) :
    others.foldl (fun set (name, text) => set.insert name text) set =
      entries.foldl (fun set (name, text) => set.insert name text) set := by
  refine (hp.foldl_eq' (fun e he e' he' set => ?_) set).symm
  by_cases hname : e.1 = e'.1
  · rw [List.inj_on_of_nodup_map hn he he' hname]
  · exact insert_comm hname e.2 e'.2

/-! ### Whole sets -/

lemma ordered_foldl (h : Ordered set) (entries : List (String × String)) :
    Ordered (entries.foldl (fun set (name, text) => set.insert name text) set) := by
  induction entries generalizing set with
  | nil => exact h
  | cons entry rest ih => exact ih (h.insert entry.1 entry.2)

lemma ordered_builtin : Ordered builtin := ⟨List.Pairwise.nil, nofun⟩

lemma ordered_merged (overrides : Option Tree) : Ordered (merged overrides) :=
  ordered_foldl ordered_builtin _

lemma foldl_insert (hs : (set.extra ++ entries).Pairwise (·.1 < ·.1))
    (ha : ∀ e ∈ entries, e.1 ≠ dimensionScoreName ∧ e.1 ≠ errorCardName) :
    entries.foldl (fun set (name, text) => set.insert name text) set =
      { set with extra := set.extra ++ entries } := by
  induction entries generalizing set with
  | nil => simp
  | cons entry rest ih =>
    obtain ⟨⟨hd, he⟩, ha⟩ := List.forall_mem_cons.mp ha
    have hlt : ∀ e ∈ set.extra, e.1 < entry.1 := fun e hm =>
      (List.pairwise_append.mp hs).2.2 e hm entry List.mem_cons_self
    have hi : set.insert entry.1 entry.2 = { set with extra := set.extra ++ [entry] } := by
      rw [TemplateSet.insert, if_neg hd, if_neg he, put_of_forall_lt hlt]
    rw [List.foldl_cons]
    show rest.foldl _ (set.insert entry.1 entry.2) = _
    rw [hi, ih (by simpa using hs) ha]
    simp

lemma Ordered.nodup (h : Ordered set) : (set.toList.map (·.1)).Nodup := by
  have hne : dimensionScoreName ≠ errorCardName := by decide
  have hn : (set.extra.map (·.1)).Nodup :=
    (List.pairwise_map.mpr h.sorted).imp fun hlt => hlt.ne
  simp only [toList, List.map_cons, List.nodup_cons, List.mem_cons, not_or]
  refine ⟨⟨hne, fun hm => ?_⟩, fun hm => ?_, hn⟩
  · obtain ⟨e, he, hname⟩ := List.mem_map.mp hm
    exact (h.apart e he).1 hname
  · obtain ⟨e, he, hname⟩ := List.mem_map.mp hm
    exact (h.apart e he).2 hname

lemma Ordered.textEntries (h : Ordered set) :
    TemplateSet.textEntries set.outline.toTree = set.toList := by
  have ht : set.outline.toTree =
      .mapping (set.toList.map (Outline.entry (·.1) fun e => .text e.2)) := by
    have ht := Outline.toTree_fields (·.1) (fun e : String × String => .text e.2) set.toList
    rwa [collapsed_of_nodup h.nodup] at ht
  have he : set.outline.toTree.entries? =
      some (set.toList.map (Outline.entry (·.1) fun e => .text e.2)) := by
    rw [ht]
    rfl
  rw [TemplateSet.textEntries, he, Option.getD_some, List.filterMap_map]
  exact List.filterMap_some

/-- The templates of a set are read back from what the set is printed as. -/
lemma Ordered.merged_outline (h : Ordered set) : merged (some set.outline.toTree) = set := by
  rw [merged, Option.map_some, Option.getD_some, h.textEntries]
  simp only [toList, List.foldl_cons]
  have hb : (builtin.insert dimensionScoreName set.dimensionScore).insert errorCardName
      set.errorCard = { set with extra := [] } := by
    simp [TemplateSet.insert, builtin, dimensionScoreName, errorCardName]
  rw [hb, foldl_insert (by simpa using h.sorted) h.apart]
  simp

end QualityBands.TemplateSet
