import Mathlib.Data.List.Induction
import Mathlib.Data.List.Nodup
import Mathlib.Tactic.Lemma
import QualityBands.Outline

/-!
Mappings that are printed from items with keys.

Assigning the items one after another leaves one entry for each key, at the place of the first
item and with the value of the last.
-/

namespace QualityBands

variable {α : Type} {key : α → String} {x : α} {xs : List α}

/-- The keys in the order of their first items, each with its last item. -/
def collapsed (key : α → String) (items : List α) : List α :=
  (items.map key).eraseDups.filterMap fun k => items.reverse.find? (key · = k)

/-- Puts an item into the place of the first item with its key, or at the end. -/
def place (key : α → String) (x : α) : List α → List α
  | [] => [x]
  | y :: ys => if key x = key y then x :: ys else y :: place key x ys

/-! ### Placing items one after another -/

lemma eraseDups_concat (ks : List String) (k : String) :
    (ks ++ [k]).eraseDups = if k ∈ ks then ks.eraseDups else ks.eraseDups ++ [k] := by
  rw [List.eraseDups_append]
  split
  · next h => simp [List.removeAll, h]
  · next h => simp [List.removeAll, h, List.eraseDups_cons]

lemma nodup_eraseDups (ks : List String) : ks.eraseDups.Nodup := by
  induction ks using List.reverseRecOn with
  | nil => exact List.nodup_nil
  | append_singleton ks k ih =>
    rw [eraseDups_concat]
    split
    · exact ih
    · next h =>
      refine List.nodup_append.mpr ⟨ih, List.nodup_singleton k, ?_⟩
      rintro a ha _ hb rfl
      exact h (List.mem_singleton.mp hb ▸ List.mem_eraseDups.mp ha)

lemma place_filterMap {ks : List String} {f : String → Option α} (hn : ks.Nodup)
    (hf : ∀ k ∈ ks, ∃ y, f k = some y ∧ key y = k) :
    place key x (ks.filterMap f) = (if key x ∈ ks then ks else ks ++ [key x]).filterMap
      fun k => if key x = k then some x else f k := by
  induction ks with
  | nil => simp [place]
  | cons k ks ih =>
    obtain ⟨hk, hn⟩ := List.nodup_cons.mp hn
    obtain ⟨⟨y, hy, hky⟩, hf⟩ := List.forall_mem_cons.mp hf
    rw [List.filterMap_cons_some hy, place, hky]
    by_cases h : key x = k
    -- no other key is affected, as the keys are different
    · have hrest : ks.filterMap (fun k => if key x = k then some x else f k) =
          ks.filterMap f := by
        refine List.filterMap_congr fun k' hk' => if_neg fun he => hk ?_
        rwa [← h, he]
      simp [h, ← hrest]
    · have hmem : key x ∈ k :: ks ↔ key x ∈ ks := by simp [h]
      rw [if_neg h, ih hn hf]
      by_cases hx : key x ∈ ks <;> simp [h, hx, hy]

/-- Every key has a last item. -/
lemma exists_last {k : String} (h : k ∈ (xs.map key).eraseDups) :
    ∃ y, xs.reverse.find? (key · = k) = some y ∧ key y = k := by
  obtain ⟨y, hy, hky⟩ := List.mem_map.mp (List.mem_eraseDups.mp h)
  obtain ⟨z, hz⟩ : ∃ z, xs.reverse.find? (key · = k) = some z := by
    rw [← Option.isSome_iff_exists, List.find?_isSome]
    exact ⟨y, List.mem_reverse.mpr hy, decide_eq_true hky⟩
  exact ⟨z, hz, by simpa using List.find?_some hz⟩

lemma collapsed_concat : collapsed key (xs ++ [x]) = place key x (collapsed key xs) := by
  rw [collapsed, collapsed, place_filterMap (nodup_eraseDups _) fun _ => exists_last]
  simp only [List.map_append, List.map_cons, List.map_nil, eraseDups_concat, List.mem_eraseDups,
    List.reverse_append, List.reverse_cons, List.reverse_nil, List.nil_append, List.cons_append,
    List.find?_cons]
  congr 1
  funext k
  by_cases h : key x = k <;> simp [h]

lemma foldl_place : xs.foldl (fun done x => place key x done) [] = collapsed key xs := by
  induction xs using List.reverseRecOn with
  | nil => rfl
  | append_singleton xs x ih =>
    rw [List.foldl_append, ih, collapsed_concat]
    rfl

lemma place_of_not_mem (h : key x ∉ xs.map key) : place key x xs = xs ++ [x] := by
  induction xs with
  | nil => rfl
  | cons y ys ih =>
    rw [List.map_cons, List.mem_cons, not_or] at h
    rw [place, if_neg h.1, ih h.2, List.cons_append]

/-- Items with different keys all stay. -/
lemma collapsed_of_nodup (h : (xs.map key).Nodup) : collapsed key xs = xs := by
  induction xs using List.reverseRecOn with
  | nil => rfl
  | append_singleton xs x ih =>
    rw [List.map_append, List.map_singleton, List.nodup_append] at h
    obtain ⟨hn, -, hd⟩ := h
    rw [collapsed_concat, ih hn, place_of_not_mem]
    exact fun hm => hd _ hm _ (List.mem_singleton.mpr rfl) rfl

/-- What is left has each key once. -/
lemma map_collapsed : (collapsed key xs).map key = (xs.map key).eraseDups := by
  rw [collapsed, List.map_filterMap]
  have hkey : ∀ k ∈ (xs.map key).eraseDups,
      (xs.reverse.find? (key · = k)).map key = some k := by
    intro k hk
    obtain ⟨y, hy, hky⟩ := exists_last hk
    rw [hy, Option.map_some, hky]
  rw [List.filterMap_congr hkey, List.filterMap_some]

/-- Items stay as they are only if their keys differ. -/
lemma collapsed_eq_iff : collapsed key xs = xs ↔ (xs.map key).Nodup := by
  refine ⟨fun h => ?_, collapsed_of_nodup⟩
  rw [← h, map_collapsed]
  exact nodup_eraseDups _

lemma find?_eq_some_iff_of_nodup (h : (xs.map key).Nodup) {k : String} :
    xs.find? (key · = k) = some x ↔ x ∈ xs ∧ key x = k := by
  refine ⟨fun hf => ⟨List.mem_of_find?_eq_some hf, by simpa using List.find?_some hf⟩, ?_⟩
  rintro ⟨hx, rfl⟩
  induction xs with
  | nil => cases hx
  | cons y ys ih =>
    obtain ⟨hy, hys⟩ := List.nodup_cons.mp h
    rw [List.find?_cons]
    rcases List.mem_cons.mp hx with rfl | hx
    · rw [decide_eq_true rfl]
    · have hne : key y ≠ key x := fun heq => hy (heq ▸ List.mem_map_of_mem hx)
      rw [decide_eq_false hne]
      exact ih hys hx

/-- A lookup finds the first entry of its key. -/
lemma lookup_cons_eq {β : Type} (key name : String) (value : β) (entries : List (String × β)) :
    ((key, value) :: entries).lookup name =
      if name = key then some value else entries.lookup name := by
  rw [List.lookup_cons]
  by_cases h : name = key
  · simp [h]
  · rw [beq_false_of_ne h, if_neg h]

/-! ### Mappings of items -/

namespace Outline

variable (key : α → String) (value : α → Outline)

/-- The entry of an item in a mapping. -/
def entry (x : α) : Tree × Tree := (.text (key x), (value x).toTree)

lemma assign_map : Tree.assign (.text (key x)) (value x).toTree (xs.map (entry key value)) =
    (place key x xs).map (entry key value) := by
  induction xs with
  | nil => rfl
  | cons y ys ih =>
    rw [List.map_cons, entry, Tree.assign, place, Tree.same, ih]
    by_cases h : key x = key y <;> simp [h, entry]

lemma toEntries_map (xs : List α) :
    toEntries (xs.map fun x => (key x, value x)) = xs.map (entry key value) := by
  induction xs with
  | nil => rfl
  | cons x xs ih => rw [List.map_cons, toEntries, ih, List.map_cons, entry]

lemma foldl_assign_map (xs done : List α) :
    (xs.map (entry key value)).foldl (fun done (k, v) => Tree.assign k v done)
        (done.map (entry key value)) =
      (xs.foldl (fun done x => place key x done) done).map (entry key value) := by
  induction xs generalizing done with
  | nil => rfl
  | cons x xs ih =>
    rw [List.map_cons, List.foldl_cons, List.foldl_cons, ← ih, ← assign_map, entry]

/-- The tree of a mapping has one entry for each key. -/
lemma toTree_fields (xs : List α) : (fields (xs.map fun x => (key x, value x))).toTree =
    .mapping ((collapsed key xs).map (entry key value)) := by
  have h := foldl_assign_map key value xs []
  rw [List.map_nil, foldl_place] at h
  rw [toTree, toEntries_map, Tree.ofEntries, h]

end Outline

end QualityBands
