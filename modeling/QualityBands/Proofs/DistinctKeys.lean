import Mathlib.Tactic.Lemma
import QualityBands.Tree.Node
import QualityBands.Tree.Same

/-!
Mappings that have each key once.

In a mapping without repeated keys a text is the key of at most one entry. Looking the key up
and going through the entries then find the same value, and the order of the entries has no
part in it.
-/

namespace QualityBands.Tree

/-- Whether no entry has the key of an earlier one. -/
def EachOnce (entries : List (Tree × Tree)) : Prop := entries.Pairwise fun a b => ¬ same b.1 a.1

mutual

/-- Whether every mapping in a tree has each key once. -/
def keysDiffer : Tree → Bool
  | null | bool _ | number _ | text _ => true
  | list items => itemKeysDiffer items
  | mapping entries => entryKeysDiffer entries
  | tagged _ content => content.keysDiffer

def itemKeysDiffer : List Tree → Bool
  | [] => true
  | item :: rest => item.keysDiffer && itemKeysDiffer rest

def entryKeysDiffer : List (Tree × Tree) → Bool
  | [] => true
  | (key, value) :: rest =>
    key.keysDiffer && value.keysDiffer && rest.all (fun (k, _) => !same k key) &&
      entryKeysDiffer rest

end

lemma keysDiffer_list {items : List Tree} :
    (list items).keysDiffer ↔ ∀ item ∈ items, item.keysDiffer := by
  rw [keysDiffer]
  induction items with
  | nil => simp [itemKeysDiffer]
  | cons item rest ih => simp [itemKeysDiffer, ih]

lemma keysDiffer_mapping {entries : List (Tree × Tree)} :
    (mapping entries).keysDiffer ↔
      EachOnce entries ∧ ∀ entry ∈ entries, entry.1.keysDiffer ∧ entry.2.keysDiffer := by
  rw [keysDiffer]
  induction entries with
  | nil => simp [entryKeysDiffer, EachOnce]
  | cons entry rest ih =>
    simp only [entryKeysDiffer, Bool.and_eq_true, ih, EachOnce, List.pairwise_cons,
      List.forall_mem_cons, List.all_eq_true, Bool.not_eq_true', Bool.not_eq_true]
    exact ⟨fun ⟨⟨hd, hf⟩, hr, hds⟩ => ⟨⟨hf, hr⟩, hd, hds⟩,
      fun ⟨⟨hf, hr⟩, hd, hds⟩ => ⟨⟨hd, hf⟩, hr, hds⟩⟩

/-- A new key can be put behind the others. -/
lemma keysDiffer_concat {done : List (Tree × Tree)} {key value : Tree}
    (hd : (mapping done).keysDiffer) (hk : key.keysDiffer) (hv : value.keysDiffer)
    (hnew : ¬ hasKey key done) : (mapping (done ++ [(key, value)])).keysDiffer := by
  obtain ⟨honce, hall⟩ := keysDiffer_mapping.mp hd
  refine keysDiffer_mapping.mpr ⟨?_, ?_⟩
  · refine List.pairwise_append.mpr ⟨honce, List.pairwise_singleton _ _, ?_⟩
    intro entry he last hl
    rw [List.mem_singleton.mp hl]
    exact fun hsame => hnew (List.any_eq_true.mpr ⟨entry, he, hsame⟩)
  · intro entry he
    rcases List.mem_append.mp he with he | he
    · exact hall entry he
    · rw [List.mem_singleton.mp he]
      exact ⟨hk, hv⟩

lemma keysDiffer_untagged {t : Tree} : t.untagged.keysDiffer = t.keysDiffer := by
  induction t using untagged.induct with
  | case1 tag content ih => rw [untagged, ih, keysDiffer]
  | case2 t h => rw [untagged]; exact h

lemma untagged_of_entries? {t : Tree} {entries : List (Tree × Tree)}
    (h : t.entries? = some entries) : t.untagged = mapping entries := by
  unfold entries? at h
  split at h
  · next es he => cases h; exact he
  · cases h

lemma keysDiffer_entries {t : Tree} {entries : List (Tree × Tree)} (hk : t.keysDiffer)
    (h : t.entries? = some entries) : (mapping entries).keysDiffer := by
  rwa [← untagged_of_entries? h, keysDiffer_untagged]

lemma eachOnce_entries {t : Tree} (hk : t.keysDiffer) : EachOnce (t.entries?.getD []) := by
  cases he : t.entries? with
  | none => exact List.Pairwise.nil
  | some entries => exact (keysDiffer_mapping.mp (keysDiffer_entries hk he)).1

/-! ### Looking up a key -/

lemma get?_eq_find? (t : Tree) (key : String) :
    t.get? key = ((t.entries?.getD []).find? fun entry => isKey key entry.1).map (·.2) := by
  rw [get?]
  cases t.entries? with
  | none => rfl
  | some entries =>
    simp only [Option.bind_eq_bind, Option.bind_some, Option.getD_some]
    cases entries.find? _ <;> rfl

variable {entries : List (Tree × Tree)} {key : String} {value : Tree}

lemma isKey_iff {t : Tree} : isKey key t ↔ t = text key := by
  cases t <;> simp [isKey]

/-- The entry of a key is the only one with that key. -/
lemma filter_isKey (ho : EachOnce entries) (h : (text key, value) ∈ entries) :
    entries.filter (fun entry => isKey key entry.1) = [(text key, value)] := by
  induction entries with
  | nil => cases h
  | cons entry rest ih =>
    obtain ⟨hfirst, hrest⟩ := List.pairwise_cons.mp ho
    rcases List.mem_cons.mp h with rfl | h
    · have hnone : rest.filter (fun entry => isKey key entry.1) = [] := by
        refine List.filter_eq_nil_iff.mpr fun other hm hkey => hfirst other hm ?_
        rw [isKey_iff.mp hkey]
        simp [same]
      rw [List.filter_cons, if_pos (isKey_iff.mpr rfl), hnone]
    · have hother : ¬ isKey key entry.1 := fun hkey => hfirst _ h (by
        rw [isKey_iff.mp hkey]
        simp [same])
      rw [List.filter_cons, if_neg hother, ih hrest h]

lemma find?_isKey (ho : EachOnce entries) (h : (text key, value) ∈ entries) :
    entries.find? (fun entry => isKey key entry.1) = some (text key, value) := by
  rw [← List.head?_filter, filter_isKey ho h, List.head?_cons]

/-- **A lookup finds the entry of its key.** -/
theorem get?_eq_some_iff {t : Tree} (hk : t.keysDiffer) :
    t.get? key = some value ↔
      ∃ entries, t.entries? = some entries ∧ (text key, value) ∈ entries := by
  simp only [get?, Option.bind_eq_bind, Option.bind_eq_some_iff]
  refine exists_congr fun entries => and_congr_right fun he => ?_
  constructor
  · rintro ⟨⟨k, v⟩, hf, hv⟩
    cases hv
    have hkey : isKey key k := by simpa using List.find?_some hf
    rw [← isKey_iff.mp hkey]
    exact List.mem_of_find?_eq_some hf
  · intro h
    exact ⟨_, find?_isKey (keysDiffer_mapping.mp (keysDiffer_entries hk he)).1 h, rfl⟩

lemma keysDiffer_of_get? {t : Tree} (hk : t.keysDiffer) (h : t.get? key = some value) :
    value.keysDiffer := by
  obtain ⟨entries, he, hm⟩ := (get?_eq_some_iff hk).mp h
  exact ((keysDiffer_mapping.mp (keysDiffer_entries hk he)).2 _ hm).2

end QualityBands.Tree
