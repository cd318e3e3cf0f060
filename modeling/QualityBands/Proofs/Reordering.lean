import QualityBands.Proofs.Alike

/-!
Documents with their mappings in another order.

A document is reordered by moving the entries of its mappings, at any depth. This changes
neither what a scalar stands for nor what a key leads to, as long as each mapping has each key
once; only going through the entries of a mapping shows the order.
-/

namespace QualityBands

namespace Tree

mutual

/-- The second document is the first one with the entries of its mappings moved. -/
inductive Reordered : Tree → Tree → Prop where
  | null : Reordered null null
  | bool (b : Bool) : Reordered (bool b) (bool b)
  | number (n : Number) : Reordered (number n) (number n)
  | text (s : String) : Reordered (text s) (text s)
  | list {items others : List Tree} (h : List.Forall₂ Reordered items others) :
    Reordered (list items) (list others)
  | mapping {entries moved others : List (Tree × Tree)} (hp : entries.Perm moved)
    (h : List.Forall₂ ReorderedEntry moved others) : Reordered (mapping entries) (mapping others)
  | tagged (tag : String) {a b : Tree} (h : Reordered a b) :
    Reordered (tagged tag a) (tagged tag b)

/-- The second entry is the first one with both of its parts reordered. -/
inductive ReorderedEntry : Tree × Tree → Tree × Tree → Prop where
  | mk {key value key' value' : Tree} (hk : Reordered key key') (hv : Reordered value value') :
    ReorderedEntry (key, value) (key', value')

end

/-- The entries of the second list are those of the first one, moved and reordered. -/
def Moved (entries others : List (Tree × Tree)) : Prop :=
  ∃ moved, entries.Perm moved ∧ List.Forall₂ ReorderedEntry moved others

/-! ### Turning mappings round -/

mutual

/-- A document with all of its mappings turned round. -/
def reversed : Tree → Tree
  | list items => list (reversedItems items)
  | mapping entries => mapping (reversedEntries entries)
  | tagged tag content => tagged tag content.reversed
  | t => t

def reversedItems : List Tree → List Tree
  | [] => []
  | item :: rest => item.reversed :: reversedItems rest

def reversedEntries : List (Tree × Tree) → List (Tree × Tree)
  | [] => []
  | (key, value) :: rest => reversedEntries rest ++ [(key.reversed, value.reversed)]

end

mutual

theorem reordered_reversed (t : Tree) : Reordered t t.reversed :=
  match t with
  | null => .null
  | bool b => .bool b
  | number n => .number n
  | text s => .text s
  | list items => by
    rw [reversed]
    exact .list (reordered_reversedItems items)
  | mapping entries => by
    rw [reversed]
    exact .mapping (List.reverse_perm entries).symm (reordered_reversedEntries entries)
  | tagged tag content => by
    rw [reversed]
    exact .tagged tag (reordered_reversed content)

theorem reordered_reversedItems (items : List Tree) :
    List.Forall₂ Reordered items (reversedItems items) :=
  match items with
  | [] => .nil
  | item :: rest => .cons (reordered_reversed item) (reordered_reversedItems rest)

theorem reordered_reversedEntries (entries : List (Tree × Tree)) :
    List.Forall₂ ReorderedEntry entries.reverse (reversedEntries entries) :=
  match entries with
  | [] => .nil
  | (key, value) :: rest => by
    rw [reversedEntries, List.reverse_cons]
    exact List.rel_append (reordered_reversedEntries rest)
      (.cons (.mk (reordered_reversed key) (reordered_reversed value)) .nil)

end

/-! ### Scalars -/

namespace Reordered

variable {s t : Tree}

lemma untagged (h : Reordered s t) : Reordered s.untagged t.untagged := by
  induction s using Tree.untagged.induct generalizing t with
  | case1 tag content ih =>
    cases h with
    | tagged _ h =>
      rw [Tree.untagged, Tree.untagged]
      exact ih h
  | case2 s hs =>
    cases h with
    | tagged tag h => exact (hs _ _ rfl).elim
    | list h => exact .list h
    | mapping hp h => exact .mapping hp h
    | _ => constructor

lemma isNull_eq (h : Reordered s t) : t.isNull = s.isNull := by
  have hu := h.untagged
  unfold isNull
  generalize s.untagged = before at hu ⊢
  generalize t.untagged = after at hu ⊢
  cases hu <;> rfl

lemma taggedText?_eq (h : Reordered s t) : t.taggedText? = s.taggedText? := by
  have hu := h.untagged
  unfold taggedText?
  generalize s.untagged = before at hu ⊢
  generalize t.untagged = after at hu ⊢
  cases hu <;> rfl

lemma scalarText?_eq (h : Reordered s t) : t.scalarText? = s.scalarText? := by
  cases h <;> rfl

lemma shown_eq (h : Reordered s t) : Node.describe (some t) = Node.describe (some s) := by
  cases h <;> rfl

lemma isEmpty_eq {α β : Type} {as : List α} {bs : List β} (h : bs.length = as.length) :
    bs.isEmpty = as.isEmpty := by
  cases as <;> cases bs <;> first | rfl | cases h

lemma isTruthy_eq (h : Reordered s t) : t.isTruthy = s.isTruthy := by
  cases h with
  | list h => simp only [isTruthy, isEmpty_eq h.length_eq.symm]
  | mapping hp h => simp only [isTruthy, isEmpty_eq (hp.length_eq.trans h.length_eq).symm]
  | _ => rfl

/-- Readers of scalars do not see the order. -/
lemma alike (h : Reordered s t) : Alike s t where
  number := by cases h <;> rfl
  count := by cases h <;> rfl
  text := h.scalarText?_eq
  truth := h.isTruthy_eq

/-! ### Entries -/

lemma entries? (h : Reordered s t) : Option.Rel Moved s.entries? t.entries? := by
  have hu := h.untagged
  unfold Tree.entries?
  generalize s.untagged = before at hu ⊢
  generalize t.untagged = after at hu ⊢
  cases hu with
  | mapping hp h => exact .some ⟨_, hp, h⟩
  | _ => exact .none

lemma isMapping_eq (h : Reordered s t) : t.isMapping = s.isMapping := by
  have he := h.entries?
  unfold isMapping
  generalize s.entries? = before at he ⊢
  generalize t.entries? = after at he ⊢
  cases he <;> rfl

end Reordered

lemma ReorderedEntry.isKey_eq {a b : Tree × Tree} {key : String} (h : ReorderedEntry a b) :
    isKey key b.1 = isKey key a.1 := by
  cases h with
  | mk hk _ => cases hk <;> rfl

section
variable {entries moved others : List (Tree × Tree)} {key : String} {s t : Tree}

/-- Moving the entries does not change which one has a key. -/
lemma find?_isKey_of_perm (ho : EachOnce entries) (hp : entries.Perm moved) :
    moved.find? (fun entry => isKey key entry.1) =
      entries.find? fun entry => isKey key entry.1 := by
  have hfilter := hp.filter fun entry => isKey key entry.1
  rw [← List.head?_filter, ← List.head?_filter]
  by_cases h : ∃ value, (text key, value) ∈ entries
  · obtain ⟨value, hm⟩ := h
    rw [filter_isKey ho hm] at hfilter ⊢
    rw [List.perm_singleton.mp hfilter.symm]
  · have hnone : entries.filter (fun entry => isKey key entry.1) = [] :=
      List.filter_eq_nil_iff.mpr fun entry hm hkey => h ⟨entry.2, isKey_iff.mp hkey ▸ hm⟩
    rw [hnone] at hfilter ⊢
    rw [List.perm_nil.mp hfilter.symm]

lemma find?_isKey_of_forall₂ (h : List.Forall₂ ReorderedEntry moved others) :
    Option.Rel ReorderedEntry (moved.find? fun entry => isKey key entry.1)
      (others.find? fun entry => isKey key entry.1) := by
  induction h with
  | nil => exact .none
  | cons hab _ ih =>
    rw [List.find?_cons, List.find?_cons, hab.isKey_eq]
    split
    · exact .some hab
    · exact ih

/-- **A key leads to the same value, in whatever order the entries stand.** -/
theorem Reordered.get? (hk : s.keysDiffer) (h : Reordered s t) :
    Option.Rel Reordered (s.get? key) (t.get? key) := by
  have he := h.entries?
  simp only [Tree.get?, Option.bind_eq_bind]
  generalize hs : s.entries? = before at he ⊢
  generalize t.entries? = after at he ⊢
  cases he with
  | none => exact .none
  | @some entries others hmoved =>
    obtain ⟨moved, hp, hf⟩ := hmoved
    have ho : EachOnce entries := (keysDiffer_mapping.mp (keysDiffer_entries hk hs)).1
    have hfind : Option.Rel ReorderedEntry (entries.find? fun entry => isKey key entry.1)
        (others.find? fun entry => isKey key entry.1) :=
      find?_isKey_of_perm ho hp ▸ find?_isKey_of_forall₂ hf
    rw [Option.bind_some, Option.bind_some]
    generalize entries.find? _ = found at hfind ⊢
    generalize others.find? _ = found' at hfind ⊢
    cases hfind with
    | none => exact .none
    | some hab =>
      cases hab with
      | mk _ hv => exact .some hv

/-- What keys lead to has its own mappings reordered. -/
lemma Reordered.at? {keys : List String} (hk : s.keysDiffer) (h : Reordered s t) :
    Option.Rel Reordered (s.at? keys) (t.at? keys) := by
  induction keys generalizing s t with
  | nil => exact .some h
  | cons key keys ih =>
    simp only [Tree.at?, List.foldlM_cons, Option.bind_eq_bind] at ih ⊢
    have hget : Option.Rel Reordered (s.get? key) (t.get? key) := h.get? hk
    cases hs : s.get? key with
    | none =>
      rw [hs] at hget
      generalize t.get? key = after at hget ⊢
      cases hget
      exact .none
    | some value =>
      rw [hs] at hget
      generalize t.get? key = after at hget ⊢
      cases hget with
      | some hv => exact ih (keysDiffer_of_get? hk hs) hv

end

end Tree

/-! ### Places -/

namespace Node

lemma keysDiffer_of_mem_rawEntries {node : Node} (hk : ∀ t, node.found = some t → t.keysDiffer)
    {entry : Tree × Tree} (hm : entry ∈ node.rawEntries) : entry.2.keysDiffer := by
  rw [rawEntries] at hm
  cases he : node.found.bind Tree.entries? with
  | none => rw [he] at hm; cases hm
  | some entries =>
    rw [he] at hm
    obtain ⟨t, ht, he⟩ := Option.bind_eq_some_iff.mp he
    exact ((Tree.keysDiffer_mapping.mp (Tree.keysDiffer_entries (hk t ht) he)).2 entry hm).2

/-- Two places of one path where the second value is the first one reordered, and the first has
each key once. -/
structure Reordered (a b : Node) : Prop where
  path : b.path = a.path
  keysDiffer : ∀ t, a.found = some t → t.keysDiffer
  found : Option.Rel Tree.Reordered a.found b.found

namespace Reordered

variable {a b : Node}

lemma child (h : Reordered a b) (key : String) : Reordered (a.child key) (b.child key) where
  path := congrArg (extend · key) h.path
  keysDiffer value hv := by
    obtain ⟨t, ht, hv⟩ := Option.bind_eq_some_iff.mp hv
    exact Tree.keysDiffer_of_get? (h.keysDiffer t ht) hv
  found := by
    obtain ⟨found, path⟩ := a
    obtain ⟨found', path'⟩ := b
    cases h.found with
    | none => exact .none
    | some ht => exact ht.get? (h.keysDiffer _ rfl)

lemma walk (h : Reordered a b) (keys : List String) : Reordered (a.walk keys) (b.walk keys) := by
  induction keys generalizing a b with
  | nil => exact h
  | cons key keys ih => exact ih (h.child key)

lemma alike (h : Reordered a b) : Alike a b := by
  obtain ⟨found, path⟩ := a
  obtain ⟨found', path'⟩ := b
  refine ⟨h.path, ?_, ?_⟩
  · cases h.found with
    | none => rfl
    | some ht => exact ht.shown_eq
  · cases h.found with
    | none => exact .none
    | @some s t ht =>
      simp only [value?, Option.filter, ht.isNull_eq]
      split
      · exact .some ht.alike
      · exact .none

lemma rawEntries (h : Reordered a b) : Tree.Moved a.rawEntries b.rawEntries := by
  obtain ⟨found, path⟩ := a
  obtain ⟨found', path'⟩ := b
  have hnone : Tree.Moved [] [] := ⟨[], .nil, .nil⟩
  cases h.found with
  | none => exact hnone
  | @some s t ht =>
    have he := ht.entries?
    simp only [Node.rawEntries, Option.bind_some]
    generalize s.entries? = before at he ⊢
    generalize t.entries? = after at he ⊢
    cases he with
    | none => exact hnone
    | some hmoved => exact hmoved

lemma keysDiffer_rawEntries (h : Reordered a b) {entry : Tree × Tree}
    (hm : entry ∈ a.rawEntries) : entry.2.keysDiffer :=
  keysDiffer_of_mem_rawEntries h.keysDiffer hm

end Reordered

lemma reordered_root {document other : Tree} (hk : document.keysDiffer)
    (h : document.Reordered other) : Reordered (root document) (root other) :=
  ⟨rfl, fun _ ht => Option.some.inj ht ▸ hk, .some h⟩

end Node

end QualityBands
