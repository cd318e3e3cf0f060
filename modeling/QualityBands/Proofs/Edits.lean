import QualityBands.Proofs.DocumentOrder

/-!
Edits that reading does not see.

Reading goes down through a few mappings, and looks at values only where its walks end. On the
way down an entry with null for its value is like no entry, and tags are looked through. So
entries with null can be taken out there, and tags be put on or taken off.
-/

namespace QualityBands

/-! ### Parts of a document -/

/-- What stands at a place of a document, by what reading does with it. -/
inductive Part where
  | document
  /-- The mapping for the scores, where one entry decides the dialect by being there. -/
  | scores
  /-- The mapping for the errors. -/
  | errors
  /-- A mapping from names to mappings of fields: thresholds, dimensions or cards. -/
  | groups
  /-- A mapping whose values are read as they are. -/
  | fields
  | templates
  /-- A text of a template. -/
  | template
  /-- A value that is read as it is, or not at all. -/
  | leaf
  deriving DecidableEq

namespace Part

/-- The part under a key. -/
def under : Part → Tree → Part
  | document, .text "global" => fields
  | document, .text "dimension_scores" => scores
  | document, .text "error_distribution" => errors
  | document, .text "templates" => templates
  | scores, .text "thresholds" => groups
  | scores, .text "dimensions" => groups
  | errors, .text "thresholds" => groups
  | errors, .text "dimensions" => groups
  | groups, _ => fields
  | templates, _ => template
  | _, _ => leaf

/-- Whether reading goes into a mapping at this part. -/
def isOpen : Part → Bool
  | template | leaf => false
  | _ => true

/-- Whether the tags of a value are looked through at this part. -/
def looksThrough (part : Part) (t : Tree) : Bool :=
  part.isOpen && t.isMapping || part = template && t.taggedText?.isSome

/-- The part that keys lead to. -/
def along (part : Part) (keys : List String) : Part :=
  keys.foldl (fun part key => part.under (.text key)) part

/-- Whether an entry counts by being there, whatever its value is. -/
def decides (part : Part) (key : Tree) : Bool := part = scores && Tree.isKey "enabled" key

end Part

/-! ### Edits -/

inductive Edit where
  /-- Entries with null for their value are taken out. -/
  | pruning
  /-- Tags are put on and taken off. -/
  | tagging
  deriving DecidableEq

namespace Tree

mutual

/-- The second tree is the first one with edits of one kind at open parts. -/
inductive Edited (edit : Edit) : Part → Tree → Tree → Prop where
  | same (part : Part) (t : Tree) : Edited edit part t t
  | mapping {part : Part} {entries others : List (Tree × Tree)} (hp : part.isOpen)
    (h : EditedEntries edit part entries others) :
    Edited edit part (mapping entries) (mapping others)
  | tagged {part : Part} (tag : String) {s t : Tree} (h : Edited edit part s t) :
    Edited edit part (tagged tag s) (tagged tag t)
  | tagOn {part : Part} (tag : String) {s t : Tree} (he : edit = .tagging)
    (hl : part.looksThrough t) (h : Edited edit part s t) : Edited edit part s (tagged tag t)
  | tagOff {part : Part} (tag : String) {s t : Tree} (he : edit = .tagging)
    (hl : part.looksThrough s) (h : Edited edit part s t) : Edited edit part (tagged tag s) t

/-- The second entries are the first ones with edits of one kind. -/
inductive EditedEntries (edit : Edit) : Part → List (Tree × Tree) → List (Tree × Tree) → Prop where
  | nil (part : Part) : EditedEntries edit part [] []
  | keep {part : Part} (key : Tree) {s t : Tree} {entries others : List (Tree × Tree)}
    (h : Edited edit (part.under key) s t) (hr : EditedEntries edit part entries others) :
    EditedEntries edit part ((key, s) :: entries) ((key, t) :: others)
  | drop {part : Part} (key : Tree) {entries others : List (Tree × Tree)} (he : edit = .pruning)
    (hd : ¬ part.decides key) (hr : EditedEntries edit part entries others) :
    EditedEntries edit part ((key, null) :: entries) others

end

variable {edit : Edit} {part : Part} {s t : Tree} {entries others : List (Tree × Tree)}
  {key : String}

lemma editedEntries_refl (part : Part) (entries : List (Tree × Tree)) :
    EditedEntries edit part entries entries := by
  induction entries with
  | nil => exact .nil part
  | cons entry rest ih => exact .keep entry.1 (.same _ entry.2) ih

/-! ### Editing all that can be edited -/

mutual

/-- A tree without the entries that can be taken out. -/
def pruned (part : Part) : Tree → Tree
  | mapping entries =>
    if part.isOpen then mapping (prunedEntries part entries) else mapping entries
  | tagged tag content => tagged tag (content.pruned part)
  | t => t

def prunedEntries (part : Part) : List (Tree × Tree) → List (Tree × Tree)
  | [] => []
  | (key, value) :: rest =>
    match value with
    | null => if part.decides key then (key, null) :: prunedEntries part rest
      else prunedEntries part rest
    | value => (key, value.pruned (part.under key)) :: prunedEntries part rest

end

mutual

/-- A tree without the tags that are looked through. -/
def bare (part : Part) : Tree → Tree
  | mapping entries => if part.isOpen then mapping (bareEntries part entries) else mapping entries
  | tagged tag content =>
    if part.looksThrough content then content.bare part else tagged tag content
  | t => t

def bareEntries (part : Part) : List (Tree × Tree) → List (Tree × Tree)
  | [] => []
  | (key, value) :: rest => (key, value.bare (part.under key)) :: bareEntries part rest

end

mutual

theorem edited_pruned (part : Part) (t : Tree) : Edited .pruning part t (t.pruned part) :=
  match t with
  | null => .same part null
  | bool b => .same part (bool b)
  | number n => .same part (number n)
  | text s => .same part (text s)
  | list items => .same part (list items)
  | mapping entries => by
    rw [pruned]
    split
    · next hp => exact .mapping hp (edited_prunedEntries part entries)
    · exact .same part _
  | tagged tag content => by
    rw [pruned]
    exact .tagged tag (edited_pruned part content)

theorem edited_prunedEntries (part : Part) (entries : List (Tree × Tree)) :
    EditedEntries .pruning part entries (prunedEntries part entries) :=
  match entries with
  | [] => .nil part
  | (key, value) :: rest => by
    unfold prunedEntries
    split
    · split
      · exact .keep key (.same _ null) (edited_prunedEntries part rest)
      · next hd => exact .drop key rfl hd (edited_prunedEntries part rest)
    · exact .keep key (edited_pruned (part.under key) value) (edited_prunedEntries part rest)

end

mutual

theorem edited_bare (part : Part) (t : Tree) : Edited .tagging part t (t.bare part) :=
  match t with
  | null => .same part null
  | bool b => .same part (bool b)
  | number n => .same part (number n)
  | text s => .same part (text s)
  | list items => .same part (list items)
  | mapping entries => by
    rw [bare]
    split
    · next hp => exact .mapping hp (edited_bareEntries part entries)
    · exact .same part _
  | tagged tag content => by
    rw [bare]
    split
    · next hl => exact .tagOff tag rfl hl (edited_bare part content)
    · exact .same part _

theorem edited_bareEntries (part : Part) (entries : List (Tree × Tree)) :
    EditedEntries .tagging part entries (bareEntries part entries) :=
  match entries with
  | [] => .nil part
  | (key, value) :: rest => by
    rw [bareEntries]
    exact .keep key (edited_bare (part.under key) value) (edited_bareEntries part rest)

end

namespace Edited

/-! ### Values -/

/-- Edited trees are both mappings, with entries alike, or neither is one. -/
lemma entries? : ∀ {s t : Tree}, Edited edit part s t →
    Option.Rel (EditedEntries edit part) s.entries? t.entries?
  | _, _, .same _ t => by
    cases t.entries? with
    | none => exact .none
    | some entries => exact .some (editedEntries_refl part entries)
  | _, _, .mapping _ h => .some h
  | _, _, .tagged _ h => h.entries?
  | _, _, .tagOn _ _ _ h => h.entries?
  | _, _, .tagOff _ _ _ h => h.entries?

lemma isMapping_eq (h : Edited edit part s t) : t.isMapping = s.isMapping := by
  have he := h.entries?
  unfold isMapping
  generalize s.entries? = before at he ⊢
  generalize t.entries? = after at he ⊢
  cases he <;> rfl

lemma entries_getD (h : Edited edit part s t) :
    EditedEntries edit part (s.entries?.getD []) (t.entries?.getD []) := by
  have he := h.entries?
  generalize s.entries? = before at he ⊢
  generalize t.entries? = after at he ⊢
  cases he with
  | none => exact .nil part
  | some hentries => exact hentries

/-- Texts are looked for through tags, and entries make no text. -/
lemma taggedText?_eq : ∀ {s t : Tree}, Edited edit part s t → t.taggedText? = s.taggedText?
  | _, _, .same _ _ => rfl
  | _, _, .mapping _ _ => rfl
  | _, _, .tagged _ h => h.taggedText?_eq
  | _, _, .tagOn _ _ _ h => h.taggedText?_eq
  | _, _, .tagOff _ _ _ h => h.taggedText?_eq

lemma not_looksThrough_leaf : ¬ Part.leaf.looksThrough t := by
  simp [Part.looksThrough, Part.isOpen]

/-- Nothing is edited in a leaf. -/
lemma eq_of_leaf : ∀ {s t : Tree}, Edited edit .leaf s t → s = t
  | _, _, .same _ _ => rfl
  | _, _, .tagged tag h => congrArg (Tree.tagged tag) h.eq_of_leaf
  | _, _, .tagOn _ _ hl _ => (not_looksThrough_leaf hl).elim
  | _, _, .tagOff _ _ hl _ => (not_looksThrough_leaf hl).elim

end Edited

/-! ### Lookups -/

/-- What is found at a place of an edited document, where null may have been taken out. -/
inductive Found (edit : Edit) (part : Part) : Option Tree → Option Tree → Prop where
  | none : Found edit part none none
  | edited {s t : Tree} (h : Edited edit part s t) : Found edit part (some s) (some t)
  | dropped (he : edit = .pruning) : Found edit part (some null) none

namespace EditedEntries

/-- Edits bring in no key. -/
lemma mem_keys (h : EditedEntries edit part entries others) {entry : Tree × Tree}
    (hm : entry ∈ others) : ∃ before ∈ entries, before.1 = entry.1 := by
  induction entries generalizing others with
  | nil =>
    cases h
    cases hm
  | cons first rest ih =>
    cases h with
    | keep key _ hr =>
      rcases List.mem_cons.mp hm with rfl | hm
      · exact ⟨_, List.mem_cons_self, rfl⟩
      · obtain ⟨before, hb, he⟩ := ih hr hm
        exact ⟨before, List.mem_cons_of_mem _ hb, he⟩
    | drop key _ _ hr =>
      obtain ⟨before, hb, he⟩ := ih hr hm
      exact ⟨before, List.mem_cons_of_mem _ hb, he⟩

/-- Where an entry has been taken out its key is gone, for no other entry had it. -/
lemma find?_eq_none (ho : EachOnce ((text key, null) :: entries))
    (h : EditedEntries edit part entries others) :
    others.find? (fun entry => isKey key entry.1) = Option.none := by
  refine List.find?_eq_none.mpr fun entry hm hkey => ?_
  obtain ⟨before, hb, he⟩ := h.mem_keys hm
  refine (List.pairwise_cons.mp ho).1 before hb ?_
  rw [he, isKey_iff.mp hkey]
  simp [same]

/-- A key leads to values alike, or to null that has been taken out. -/
lemma find? (ho : edit = .pruning → EachOnce entries) (h : EditedEntries edit part entries others) :
    Found edit (part.under (.text key))
      ((entries.find? fun entry => isKey key entry.1).map (·.2))
      ((others.find? fun entry => isKey key entry.1).map (·.2)) := by
  induction entries generalizing others with
  | nil =>
    cases h
    exact .none
  | cons first rest ih =>
    have hrest : edit = .pruning → EachOnce rest := fun he => (List.pairwise_cons.mp (ho he)).2
    cases h with
    | keep k hv hr =>
      cases hkey : isKey key k with
      | true =>
        simp only [List.find?_cons, hkey, Option.map_some]
        exact .edited (isKey_iff.mp hkey ▸ hv)
      | false =>
        simp only [List.find?_cons, hkey]
        exact ih hrest hr
    | drop k he _ hr =>
      cases hkey : isKey key k with
      | true =>
        -- no later entry may come forward in the place of the one taken out
        simp only [List.find?_cons, hkey, find?_eq_none (isKey_iff.mp hkey ▸ ho he) hr,
          Option.map_some]
        exact .dropped he
      | false =>
        simp only [List.find?_cons, hkey]
        exact ih hrest hr

/-- An entry that counts by being there stays there. -/
lemma any_isKey_eq (hd : part.decides (text key)) (h : EditedEntries edit part entries others) :
    others.any (fun entry => isKey key entry.1) = entries.any fun entry => isKey key entry.1 := by
  induction entries generalizing others with
  | nil =>
    cases h
    rfl
  | cons first rest ih =>
    cases h with
    | keep k _ hr => rw [List.any_cons, List.any_cons, ih hr]
    | drop k _ hk hr =>
      have hother : isKey key k = false := by
        refine Bool.eq_false_iff.mpr fun hkey => hk ?_
        rwa [isKey_iff.mp hkey]
      rw [List.any_cons, ih hr, hother, Bool.false_or]

/-- Entries make the same list wherever values alike make the same and null makes nothing. -/
lemma filterMap_eq {α : Type} {make : Tree × Tree → Option α}
    (hmake : ∀ key s t, Edited edit (part.under key) s t → make (key, t) = make (key, s))
    (hnull : ∀ key, make (key, null) = Option.none) (h : EditedEntries edit part entries others) :
    others.filterMap make = entries.filterMap make := by
  induction entries generalizing others with
  | nil =>
    cases h
    rfl
  | cons first rest ih =>
    cases h with
    | keep key hv hr => rw [List.filterMap_cons, List.filterMap_cons, hmake key _ _ hv, ih hr]
    | drop key _ _ hr => rw [List.filterMap_cons_none (hnull key), ih hr]

end EditedEntries

namespace Edited

/-- A key of an edited tree leads to a value alike, or to null that has been taken out. -/
lemma get? (hk : edit = .pruning → s.keysDiffer) (h : Edited edit part s t) (key : String) :
    Found edit (part.under (.text key)) (s.get? key) (t.get? key) := by
  rw [get?_eq_find?, get?_eq_find?]
  exact h.entries_getD.find? fun he => eachOnce_entries (hk he)

lemma isSome_get?_eq (hd : part.decides (.text key)) (h : Edited edit part s t) :
    (t.get? key).isSome = (s.get? key).isSome := by
  rw [get?_eq_find?, get?_eq_find?, Option.isSome_map, Option.isSome_map, List.isSome_find?,
    List.isSome_find?, h.entries_getD.any_isKey_eq hd]

end Edited

end Tree

/-! ### Places -/

namespace Node

/-- Two places of one path where the second value is the first one edited, or null that has been
taken out. -/
structure Edited (edit : Edit) (part : Part) (a b : Node) : Prop where
  path : b.path = a.path
  keysDiffer : edit = .pruning → ∀ t, a.found = some t → t.keysDiffer
  found : Tree.Found edit part a.found b.found

namespace Edited

variable {edit : Edit} {part : Part} {a b : Node}

lemma child (h : Edited edit part a b) (key : String) :
    Edited edit (part.under (.text key)) (a.child key) (b.child key) where
  path := congrArg (extend · key) h.path
  keysDiffer he value hv := by
    obtain ⟨t, ht, hv⟩ := Option.bind_eq_some_iff.mp hv
    exact Tree.keysDiffer_of_get? (h.keysDiffer he t ht) hv
  found := by
    obtain ⟨found, path⟩ := a
    obtain ⟨found', path'⟩ := b
    cases h.found with
    | none => exact .none
    | edited ht => exact ht.get? (fun he => h.keysDiffer he _ rfl) key
    | dropped => exact .none

lemma walk (h : Edited edit part a b) (keys : List String) :
    Edited edit (part.along keys) (a.walk keys) (b.walk keys) := by
  induction keys generalizing part a b with
  | nil => exact h
  | cons key keys ih => exact ih (h.child key)

/-- Readers see no edit in a leaf: null and no value are the same for them. -/
lemma alike (h : Edited edit .leaf a b) : Alike a b := by
  obtain ⟨found, path⟩ := a
  obtain ⟨found', path'⟩ := b
  cases h.found with
  | none => exact .of_found h.path rfl
  | edited ht => exact .of_found h.path (congrArg some ht.eq_of_leaf.symm)
  | dropped => exact ⟨h.path, rfl, .none⟩

lemma rawEntries (h : Edited edit part a b) :
    Tree.EditedEntries edit part a.rawEntries b.rawEntries := by
  obtain ⟨found, path⟩ := a
  obtain ⟨found', path'⟩ := b
  cases h.found with
  | none => exact .nil part
  | dropped => exact .nil part
  | edited ht => exact ht.entries_getD

end Edited

end Node

end QualityBands
