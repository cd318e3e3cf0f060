import QualityBands.Proofs.DocumentOrder
import QualityBands.Proofs.Figures

/-!
Walking by key and walking by entries.

What a key leads to is one of the entries, if anything is there, and the entry of a text leads to
the same place as the text. Below a place without a value no walk finds one; it goes on by keys,
and its path goes on growing. An error tells the path of the place whose value was read, and with
it the keys of every walk that comes there.
-/

namespace QualityBands

/-! ### Errors and places -/

namespace RulesError

/-- The path in a document that an error is about. -/
def documentPath? : RulesError → Option String
  | invalidNumber path _ | invalidInteger path _ | outOfRange path _ => some path
  | notFound _ | unreadable _ _ | malformed _ | notAMapping | missingTemplate _ => none

/-- The message of an error holds the path that it is about. -/
lemma infix_message {e : RulesError} {path : String} (h : e.documentPath? = some path) :
    path.toList <:+: e.report.message.toList := by
  have hparts : ∀ lead colon found : String,
      path.toList <:+: (lead ++ path ++ colon ++ found).toList := fun lead colon found =>
    ⟨lead.toList, (colon ++ found).toList, by simp only [String.toList_append, List.append_assoc]⟩
  cases e with
  | invalidNumber p found =>
    cases h
    exact hparts "Invalid numeric value at " ": " found
  | invalidInteger p found =>
    cases h
    exact hparts "Invalid integer value at " ": " found
  | outOfRange p count =>
    cases h
    exact hparts "Integer value at " " is out of range: " count.text
  | _ => cases h

end RulesError

namespace Node

/-- The errors that come of reading the value at a place. -/
inductive Raises (node : Node) : RulesError → Prop where
  | number {e : RulesError} (h : node.toNumber = .error e) : Raises node e
  | count {e : RulesError} (h : node.toCount = .error e) : Raises node e
  | countOr {default : Count} {e : RulesError} (h : node.toCountOr default = .error e) :
    Raises node e
  | strictBound {thresholds : Node} {severity : Severity} {e : RulesError}
    (hn : (thresholds.child severity.key).child "value" = node)
    (h : Reading.strictFloor thresholds severity = .error e) : Raises node e

variable {node next : Node} {key : String} {keys : List String} {e : RulesError} {t : Tree}

lemma documentPath?_toNumber (h : node.toNumber = .error e) :
    e.documentPath? = some node.path := by
  unfold toNumber at h
  split at h <;> cases h
  rfl

lemma documentPath?_toCount (h : node.toCount = .error e) :
    e.documentPath? = some node.path := by
  unfold toCount at h
  split at h <;> cases h
  rfl

lemma Raises.documentPath?_eq (h : node.Raises e) : e.documentPath? = some node.path := by
  cases h with
  | number h => exact documentPath?_toNumber h
  | count h => exact documentPath?_toCount h
  | countOr h =>
    unfold toCountOr at h
    split at h
    · exact documentPath?_toCount h
    · cases h
  | strictBound hn h =>
    rw [← failure?_eq_some_iff, Reading.failure?_strictFloor, hn] at h
    split at h
    · split at h <;> cases h
      rfl
    · next hc =>
      cases h
      exact documentPath?_toCount hc

/-! ### Entries and keys -/

/-- An item of the entries at a place is that of an entry of the mapping there. -/
structure Lists (node : Node) (entry : Tree × Tree) (item : String × Node) : Prop where
  key : entry.1.scalarText? = some item.1
  found : item.2.found = some entry.2
  path : item.2.path = dotted [node.path, item.1]

lemma extend_eq_dotted (path key : String) : extend path key = dotted [path, key] := by
  rw [← List.singleton_append, ← extend_dotted, dotted_singleton]

/-- There is one item for each entry whose key has a text, in the order of the mapping. -/
lemma forall₂_lists (node : Node) :
    List.Forall₂ node.Lists (node.rawEntries.filter (·.1.isScalar)) node.entries := by
  rw [entries_eq]
  induction node.rawEntries with
  | nil => exact .nil
  | cons entry rest ih =>
    obtain ⟨key, value⟩ := entry
    have hs : key.isScalar ↔ key.scalarText?.isSome := Tree.isScalar_iff
    cases ht : key.scalarText? with
    | none =>
      have hkey : ¬ key.isScalar := by simp [hs, ht]
      rw [List.filter_cons, if_neg hkey, Tree.named, List.filterMap_cons_none (by simp [ht])]
      exact ih
    | some text =>
      have hkey : key.isScalar := by simp [hs, ht]
      have hnamed : Tree.named ((key, value) :: rest) = (text, value) :: Tree.named rest :=
        List.filterMap_cons_some (by simp [ht])
      rw [List.filter_cons, if_pos hkey, hnamed, List.map_cons]
      exact .cons ⟨ht, rfl, extend_eq_dotted node.path text⟩ ih

/-- The item of an entry with a text for its key is the place under that text. -/
lemma Lists.eq_child {entry : Tree × Tree} {item : String × Node} (h : node.Lists entry item)
    (ho : Tree.EachOnce node.rawEntries) (hm : entry ∈ node.rawEntries)
    (hk : entry.1 = .text item.1) : item.2 = node.child item.1 := by
  obtain ⟨k, value⟩ := entry
  obtain ⟨key, found, path⟩ := item
  obtain rfl : k = .text key := hk
  obtain rfl : found = some value := h.found
  obtain rfl : path = dotted [node.path, key] := h.path
  have hfound : (node.child key).found = some value := by
    rw [found_child, Tree.find?_isKey ho hm, Option.map_some]
  rw [← hfound, ← extend_eq_dotted]
  rfl

lemma mem_entries_iff {item : String × Node} :
    item ∈ node.entries ↔ ∃ entry ∈ node.rawEntries, node.Lists entry item := by
  rw [entries_eq, List.mem_map]
  constructor
  · rintro ⟨named, hn, rfl⟩
    obtain ⟨entry, hm, hs⟩ := List.mem_filterMap.mp hn
    obtain ⟨text, ht, rfl⟩ := Option.map_eq_some_iff.mp hs
    exact ⟨entry, hm, ht, rfl, extend_eq_dotted node.path text⟩
  · obtain ⟨key, found, path⟩ := item
    rintro ⟨⟨k, value⟩, hm, hl⟩
    obtain rfl : found = some value := hl.found
    obtain rfl : path = dotted [node.path, key] := hl.path
    have hk : k.scalarText? = some key := hl.key
    refine ⟨(key, value), List.mem_filterMap.mpr ⟨_, hm, ?_⟩, ?_⟩
    · simp only [hk, Option.map_some]
    · rw [entryAt, extend_eq_dotted]

/-- What a key leads to is one of the entries. -/
lemma mem_entries_of_found (h : (node.child key).found = some t) :
    (key, node.child key) ∈ node.entries := by
  have hf := h
  rw [found_child, Option.map_eq_some_iff] at hf
  obtain ⟨⟨k, value⟩, hfind, rfl⟩ := hf
  have hkey : Tree.isKey key k := by simpa using List.find?_some hfind
  have hmem := List.mem_of_find?_eq_some hfind
  rw [Tree.isKey_iff.mp hkey] at hmem
  exact mem_entries_iff.mpr ⟨_, hmem, rfl, h, extend_eq_dotted node.path key⟩

/-- A walk whose keys are no texts of other scalars goes where its keys lead. -/
lemma Reaches.eq_walk {document : Tree} (hr : (root document).Reaches keys node)
    (hk : document.keysDiffer) (hn : ∀ key ∈ keys, Tree.OnlyText key) :
    node = (root document).walk keys := by
  induction hr with
  | refl => rfl
  | child _ key ih =>
    rw [walk_append, ← ih fun k hm => hn k (List.mem_append_left _ hm)]
    rfl
  | @entry node place keys key _ he ih =>
    obtain rfl := ih fun k hm => hn k (List.mem_append_left _ hm)
    obtain ⟨entry, hm, hl⟩ := mem_entries_iff.mp he
    have hkey : entry.1 = .text key :=
      hn key (List.mem_append_right _ (List.mem_singleton.mpr rfl)) entry.1 hl.key
    rw [walk_append]
    exact hl.eq_child (eachOnce_rawEntries hk keys) hm hkey

/-- Only a mapping has a value under a key. -/
lemma isMapping_of_found (h : (node.child key).found = some t) : node.isMapping := by
  obtain ⟨parent, hp, hg⟩ := Option.bind_eq_some_iff.mp h
  obtain ⟨entries, he, -⟩ := Option.bind_eq_some_iff.mp hg
  rw [isMapping_eq, hp, Option.any_some, Tree.isMapping, he]
  rfl

/-! ### Places without a value -/

lemma rawEntries_of_absent (h : node.value? = none) : node.rawEntries = [] := by
  rw [rawEntries, ← value?_bind_entries?, h]
  rfl

/-- From a place without a value a walk goes on by keys alone and finds nothing. -/
lemma Reaches.of_absent (hr : node.Reaches keys next) (h : node.value? = none) :
    next = node.walk keys ∧ next.value? = none ∧ (keys ≠ [] → next.found = none) := by
  induction hr with
  | refl => exact ⟨rfl, h, fun hne => absurd rfl hne⟩
  | @child next keys _ key ih =>
    obtain ⟨heq, hv, -⟩ := ih
    have hf : (next.child key).found = none := by
      rw [found_child, rawEntries_of_absent hv]
      rfl
    refine ⟨?_, by rw [value?, hf]; rfl, fun _ => hf⟩
    rw [walk_append, ← heq]
    rfl
  | entry _ he ih =>
    rw [entries_eq, rawEntries_of_absent ih.2.1] at he
    cases he

/-- **Walking by key and walking by entries agree.** A path is made of the keys of the walk, and
errors give it. Items of the entries are those of the mapping, and the one for a text is the place
under that text, so walks by entries go where their keys lead. Only mappings have values under
keys, which are then among the entries. Below a place without a value nothing is found, and paths
grow by every key but empty ones in front. -/
theorem walks_agree :
    (∀ (document : Tree) (keys : List String) (node : Node),
      (root document).Reaches keys node → node.path = dotted keys ∧
        ∀ e, node.Raises e → e.documentPath? = some (dotted keys) ∧
          (dotted keys).toList <:+: e.report.message.toList) ∧
    (∀ node : Node, List.Forall₂
      (fun entry item => node.Lists entry item ∧
        (Tree.EachOnce node.rawEntries → entry.1 = .text item.1 → item.2 = node.child item.1))
      (node.rawEntries.filter (·.1.isScalar)) node.entries) ∧
    (∀ (document : Tree) (keys : List String) (node : Node), document.keysDiffer →
      (root document).Reaches keys node → (∀ key ∈ keys, Tree.OnlyText key) →
        node = (root document).walk keys) ∧
    (∀ (node : Node) (key : String) (t : Tree), (node.child key).found = some t →
      node.isMapping ∧ (key, node.child key) ∈ node.entries) ∧
    ∀ (node next : Node) (keys : List String), node.value? = none → node.Reaches keys next →
      next = node.walk keys ∧ (keys ≠ [] → next.found = none) ∧
        ∃ more, next.path = node.path ++ more ∧
          (more = "" ↔ keys = [] ∨ node.path = "" ∧ ∀ key ∈ keys, key = "") := by
  refine ⟨fun document keys node h => ?_, fun node => ?_, fun document keys node hk h hn =>
    h.eq_walk hk hn, fun node key t h => ?_, fun node next keys hv h => ?_⟩
  · have hp := h.path_eq_of_root
    refine ⟨hp, fun e he => ?_⟩
    have hcited := he.documentPath?_eq
    rw [hp] at hcited
    exact ⟨hcited, RulesError.infix_message hcited⟩
  · have hall : List.Forall₂ (fun entry item => entry ∈ node.rawEntries ∧ node.Lists entry item)
        (node.rawEntries.filter (·.1.isScalar)) node.entries :=
      (List.forall₂_and_left _ _).mpr ⟨fun entry hm => List.mem_of_mem_filter hm,
        forall₂_lists node⟩
    exact hall.imp fun entry item ⟨hm, hl⟩ => ⟨hl, fun ho hk => hl.eq_child ho hm hk⟩
  · exact ⟨isMapping_of_found h, mem_entries_of_found h⟩
  · obtain ⟨heq, -, hfound⟩ := h.of_absent hv
    obtain ⟨more, hmore, hiff⟩ := exists_dotted_cons node.path keys
    exact ⟨heq, hfound, more, h.path_eq.trans hmore, hiff⟩

/-- A mapping with a key that holds a dot and with null under an empty key. -/
def walkedItem : Tree := .mapping [(.text "a.b", .text "lots"), (.text "", .null)]

/-- A document with that mapping below an empty key and a tag, where a number and a text that are
written alike are keys. -/
def walkedDocument : Tree :=
  .mapping
    [(.text "", .tagged "!t" (.mapping
      [(.number (.integer 1), walkedItem), (.text "1", .text "other")]))]

theorem walks_agree_sample :
    (∃ node, (root walkedDocument).Reaches ["", "1", "a.b"] node ∧ node.path = "1.a.b" ∧
      ∃ e, node.toNumber = .error e ∧ e.documentPath? = some "1.a.b") ∧
    (∃ item ∈ ((root walkedDocument).child "").entries,
      item.2 = ((root walkedDocument).child "").child "1" ∧
        item.2.found = some (.text "other")) ∧
    (∀ place, ("", place) ∈ (root walkedDocument).entries →
      place = (root walkedDocument).walk [""]) ∧
    ((root walkedDocument).isMapping ∧
      ("", (root walkedDocument).child "") ∈ (root walkedDocument).entries) ∧
    ∃ node next, (root walkedDocument).Reaches ["", "1", ""] node ∧ node.path = "1." ∧
      node.value? = none ∧ node.Reaches ["", "c"] next ∧ next.found = none ∧
        next.path = "1...c" := by
  obtain ⟨hpaths, hentries, hwalks, hkeys, habsent⟩ := walks_agree
  have hitem : (root walkedDocument).Reaches ["", "1"] ⟨some walkedItem, "1"⟩ :=
    .entry (.child .refl "") List.mem_cons_self
  refine ⟨?_, ?_, ?_, hkeys _ _ _ rfl, ?_⟩
  · obtain ⟨hpath, hcited⟩ := hpaths _ _ _ (hitem.child "a.b")
    exact ⟨_, hitem.child "a.b", hpath, _, rfl, (hcited _ (.number rfl)).1⟩
  · have ho : Tree.EachOnce ((root walkedDocument).child "").rawEntries :=
      (Tree.keysDiffer_mapping.mp (by decide +kernel)).1
    cases hentries ((root walkedDocument).child "") with
    | cons _ rest =>
      cases rest with
      | cons h _ => exact ⟨_, List.mem_cons_of_mem _ List.mem_cons_self, h.2 ho rfl, rfl⟩
  · intro place hp
    have honly : Tree.OnlyText "" := fun _ =>
      (Tree.scalarText?_eq_some_iff (by decide) (by decide) (by decide)).mp
    exact hwalks walkedDocument [""] place (by decide +kernel) (.entry .refl hp)
      (List.forall_mem_singleton.mpr honly)
  · have hnull := hitem.child ""
    have hwalk : (Node.child ⟨some walkedItem, "1"⟩ "").Reaches ["", "c"] _ :=
      Reaches.refl.walk ["", "c"]
    obtain ⟨-, hfound, -⟩ := habsent _ _ _ rfl hwalk
    exact ⟨_, _, hnull, (hpaths _ _ _ hnull).1, rfl, hwalk, hfound (by decide), rfl⟩

end Node

end QualityBands
