import QualityBands.Proofs.OctetOrder
import QualityBands.Proofs.TemplateSets

/-!
A set of templates is one map.

The two required templates and the further ones are kept apart, but every way to use a set treats
them as one map from names to texts in which two names are always there: what is put under a name
is found under it until something else is, and a set is printed with each name once and read back
from what it is printed as.
-/

namespace QualityBands.TemplateSet

open Text (Octets)

/-! ### Histories -/

/-- The sets that come of the overrides of a document, if there are any, and of texts that are
inserted after them. -/
inductive Reached : Option Tree → List (String × String) → TemplateSet → Prop where
  | builtin : Reached none [] .builtin
  | merged (overrides : Option Tree) : Reached overrides [] (.merged overrides)
  | insert {overrides : Option Tree} {inserts : List (String × String)} {set : TemplateSet}
    (h : Reached overrides inserts set) (name text : String) :
    Reached overrides (inserts ++ [(name, text)]) (set.insert name text)

variable {set : TemplateSet} {name other text : String} {overrides : Option Tree} {t : Tree}
  {entries inserts : List (String × String)}

/-- The last text under a name. -/
def latest? (name : String) (entries : List (String × String)) : Option String :=
  entries.reverse.lookup name

/-- The text of the last entry whose key is a name and whose value is a text, tags on both aside. -/
def overriding? (name : String) (overrides : Option Tree) : Option String :=
  ((overrides.bind Tree.entries?).getD []).reverse.findSome? fun (key, value) =>
    if key.taggedText? = some name then value.taggedText? else none

/-- The text that a required template has from the start. -/
def required? (name : String) : Option String :=
  if name = dimensionScoreName then some Template.builtinDimensionScore
  else if name = errorCardName then some Template.builtinErrorCard
  else none

lemma latest?_concat : latest? other (entries ++ [(name, text)]) =
    if other = name then some text else latest? other entries := by
  rw [latest?, List.reverse_concat, lookup_cons_eq, latest?]

/-! ### What is found -/

lemma lookup_put : (put name text entries).lookup other =
    if other = name then some text else entries.lookup other := by
  induction entries with
  | nil => rw [put, lookup_cons_eq]
  | cons entry rest ih =>
    obtain ⟨n, s⟩ := entry
    rw [put]
    by_cases hlt : name < n
    · rw [if_pos hlt, lookup_cons_eq]
    · rw [if_neg hlt]
      by_cases heq : name = n
      · rw [if_pos heq, lookup_cons_eq, lookup_cons_eq, heq]
        split_ifs <;> rfl
      · rw [if_neg heq, lookup_cons_eq, lookup_cons_eq, ih]
        by_cases h : other = name
        · rw [if_pos h, if_pos h, if_neg fun hn => heq (h.symm.trans hn)]
        · rw [if_neg h, if_neg h]

/-- An insertion is seen under its own name and under no other. -/
lemma get?_insert : (set.insert name text).get? other =
    if other = name then some text else set.get? other := by
  have hne : errorCardName ≠ dimensionScoreName := by decide
  by_cases hd : name = dimensionScoreName
  · simp [insert, get?, hd]
    split_ifs <;> rfl
  · by_cases he : name = errorCardName
    · simp [insert, get?, he, hne]
      split_ifs <;> simp_all
    · simp [insert, get?, hd, he, lookup_put]
      split_ifs <;> simp_all

lemma get?_builtin : builtin.get? name = required? name := rfl

lemma get?_foldl_insert :
    (entries.foldl (fun set (name, text) => set.insert name text) set).get? name =
      (latest? name entries).or (set.get? name) := by
  induction entries using List.reverseRecOn with
  | nil => rfl
  | append_singleton entries entry ih =>
    rw [List.foldl_concat, get?_insert, ih, latest?_concat]
    split_ifs <;> rfl

/-! ### Overrides -/

/-- An entry that is a text under a name. -/
def namedText? (entry : Tree × Tree) : Option (String × String) := do
  let name ← entry.1.taggedText?
  let text ← entry.2.taggedText?
  pure (name, text)

lemma textEntries_eq (t : Tree) : textEntries t = (t.entries?.getD []).filterMap namedText? := rfl

lemma namedText?_eq_none {entry : Tree × Tree}
    (h : entry.1.taggedText? = none ∨ entry.2.taggedText? = none) : namedText? entry = none := by
  obtain ⟨key, value⟩ := entry
  rcases h with h | h
  · simp [namedText?, h]
  · cases hk : key.taggedText? <;> simp [namedText?, hk, h]

lemma lookup_filterMap {entries : List (Tree × Tree)} :
    (entries.filterMap namedText?).lookup name = entries.findSome? fun (key, value) =>
      if key.taggedText? = some name then value.taggedText? else none := by
  induction entries with
  | nil => rfl
  | cons entry rest ih =>
    obtain ⟨key, value⟩ := entry
    rw [List.filterMap_cons, List.findSome?_cons, namedText?]
    cases hk : key.taggedText? with
    | none => simpa [hk] using ih
    | some n =>
      cases hv : value.taggedText? with
      | none => simpa [hk, hv] using ih
      | some s =>
        by_cases h : name = n
        · simp [hk, hv, h]
        · simpa [hk, hv, h, Ne.symm h, lookup_cons_eq] using ih

/-- Of the overrides under a name, the last text counts. -/
lemma latest?_textEntries : latest? name ((overrides.map textEntries).getD []) =
    overriding? name overrides := by
  cases overrides with
  | none => rfl
  | some t =>
    rw [Option.map_some, Option.getD_some, latest?, textEntries_eq, ← List.filterMap_reverse]
    exact lookup_filterMap

lemma merged_of_not_isMapping (h : ¬ t.isMapping) : merged (some t) = builtin := by
  have hnone : t.entries? = none := by
    cases he : t.entries? with
    | none => rfl
    | some entries => exact absurd (by simp [Tree.isMapping, he]) h
  rw [merged, Option.map_some, Option.getD_some, textEntries_eq, hnone]
  rfl

/-- An entry without a name or without a text has no effect. -/
lemma merged_of_not_text {before after : List (Tree × Tree)} {entry : Tree × Tree}
    (ht : t.entries? = some (before ++ entry :: after))
    (h : entry.1.taggedText? = none ∨ entry.2.taggedText? = none) :
    merged (some t) = merged (some (.mapping (before ++ after))) := by
  have hentries : textEntries t = textEntries (.mapping (before ++ after)) := by
    rw [textEntries_eq, textEntries_eq, ht]
    show (before ++ entry :: after).filterMap namedText? = (before ++ after).filterMap namedText?
    rw [List.filterMap_append, List.filterMap_cons_none (namedText?_eq_none h),
      List.filterMap_append]
  rw [merged, merged, Option.map_some, hentries, Option.map_some]

/-! ### One map -/

lemma get?_merged :
    (merged overrides).get? name = (overriding? name overrides).or (required? name) := by
  rw [merged, get?_foldl_insert, latest?_textEntries, get?_builtin]

lemma Reached.ordered (h : Reached overrides inserts set) : Ordered set := by
  induction h with
  | builtin => exact ordered_builtin
  | merged overrides => exact ordered_merged overrides
  | insert _ name text ih => exact ih.insert name text

/-- The last insertion under a name counts, before it the overrides, and then what is always
there. -/
lemma Reached.get?_eq (h : Reached overrides inserts set) (name : String) : set.get? name =
    ((latest? name inserts).or (overriding? name overrides)).or (required? name) := by
  induction h with
  | builtin => rfl
  | merged overrides => exact get?_merged
  | insert _ other text ih =>
    rw [get?_insert, ih, latest?_concat]
    split_ifs <;> rfl

/-- What a set is printed as: each of its templates once, the required ones first and the others
in the increasing order of the octets of their names. -/
structure Lists (set : TemplateSet) (entries : List (String × Outline)) : Prop where
  names : ∃ further, entries.map (·.1) = dimensionScoreName :: errorCardName :: further ∧
    (further.map Octets.ofString).Pairwise (· < ·)
  once : (entries.map (·.1)).Nodup
  found : ∀ name, entries.lookup name = (set.get? name).map .text

lemma lookup_map_text : (entries.map fun (name, text) => (name, Outline.text text)).lookup name =
    (entries.lookup name).map .text := by
  induction entries with
  | nil => rfl
  | cons entry rest ih =>
    obtain ⟨n, s⟩ := entry
    rw [List.map_cons, lookup_cons_eq, lookup_cons_eq, ih]
    split_ifs <;> rfl

/-- The names and texts of a set are what is found in it. -/
lemma lookup_toList : set.toList.lookup name = set.get? name := by
  rw [toList, lookup_cons_eq, lookup_cons_eq, get?]

lemma Ordered.lists (h : Ordered set) :
    ∃ entries, set.outline = .fields entries ∧ Lists set entries := by
  have hnames : (set.toList.map fun (name, text) => (name, Outline.text text)).map (·.1) =
      set.toList.map (·.1) := List.map_map
  have hsorted : ((set.extra.map (·.1)).map Octets.ofString).Pairwise (· < ·) := by
    rw [List.map_map]
    exact List.pairwise_map.mpr (h.sorted.imp fun hlt => Octets.ofString_lt_ofString hlt)
  refine ⟨_, rfl, ⟨_, hnames, hsorted⟩, ?_, fun name => ?_⟩
  · rw [hnames]
    exact h.nodup
  · rw [lookup_map_text, lookup_toList]

/-- A set of templates acts as the map that finds these texts. -/
structure ActsAs (set : TemplateSet) (text? : String → Option String) : Prop where
  /-- The required templates are kept in their own places only. -/
  apart : ∀ e ∈ set.extra, e.1 ≠ dimensionScoreName ∧ e.1 ≠ errorCardName
  found : ∀ name, set.get? name = text? name
  commutes : ∀ name other s t, name ≠ other →
    (set.insert name s).insert other t = (set.insert other t).insert name s
  printed : ∃ entries, set.outline = .fields entries ∧ Lists set entries
  readBack : merged (some set.outline.toTree) = set

/-- **A set of templates is one map.** However it has been reached, a name stands for the text that
was last inserted under it, else for the last text among the overrides, else for the built-in
template. Overrides that are no mapping have no effect, and no more have their entries without
a text as key and as value. -/
theorem reached_acts_as_map :
    (∀ overrides inserts set, Reached overrides inserts set → set.ActsAs fun name =>
      ((latest? name inserts).or (overriding? name overrides)).or (required? name)) ∧
    (∀ t : Tree, ¬ t.isMapping → merged (some t) = builtin) ∧
    ∀ (t : Tree) before entry after, t.entries? = some (before ++ entry :: after) →
      entry.1.taggedText? = none ∨ entry.2.taggedText? = none →
      merged (some t) = merged (some (.mapping (before ++ after))) := by
  refine ⟨fun overrides inserts set h => ?_, fun t h => merged_of_not_isMapping h,
    fun t before entry after ht h => merged_of_not_text ht h⟩
  have ho := h.ordered
  exact ⟨ho.apart, h.get?_eq, fun _ _ s t hne => insert_comm hne s t, ho.lists,
    ho.merged_outline⟩

/-- Overrides that have one name three times, once under a tag and once for no text. -/
def sampleEntries : List (Tree × Tree) :=
  [(.tagged "!k" (.text "note_html"), .tagged "!v" (.text "last")),
   (.text "note_html", .bool true), (.text "dimension_score_html", .text "<div/>")]

def sampleOverrides : Tree :=
  .tagged "!t" (.mapping ((.text "note_html", .text "first") ::
    (.number (.integer 1), .text "one") :: sampleEntries))

theorem reached_acts_as_map_sample :
    (∃ set, Reached (some sampleOverrides) [("é", "<i/>"), ("z", "<b/>"), ("z", "<u/>")] set ∧
      set.get? "note_html" = some "last" ∧ set.get? "1" = none ∧ set.get? "z" = some "<u/>" ∧
      set.get? dimensionScoreName = some "<div/>" ∧
      set.get? errorCardName = some Template.builtinErrorCard ∧
      (set.insert "a" "1").insert "z" "2" = (set.insert "z" "2").insert "a" "1" ∧
      merged (some set.outline.toTree) = set) ∧
    merged (some (.list [sampleOverrides])) = builtin ∧
    merged (some sampleOverrides) =
      merged (some (.mapping ((.text "note_html", .text "first") :: sampleEntries))) := by
  obtain ⟨hreached, hmapping, htext⟩ := reached_acts_as_map
  have h := ((Reached.merged (some sampleOverrides)).insert "é" "<i/>").insert "z" "<b/>"
  have hmap := hreached _ _ _ (h.insert "z" "<u/>")
  have hcard : overriding? errorCardName (some sampleOverrides) = none := by decide +kernel
  refine ⟨⟨_, h.insert "z" "<u/>", ?_, ?_, ?_, ?_, ?_, hmap.commutes _ _ _ _ (by decide),
    hmap.readBack⟩, hmapping _ (by decide), htext _ [_] _ _ rfl (Or.inl rfl)⟩
  · rw [hmap.found]
    decide +kernel
  · rw [hmap.found]
    decide +kernel
  · rw [hmap.found]
    decide +kernel
  · rw [hmap.found]
    decide +kernel
  · rw [hmap.found, hcard]
    rfl

end QualityBands.TemplateSet
