import Mathlib.Data.List.Nodup
import QualityBands.Proofs.Choices
import QualityBands.Proofs.DistinctKeys
import QualityBands.Proofs.Figures

/-!
The cards of a complete document and its dimensions.

Dimensions are collected by going through the entries of a mapping, and cards by looking their
keys up in it. Both come to the same entries, so each card belongs to one dimension, and the
order of the entries decides nothing about the cards.
-/

namespace QualityBands

namespace Tree

/-- The entries that a document has for its dimensions. -/
def rawDimensions (document : Tree) : List (Tree × Tree) :=
  ((document.at? ["dimension_scores", "dimensions"]).bind entries?).getD []

/-- A dimension as it is written chooses a variable that counts its errors. -/
def CountsBy (raw : Tree) (name : String) : Prop :=
  ∃ count, raw.get? "variable_count" = some count ∧ count.Chooses name

variable {document raw : Tree} {key name : String}

lemma keysDiffer_at? {t : Tree} {keys : List String} (hk : document.keysDiffer)
    (h : document.at? keys = some t) : t.keysDiffer := by
  induction keys generalizing document with
  | nil => cases h; exact hk
  | cons key keys ih =>
    obtain ⟨next, hn, h⟩ := Option.bind_eq_some_iff.mp h
    exact ih (keysDiffer_of_get? hk hn) h

lemma eachOnce_rawDimensions (hk : document.keysDiffer) : EachOnce document.rawDimensions := by
  unfold rawDimensions
  cases h : (document.at? ["dimension_scores", "dimensions"]).bind entries? with
  | none => exact List.Pairwise.nil
  | some entries =>
    obtain ⟨dims, hd, he⟩ := Option.bind_eq_some_iff.mp h
    exact (keysDiffer_mapping.mp (keysDiffer_entries (keysDiffer_at? hk hd) he)).1

lemma isMapping_of_countsBy (h : raw.CountsBy name) : raw.isMapping := by
  obtain ⟨count, hc, -⟩ := h
  obtain ⟨entries, he, -⟩ := Option.bind_eq_some_iff.mp hc
  rw [isMapping, he]
  rfl

/-- A text that other scalars are never read as. -/
def OnlyText (s : String) : Prop := ∀ t : Tree, t.scalarText? = some s → t = text s

lemma isNull_of_entries? {t : Tree} {entries : List (Tree × Tree)}
    (h : t.entries? = some entries) : t.isNull = false := by
  rw [isNull, untagged_of_entries? h]

end Tree

namespace Node

variable {node : Node}

lemma value?_bind_entries? : node.value?.bind Tree.entries? = node.found.bind Tree.entries? := by
  cases h : node.found with
  | none => simp [value?, h]
  | some t =>
    cases he : t.entries? with
    | none => simp [value?, h, Option.filter, he]
    | some entries => simp [value?, h, Option.filter, he, Tree.isNull_of_entries? he]

lemma isMapping_eq : node.isMapping = node.found.any Tree.isMapping := by
  have h : (node.value?.bind Tree.entries?).isSome = (node.found.bind Tree.entries?).isSome := by
    rw [value?_bind_entries?]
  rwa [Option.isSome_bind, Option.isSome_bind] at h

end Node

open Reading

/-! ### The two ways to a dimension -/

section
variable {document raw : Tree} {key name : String}

lemma found_dimensions : (Place.dimensions document).found =
    document.at? ["dimension_scores", "dimensions"] :=
  (Node.found_walk (Node.root document) ["dimension_scores", "dimensions"]).trans rfl

/-- A key is looked up among the entries. -/
lemma found_dimension_iff (hk : document.keysDiffer) :
    ((Place.dimensions document).child key).found = some raw ↔
      (Tree.text key, raw) ∈ document.rawDimensions := by
  change (Place.dimensions document).found.bind (·.get? key) = some raw ↔ _
  rw [found_dimensions, Tree.rawDimensions]
  cases hd : document.at? ["dimension_scores", "dimensions"] with
  | none => simp
  | some dims =>
    rw [Option.bind_some, Option.bind_some, Tree.get?_eq_some_iff (Tree.keysDiffer_at? hk hd)]
    cases dims.entries? <;> simp

/-- A key has a count variable when its dimension chooses one. -/
lemma countVariable?_eq_some_iff (hk : document.keysDiffer) :
    countVariable? (Place.dimensions document) key = some name ↔
      ∃ raw, (Tree.text key, raw) ∈ document.rawDimensions ∧ raw.CountsBy name := by
  rw [countVariable?, Node.truthyText?_eq_some_iff]
  constructor
  · rintro ⟨count, hf, hc⟩
    obtain ⟨raw, hr, hg⟩ := Option.bind_eq_some_iff.mp hf
    exact ⟨raw, (found_dimension_iff hk).mp hr, count, hg, hc⟩
  · rintro ⟨raw, hr, count, hg, hc⟩
    refine ⟨count, ?_, hc⟩
    change ((Place.dimensions document).child key).found.bind (·.get? "variable_count") = _
    rw [(found_dimension_iff hk).mpr hr]
    exact hg

/-- Going through the entries comes to the one that a lookup finds. -/
lemma entries_filter_key (hk : document.keysDiffer) (ho : Tree.OnlyText key)
    (hm : (Tree.text key, raw) ∈ document.rawDimensions) :
    (Place.dimensions document).entries.filter (·.1 = key) =
      [(key, (Place.dimensions document).child key)] := by
  have hnode : (Place.dimensions document).child key =
      ⟨some raw, Node.extend (Place.dimensions document).path key⟩ := by
    rw [← (found_dimension_iff hk).mpr hm]
    rfl
  rw [Node.entries, Node.value?_bind_entries?, found_dimensions, ← Tree.rawDimensions, hnode,
    List.filter_filterMap]
  calc document.rawDimensions.filterMap _
    _ = (document.rawDimensions.filter fun entry => Tree.isKey key entry.1).filterMap
          fun entry => entry.1.scalarText?.map fun text =>
            (text, ⟨some entry.2, Node.extend (Place.dimensions document).path text⟩) := by
        rw [List.filterMap_filter]
        refine List.filterMap_congr fun entry _ => ?_
        obtain ⟨k, value⟩ := entry
        by_cases hkey : Tree.isKey key k
        · rw [if_pos hkey, Tree.isKey_iff.mp hkey]
          simp [Tree.scalarText?, Option.filter]
        -- a key that is read as this text, and is not this text, would be another scalar
        · rw [if_neg hkey, Option.filter_eq_none_iff]
          intro found hfound hsame
          obtain ⟨text, htext, rfl⟩ := Option.map_eq_some_iff.mp hfound
          exact hkey (Tree.isKey_iff.mpr (ho k (of_decide_eq_true hsame ▸ htext)))
    _ = _ := by
        rw [Tree.filter_isKey (Tree.eachOnce_rawDimensions hk) hm]
        rfl

/-- A dimension that chooses a count variable is the only section with its key. -/
lemma sections_filter_key (hk : document.keysDiffer) (ho : Tree.OnlyText key)
    (hm : (Tree.text key, raw) ∈ document.rawDimensions) (hc : raw.CountsBy name) :
    (sections (Place.dimensions document)).filter (·.1 = key) =
      [(key, (Place.dimensions document).child key)] := by
  have hmapping : ((Place.dimensions document).child key).isMapping := by
    rw [Node.isMapping_eq, (found_dimension_iff hk).mpr hm]
    exact Tree.isMapping_of_countsBy hc
  rw [sections, List.filter_comm, entries_filter_key hk ho hm]
  simp [hmapping]

end

/-! ### Cards and omitted keys -/

/-- The keys of the cards in the order of the report. -/
def cardKeys : List String := ["completeness", "accuracy", "consistency"]

lemma onlyText_of_mem_cardKeys {key : String} (h : key ∈ cardKeys) : Tree.OnlyText key := by
  have hplain : ∀ key ∈ cardKeys,
      startsNumber key.toList = false ∧ key ≠ "true" ∧ key ≠ "false" := by decide
  obtain ⟨hs, ht, hf⟩ := hplain key h
  exact fun t => (Tree.scalarText?_eq_some_iff hs ht hf).mp

section
variable {dimensions : Node} {key name : String}

lemma map_key_completeCards : (completeCards dimensions).map (·.key) =
    cardKeys.filter fun key => (countVariable? dimensions key).isSome := by
  have hkeys : cardKeys = reportCards.map (·.1) := rfl
  rw [hkeys, completeCards]
  induction reportCards with
  | nil => rfl
  | cons card cards ih => cases hc : countVariable? dimensions card.1 <;> simp [hc, ih]

lemma omittedCards_eq : omittedCards dimensions =
    cardKeys.filter fun key => !(countVariable? dimensions key).isSome := by
  simp only [omittedCards, Option.not_isSome, cardKeys]
  rfl

lemma exists_card_iff : (∃ card ∈ completeCards dimensions, card.key = key ∧
    card.countVariable = name) ↔ key ∈ cardKeys ∧ countVariable? dimensions key = some name := by
  have hkeys : cardKeys = reportCards.map (·.1) := rfl
  rw [hkeys, completeCards]
  constructor
  · rintro ⟨card, hm, rfl, rfl⟩
    obtain ⟨report, hr, hc⟩ := List.mem_filterMap.mp hm
    obtain ⟨name, hn, rfl⟩ := Option.map_eq_some_iff.mp hc
    exact ⟨List.mem_map_of_mem hr, hn⟩
  · rintro ⟨hm, hn⟩
    obtain ⟨⟨key, label, subtitle⟩, hr, rfl⟩ := List.mem_map.mp hm
    refine ⟨⟨key, name, label, subtitle⟩, List.mem_filterMap.mpr ⟨_, hr, ?_⟩, rfl, rfl⟩
    exact congrArg (Option.map fun name => ErrorCard.mk key name label subtitle) hn

end

/-! ### What cards have to do with dimensions -/

/-- The cards of a reading belong to the dimensions of its document. -/
structure CardsBelong (document : Tree) (r : Reading) : Prop where
  cards_sublist : (r.rules.cards.map (·.key)).Sublist cardKeys
  omitted_sublist : r.omitted.Sublist cardKeys
  disjoint : (r.rules.cards.map (·.key)).Disjoint r.omitted
  together : (r.rules.cards.map (·.key) ++ r.omitted).Perm cardKeys
  /-- A card and the only dimension with its key come from one entry. -/
  dimension : ∀ card ∈ r.rules.cards, ∃ raw,
    (Tree.text card.key, raw) ∈ document.rawDimensions ∧ raw.CountsBy card.countVariable ∧
      ((Place.dimensions document).child card.key).found = some raw ∧
      r.rules.dimensions.filter (·.key = card.key) =
        [completeDimension card.key ((Place.dimensions document).child card.key)]
  named : ∀ card ∈ r.rules.cards, card.countVariable ≠ ""
  carded : ∀ key ∈ cardKeys, ∀ name,
    (∃ card ∈ r.rules.cards, card.key = key ∧ card.countVariable = name) ↔
      ∃ raw, (Tree.text key, raw) ∈ document.rawDimensions ∧ raw.CountsBy name

section
variable {document other : Tree} {r r' : Reading} {key : String}

lemma Reading.IsComplete.cardsBelong (hr : IsComplete document r) (hk : document.keysDiffer) :
    CardsBelong document r := by
  have hcarded : ∀ key ∈ cardKeys, ∀ name,
      (∃ card ∈ r.rules.cards, card.key = key ∧ card.countVariable = name) ↔
        ∃ raw, (Tree.text key, raw) ∈ document.rawDimensions ∧ raw.CountsBy name := by
    intro key hkey name
    rw [hr.cards, exists_card_iff, countVariable?_eq_some_iff hk, and_iff_right hkey]
  have hkeys : ∀ card ∈ r.rules.cards, card.key ∈ cardKeys := by
    intro card hm
    rw [hr.cards] at hm
    exact (exists_card_iff.mp ⟨card, hm, rfl, rfl⟩).1
  have hraw : ∀ card ∈ r.rules.cards, ∃ raw,
      (Tree.text card.key, raw) ∈ document.rawDimensions ∧ raw.CountsBy card.countVariable :=
    fun card hm => (hcarded card.key (hkeys card hm) _).mp ⟨card, hm, rfl, rfl⟩
  have hperm : (r.rules.cards.map (·.key) ++ r.omitted).Perm cardKeys := by
    rw [hr.cards, hr.omitted, map_key_completeCards, omittedCards_eq]
    exact List.filter_append_perm _ _
  have hnodup : (r.rules.cards.map (·.key) ++ r.omitted).Nodup :=
    hperm.nodup_iff.mpr (by decide)
  refine ⟨?_, ?_, List.disjoint_of_nodup_append hnodup, hperm, ?_, ?_, hcarded⟩
  · rw [hr.cards, map_key_completeCards]
    exact List.filter_sublist
  · rw [hr.omitted, omittedCards_eq]
    exact List.filter_sublist
  · intro card hm
    obtain ⟨raw, hmem, hc⟩ := hraw card hm
    refine ⟨raw, hmem, hc, (found_dimension_iff hk).mpr hmem, ?_⟩
    have hs := sections_filter_key hk (onlyText_of_mem_cardKeys (hkeys card hm)) hmem hc
    rw [hr.dimensions, List.filter_map]
    exact congrArg (List.map fun entry => completeDimension entry.1 entry.2) hs
  · intro card hm
    obtain ⟨raw, -, count, -, hc⟩ := hraw card hm
    exact hc.ne_empty

/-- The order of the dimensions does not change what is looked up. -/
lemma countVariable?_eq_of_perm (hk : document.keysDiffer) (hk' : other.keysDiffer)
    (hp : document.rawDimensions.Perm other.rawDimensions) :
    countVariable? (Place.dimensions document) key = countVariable? (Place.dimensions other) key := by
  refine Option.ext fun name => ?_
  rw [countVariable?_eq_some_iff hk, countVariable?_eq_some_iff hk']
  exact exists_congr fun raw => and_congr_left fun _ => hp.mem_iff

/-- **The cards of a complete document belong to its dimensions.** The three keys of the report
are parted between cards and omitted keys. A key has a card exactly when the dimension with
that key chooses a variable for its errors, which then has a name and is the one of the card;
the dimension is read from the same entry, and no other has the key. In whatever order the
dimensions stand, the cards are the same. -/
theorem cards_belong (hk : document.keysDiffer) (h : Rules.read document = .ok r)
    (hd : r.dialect = .complete) :
    CardsBelong document r ∧
      ∀ other r', other.keysDiffer → Rules.read other = .ok r' → r'.dialect = .complete →
        document.rawDimensions.Perm other.rawDimensions →
        r'.rules.cards = r.rules.cards ∧ r'.omitted = r.omitted := by
  have hr := isComplete_of_read h hd
  refine ⟨hr.cardsBelong hk, fun other r' hk' h' hd' hp => ?_⟩
  have hr' := isComplete_of_read h' hd'
  have hsame : countVariable? (Place.dimensions other) = countVariable? (Place.dimensions document) :=
    funext fun key => (countVariable?_eq_of_perm hk hk' hp).symm
  rw [hr.cards, hr'.cards, hr.omitted, hr'.omitted]
  simp only [completeCards, omittedCards, hsame, and_self]

/-- A complete document with these entries for its dimensions. -/
def dimensionsDocument (dimensions : List (Tree × Tree)) : Tree :=
  .mapping
    [(.text "global", .mapping []),
     (.text "dimension_scores", .mapping
       [(.text "enabled", .bool true),
        (.text "thresholds", .mapping
          [(.text "excellent", .mapping [(.text "value", .number (.integer 95))]),
           (.text "acceptable", .mapping [(.text "value", .number (.integer 80))])]),
        (.text "dimensions", .mapping dimensions)]),
     (.text "error_distribution", .mapping
       [(.text "thresholds", .mapping
         [(.text "critical", .mapping [(.text "value", .number (.integer 5))]),
          (.text "high", .mapping [(.text "value", .number (.integer 3))]),
          (.text "medium", .mapping [(.text "value", .number (.integer 1))])])])]

/-- Dimensions with tags in several places, a number for a key and a number for a variable. -/
def taggedDimensions : List (Tree × Tree) :=
  [(.tagged "!k" (.text "accuracy"), .mapping [(.text "variable_count", .text "other")]),
   (.number (.integer 1), .mapping [(.text "variable_count", .text "one")]),
   (.text "consistency", .mapping [(.text "variable_count", .tagged "!v" (.text "n"))]),
   (.text "accuracy", .tagged "!d" (.mapping [(.text "variable_count", .number (.float .nan))])),
   (.text "completeness", .list [.text "variable_count"])]

theorem cards_belong_tagged :
    ∃ r r', Rules.read (dimensionsDocument taggedDimensions) = .ok r ∧
      Rules.read (dimensionsDocument taggedDimensions.reverse) = .ok r' ∧
      r.dialect = .complete ∧ (dimensionsDocument taggedDimensions).keysDiffer ∧
      CardsBelong (dimensionsDocument taggedDimensions) r ∧
      r.rules.cards = [⟨"accuracy", ".nan", "ACCURACY", "Seconda dimensione critica"⟩] ∧
      r.omitted = ["completeness", "consistency"] ∧
      r'.rules.cards = r.rules.cards ∧ r'.omitted = r.omitted := by
  have hk : (dimensionsDocument taggedDimensions).keysDiffer := by decide +kernel
  have hk' : (dimensionsDocument taggedDimensions.reverse).keysDiffer := by decide +kernel
  obtain ⟨r, h, hd, hcards, homitted⟩ :
      ∃ r, Rules.read (dimensionsDocument taggedDimensions) = .ok r ∧ r.dialect = .complete ∧
        r.rules.cards = [⟨"accuracy", ".nan", "ACCURACY", "Seconda dimensione critica"⟩] ∧
        r.omitted = ["completeness", "consistency"] := ⟨_, rfl, rfl, rfl, rfl⟩
  obtain ⟨r', h', hd'⟩ : ∃ r', Rules.read (dimensionsDocument taggedDimensions.reverse) = .ok r' ∧
      r'.dialect = .complete := ⟨_, rfl, rfl⟩
  obtain ⟨hbelong, horder⟩ := cards_belong hk h hd
  obtain ⟨hsame, hsame'⟩ := horder _ r' hk' h' hd' (List.reverse_perm _).symm
  exact ⟨r, r', h, h', hd, hk, hbelong, hcards, homitted, hsame, hsame'⟩

end

end QualityBands
