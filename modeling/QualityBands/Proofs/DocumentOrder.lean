import QualityBands.Proofs.BuiltinTemplates
import QualityBands.Proofs.Reordering
import QualityBands.Proofs.TemplateSets
import QualityBands.Rules.Validation
import QualityBands.Snippets

/-!
Where the order of a document matters.

Dimensions, and the cards of a legacy document, stand in the order of the entries that they are
made from. When the entries of a document are moved, at any depth, these lists are moved in the
same way and all else stays as it is: bands, labels, templates, the cards of a complete
document, and the error if there is one.
-/

namespace QualityBands

/-! ### Items and entries -/

namespace Tree

/-- Whether a tree is a text, a number or a truth value without a tag. -/
def isScalar : Tree → Bool
  | text _ | number _ | bool _ => true
  | _ => false

/-- Whether an entry is an item of its section. -/
def givesItem (entry : Tree × Tree) : Bool := entry.1.isScalar && entry.2.isMapping

/-- The item made from an entry, which depends on no other entry. -/
def item? {α : Type} (make : String → Node → α) (path : String) (entry : Tree × Tree) :
    Option α :=
  if entry.2.isMapping then
    entry.1.scalarText?.map fun key => make key ⟨some entry.2, Node.extend path key⟩
  else none

/-- Items that are moved in the way of the entries that they are made from. -/
def MovedAlong {α : Type} (item? : Tree × Tree → Option α) (entries others : List (Tree × Tree))
    (items items' : List α) : Prop :=
  ∃ moved, entries.Perm moved ∧ List.Forall₂ ReorderedEntry moved others ∧
    items = entries.filterMap item? ∧ items' = moved.filterMap item?

variable {α : Type} {make : String → Node → α} {path : String} {entry : Tree × Tree}
  {entries others : List (Tree × Tree)}

lemma isScalar_iff {t : Tree} : t.isScalar ↔ t.scalarText?.isSome := by
  cases t <;> simp [isScalar, scalarText?]

lemma item?_isSome : (item? make path entry).isSome = givesItem entry := by
  have hs : entry.1.isScalar = entry.1.scalarText?.isSome := Bool.eq_iff_iff.mpr isScalar_iff
  unfold item? givesItem
  rw [hs]
  split
  · next hm => rw [Option.isSome_map, hm, Bool.and_true]
  · next hm => simp [hm]

/-- Items are one for each entry that gives one, in the order of the entries. -/
lemma forall₂_items {item? : Tree × Tree → Option α}
    (h : ∀ entry, (item? entry).isSome = givesItem entry) :
    List.Forall₂ (fun entry item => item? entry = some item) (entries.filter givesItem)
      (entries.filterMap item?) := by
  induction entries with
  | nil => exact .nil
  | cons entry rest ih =>
    have hg := h entry
    cases hi : item? entry with
    | none =>
      rw [hi] at hg
      rw [List.filter_cons_of_neg (by simp [← hg]), List.filterMap_cons_none hi]
      exact ih
    | some item =>
      rw [hi] at hg
      rw [List.filter_cons_of_pos hg.symm, List.filterMap_cons_some hi]
      exact .cons hi ih

lemma filterMap_eq_of_forall₂ {β γ : Type} {f : β → Option γ} {as bs : List β}
    (h : List.Forall₂ (fun a b => f b = f a) as bs) : bs.filterMap f = as.filterMap f := by
  induction h with
  | nil => rfl
  | cons hab _ ih => rw [List.filterMap_cons, List.filterMap_cons, hab, ih]

/-- A reordered entry gives the same item. -/
lemma item?_eq_of_reordered {fields : List String} {entry' : Tree × Tree}
    (hmake : ∀ key a b, (∀ field ∈ fields, Node.Alike (a.child field) (b.child field)) →
      make key b = make key a)
    (hk : entry.2.keysDiffer) (h : ReorderedEntry entry entry') :
    item? make path entry' = item? make path entry := by
  cases h with
  | @mk key value key' value' hkey hvalue =>
    have hitem : ∀ text, make text ⟨some value', Node.extend path text⟩ =
        make text ⟨some value, Node.extend path text⟩ := by
      refine fun text => hmake text _ _ fun field _ => (Node.Reordered.child ?_ field).alike
      exact ⟨rfl, fun _ ht => Option.some.inj ht ▸ hk, .some hvalue⟩
    simp only [item?, hvalue.isMapping_eq, hkey.scalarText?_eq, hitem]

/-- Items are moved along with their entries. -/
lemma movedAlong {fields : List String} {items items' : List α}
    (hmake : ∀ key a b, (∀ field ∈ fields, Node.Alike (a.child field) (b.child field)) →
      make key b = make key a)
    (hk : ∀ entry ∈ entries, entry.2.keysDiffer) (h : Moved entries others)
    (hi : items = entries.filterMap (item? make path))
    (hi' : items' = others.filterMap (item? make path)) :
    MovedAlong (item? make path) entries others items items' := by
  obtain ⟨moved, hp, hf⟩ := h
  have hall : List.Forall₂ (fun a b => a.2.keysDiffer ∧ ReorderedEntry a b) moved others :=
    (List.forall₂_and_left _ _).mpr ⟨fun entry hm => hk entry (hp.mem_iff.mpr hm), hf⟩
  have hsame : List.Forall₂ (fun a b => item? make path b = item? make path a) moved others :=
    hall.imp fun a b ⟨ha, hab⟩ => item?_eq_of_reordered hmake ha hab
  exact ⟨moved, hp, hf, hi, hi'.trans (filterMap_eq_of_forall₂ hsame)⟩

end Tree

/-! ### The lists of a reading -/

namespace Dialect

/-- The dimension that an entry gives. -/
def dimension? (dialect : Dialect) : Tree × Tree → Option Dimension :=
  Tree.item? dialect.dimension "dimension_scores.dimensions"

/-- The card that an entry of a legacy document gives. -/
def card? : Tree × Tree → Option ErrorCard :=
  Tree.item? Reading.legacyCard "error_distribution.dimensions"

end Dialect

lemma Reading.map_sections {α : Type} (make : String → Node → α) (node : Node) :
    ((sections node).map fun (key, entry) => make key entry) =
      node.rawEntries.filterMap (Tree.item? make node.path) := by
  rw [Node.sections_eq, Tree.sections, Tree.named, List.filter_filterMap, List.map_map,
    List.map_filterMap]
  refine List.filterMap_congr fun entry _ => ?_
  obtain ⟨key, value⟩ := entry
  simp only [Tree.item?]
  split <;> rename_i hm <;> cases key.scalarText? <;> simp [Option.filter, hm, Node.entryAt]

/-! ### Readings -/

/-- The items of a reading stand in the order of the entries of its document, one for each entry
that gives one, and what is rendered stands in the order of the items and shows their fields. -/
structure InDocumentOrder (document : Tree) (r : Reading) : Prop where
  dimensions : List.Forall₂
    (fun entry dimension => entry.1.scalarText? = some dimension.key ∧
      r.dialect.dimension? entry = some dimension)
    ((Place.dimensions document).rawEntries.filter Tree.givesItem) r.rules.dimensions
  cards : r.dialect = .legacy → List.Forall₂
    (fun entry card => entry.1.scalarText? = some card.key ∧ Dialect.card? entry = some card)
    ((Place.cards document).rawEntries.filter Tree.givesItem) r.rules.cards
  blocks : List.Forall₂
    (fun dimension block =>
      block = dimension.render r.rules.scores r.rules.templates.dimensionScore ∧
        Template.Shows Dimension.tokens (dimension.field r.rules.scores)
          r.rules.templates.dimensionScore block)
    r.rules.dimensions (Snippets.render r.rules).dimensionBlocks
  errorCards : List.Forall₂
    (fun card text => text = card.render r.rules.counts r.rules.templates.errorCard ∧
      Template.Shows ErrorCard.tokens (card.field r.rules.counts)
        r.rules.templates.errorCard text)
    r.rules.cards (Snippets.render r.rules).errorCards

/-- Two readings that differ in the order of their items alone, which is the order of the entries
of their documents. -/
structure SameButOrder (document other : Tree) (r r' : Reading) : Prop where
  dialect : r'.dialect = r.dialect
  scores : r'.rules.scores = r.rules.scores
  counts : r'.rules.counts = r.rules.counts
  templates : r'.rules.templates = r.rules.templates
  omitted : r'.omitted = r.omitted
  valid : r'.rules.validate = r.rules.validate
  dimensions : Tree.MovedAlong r.dialect.dimension? (Place.dimensions document).rawEntries
    (Place.dimensions other).rawEntries r.rules.dimensions r'.rules.dimensions
  legacyCards : r.dialect = .legacy → Tree.MovedAlong Dialect.card?
    (Place.cards document).rawEntries (Place.cards other).rawEntries r.rules.cards r'.rules.cards
  completeCards : r.dialect = .complete → r'.rules.cards = r.rules.cards ∧
    (Snippets.render r'.rules).errorCards = (Snippets.render r.rules).errorCards

/-- The texts that a document has for templates, by their names. -/
def Tree.templateTexts (document : Tree) : List (String × String) :=
  ((document.get? "templates").map TemplateSet.textEntries).getD []

section
variable {document other : Tree} {r : Reading} {dialect : Dialect}

lemma Dialect.exists_bands_of_read (h : Rules.read document = .ok r) :
    ∃ bands, (detect document).bands document = .ok bands ∧
      r = (detect document).reading document bands := by
  rw [read_eq (Reading.read_eq_ok_iff.mp h).1] at h
  cases hb : (detect document).bands document with
  | error e => rw [hb] at h; cases h
  | ok bands => rw [hb] at h; cases h; exact ⟨bands, rfl, rfl⟩

lemma Dialect.key_of_dimension? {entry : Tree × Tree} {dimension : Dimension}
    (h : dialect.dimension? entry = some dimension) :
    entry.1.scalarText? = some dimension.key := by
  unfold dimension? Tree.item? at h
  split at h
  · obtain ⟨key, hkey, rfl⟩ := Option.map_eq_some_iff.mp h
    cases dialect <;> exact hkey
  · cases h

lemma Dialect.key_of_card? {entry : Tree × Tree} {card : ErrorCard}
    (h : card? entry = some card) : entry.1.scalarText? = some card.key := by
  unfold card? Tree.item? at h
  split at h
  · obtain ⟨key, hkey, rfl⟩ := Option.map_eq_some_iff.mp h
    exact hkey
  · cases h

lemma Dialect.dimensions_reading (bands : ScoreBands × CountBands) :
    (dialect.reading document bands).rules.dimensions =
      (Place.dimensions document).rawEntries.filterMap dialect.dimension? :=
  Reading.map_sections dialect.dimension (Place.dimensions document)

lemma Dialect.cards_legacy : legacy.cards document =
    (Place.cards document).rawEntries.filterMap card? :=
  Reading.map_sections Reading.legacyCard (Place.cards document)

lemma forall₂_map {α β : Type} {f : α → β} {shows : α → β → Prop} (h : ∀ a, shows a (f a))
    (l : List α) : List.Forall₂ (fun a b => b = f a ∧ shows a b) l (l.map f) := by
  rw [List.forall₂_map_right_iff]
  exact List.forall₂_same.mpr fun a _ => ⟨rfl, h a⟩

lemma inDocumentOrder (h : Rules.read document = .ok r) : InDocumentOrder document r := by
  obtain ⟨bands, -, rfl⟩ := Dialect.exists_bands_of_read h
  refine ⟨?_, fun hd => ?_, forall₂_map (fun dimension => dimension.shows_render _ _) _,
    forall₂_map (fun card => card.shows_render _ _) _⟩
  · rw [Dialect.dimensions_reading]
    exact (Tree.forall₂_items fun _ => Tree.item?_isSome).imp fun _ _ h =>
      ⟨Dialect.key_of_dimension? h, h⟩
  · have hcards : ((Dialect.detect document).reading document bands).rules.cards =
        (Place.cards document).rawEntries.filterMap Dialect.card? := by
      rw [← Dialect.cards_legacy, ← hd]
      rfl
    rw [hcards]
    exact (Tree.forall₂_items fun _ => Tree.item?_isSome).imp fun _ _ h =>
      ⟨Dialect.key_of_card? h, h⟩

/-! ### Reordered documents -/

section
variable {document other : Tree} {dialect : Dialect} {key : String}

lemma Tree.Reordered.detect_eq (hk : document.keysDiffer) (h : document.Reordered other) :
    Dialect.detect other = Dialect.detect document := by
  have hsection : ∀ key, Dialect.hasSection other key = Dialect.hasSection document key := by
    intro key
    have hget : Option.Rel Reordered (document.get? key) (other.get? key) := h.get? hk
    unfold Dialect.hasSection
    generalize document.get? key = before at hget ⊢
    generalize other.get? key = after at hget ⊢
    cases hget with
    | none => rfl
    | some hv => exact hv.isMapping_eq
  have henabled : ((other.get? "dimension_scores").bind (·.get? "enabled")).isSome =
      ((document.get? "dimension_scores").bind (·.get? "enabled")).isSome := by
    have hwalk : Option.Rel Reordered (document.at? ["dimension_scores", "enabled"])
        (other.at? ["dimension_scores", "enabled"]) := h.at? hk
    simp only [Tree.at?, List.foldlM_cons, List.foldlM_nil, Option.bind_eq_bind,
      Option.pure_def, Option.bind_fun_some] at hwalk
    generalize (document.get? "dimension_scores").bind _ = before at hwalk ⊢
    generalize (other.get? "dimension_scores").bind _ = after at hwalk ⊢
    cases hwalk <;> rfl
  unfold Dialect.detect
  rw [hsection, hsection, hsection, henabled]

lemma Tree.Reordered.bands_eq (hk : document.keysDiffer) (h : document.Reordered other) :
    dialect.bands other = dialect.bands document :=
  Dialect.bands_eq fun keys _ => ((Node.reordered_root hk h).walk keys).alike

lemma Tree.Reordered.countVariable?_eq (hk : document.keysDiffer) (h : document.Reordered other) :
    Reading.countVariable? (Place.dimensions other) =
      Reading.countVariable? (Place.dimensions document) :=
  funext fun key => ((Node.reordered_root hk h).walk
    ["dimension_scores", "dimensions", key, "variable_count"]).alike.truthyText?_eq

lemma Tree.Reordered.textEntries_perm {s t : Tree} (h : Reordered s t) :
    (TemplateSet.textEntries s).Perm (TemplateSet.textEntries t) := by
  have he := h.entries?
  unfold TemplateSet.textEntries
  generalize s.entries? = before at he ⊢
  generalize t.entries? = after at he ⊢
  cases he with
  | none => exact .nil
  | @some entries others hmoved =>
    obtain ⟨moved, hp, hf⟩ := hmoved
    rw [Option.getD_some, Option.getD_some]
    refine (hp.filterMap _).trans (List.Perm.of_eq ?_)
    refine (filterMap_eq_of_forall₂ (hf.imp fun a b hab => ?_)).symm
    cases hab with
    | mk hkey hvalue => simp only [hkey.taggedText?_eq, hvalue.taggedText?_eq]

/-- The texts for templates are the same in another order. -/
lemma Tree.Reordered.templateTexts_perm (hk : document.keysDiffer) (h : document.Reordered other) :
    document.templateTexts.Perm other.templateTexts := by
  have hget : Option.Rel Reordered (document.get? "templates") (other.get? "templates") :=
    h.get? hk
  unfold templateTexts
  generalize document.get? "templates" = before at hget ⊢
  generalize other.get? "templates" = after at hget ⊢
  cases hget with
  | none => exact .nil
  | some ht => exact ht.textEntries_perm

lemma TemplateSet.textEntries_of_isNull {t : Tree} (h : t.isNull) : textEntries t = [] := by
  have hnone : t.entries? = none := by
    cases he : t.entries? with
    | none => rfl
    | some entries => rw [Tree.isNull_of_entries? he] at h; cases h
  rw [textEntries, hnone, Option.getD_none, List.filterMap_nil]

lemma Dialect.templates_legacy : legacy.templates document =
    document.templateTexts.foldl (fun set (name, text) => set.insert name text) .builtin := by
  have htexts : ((((Node.root document).child "templates").value?.map
      TemplateSet.textEntries).getD []) = document.templateTexts := by
    unfold Tree.templateTexts
    rw [Node.value?, Node.child, Node.root, Option.bind_some]
    cases document.get? "templates" with
    | none => rfl
    | some t =>
      cases hn : t.isNull with
      | false => simp [Option.filter, hn]
      | true => simp [Option.filter, hn, TemplateSet.textEntries_of_isNull hn]
  rw [← htexts]
  rfl

lemma Tree.Reordered.templates_eq (hk : document.keysDiffer) (h : document.Reordered other)
    (hn : (document.templateTexts.map (·.1)).Nodup) :
    dialect.templates other = dialect.templates document := by
  cases dialect with
  | complete => rfl
  | legacy =>
    rw [Dialect.templates_legacy, Dialect.templates_legacy]
    exact TemplateSet.foldl_insert_of_perm (h.templateTexts_perm hk) hn

lemma Tree.Reordered.movedAlong_dimensions (hk : document.keysDiffer)
    (h : document.Reordered other) (bands : ScoreBands × CountBands) :
    MovedAlong dialect.dimension? (Place.dimensions document).rawEntries
      (Place.dimensions other).rawEntries (dialect.reading document bands).rules.dimensions
      (dialect.reading other bands).rules.dimensions := by
  have hnode : Node.Reordered (Place.dimensions document) (Place.dimensions other) :=
    (Node.reordered_root hk h).walk ["dimension_scores", "dimensions"]
  exact movedAlong (fun _ _ _ => Reading.dimension_eq)
    (fun _ hm => hnode.keysDiffer_rawEntries hm) hnode.rawEntries
    (Dialect.dimensions_reading bands) (Dialect.dimensions_reading bands)

lemma Tree.Reordered.movedAlong_cards (hk : document.keysDiffer) (h : document.Reordered other) :
    MovedAlong Dialect.card? (Place.cards document).rawEntries (Place.cards other).rawEntries
      (Dialect.legacy.cards document) (Dialect.legacy.cards other) := by
  have hnode : Node.Reordered (Place.cards document) (Place.cards other) :=
    (Node.reordered_root hk h).walk ["error_distribution", "dimensions"]
  exact movedAlong (fun _ _ _ => Reading.legacyCard_eq)
    (fun _ hm => hnode.keysDiffer_rawEntries hm) hnode.rawEntries Dialect.cards_legacy
    Dialect.cards_legacy

lemma Tree.Reordered.cards_complete (hk : document.keysDiffer) (h : document.Reordered other) :
    Dialect.complete.cards other = Dialect.complete.cards document := by
  simp only [Dialect.cards, Reading.completeCards, h.countVariable?_eq hk]

lemma Tree.Reordered.omitted_eq (hk : document.keysDiffer) (h : document.Reordered other) :
    dialect.omitted other = dialect.omitted document := by
  cases dialect with
  | complete => simp only [Dialect.omitted, Reading.omittedCards, h.countVariable?_eq hk]
  | legacy => rfl

/-- Readings made from the same bands differ in the order of their items alone. -/
lemma Tree.Reordered.sameButOrder (hk : document.keysDiffer) (h : document.Reordered other)
    (hn : (document.templateTexts.map (·.1)).Nodup) (bands : ScoreBands × CountBands) :
    SameButOrder document other (dialect.reading document bands) (dialect.reading other bands) where
  dialect := rfl
  scores := rfl
  counts := rfl
  templates := h.templates_eq hk hn
  omitted := h.omitted_eq hk
  valid := rfl
  dimensions := h.movedAlong_dimensions hk bands
  legacyCards hd := by
    cases dialect with
    | complete => cases hd
    | legacy => exact h.movedAlong_cards hk
  completeCards hd := by
    cases dialect with
    | legacy => cases hd
    | complete =>
      have hcards := h.cards_complete hk
      refine ⟨hcards, ?_⟩
      simp only [Snippets.render, Dialect.reading, hcards, Dialect.templates]

end

/-- **Order matters for lists of items alone.** Dimensions, and the cards of a legacy document,
are one for each entry that gives one and stand in its order, and blocks and cards are rendered
in theirs. When the entries of a document are moved, these lists are moved along, and all else
is the same. -/
theorem order_of_entries :
    (∀ document r, Rules.read document = .ok r → InDocumentOrder document r) ∧
      ∀ document other : Tree, document.keysDiffer → document.Reordered other →
        (document.templateTexts.map (·.1)).Nodup →
        Dialect.detect other = Dialect.detect document ∧
          ((∃ e, Rules.read document = .error e ∧ Rules.read other = .error e) ∨
            ∃ r r', Rules.read document = .ok r ∧ Rules.read other = .ok r' ∧
              SameButOrder document other r r') := by
  refine ⟨fun document r => inDocumentOrder, fun document other hk h hn => ?_⟩
  have hd : Dialect.detect other = Dialect.detect document := h.detect_eq hk
  refine ⟨hd, ?_⟩
  by_cases hm : document.isMapping
  · have hm' : other.isMapping := h.isMapping_eq.trans hm
    rw [Dialect.read_eq hm, Dialect.read_eq hm', hd, h.bands_eq hk]
    cases (Dialect.detect document).bands document with
    | error e => exact .inl ⟨e, rfl, rfl⟩
    | ok bands => exact .inr ⟨_, _, rfl, rfl, h.sameButOrder hk hn bands⟩
  · have hm' : ¬ other.isMapping := by rwa [h.isMapping_eq]
    exact .inl ⟨.notAMapping, if_neg hm, if_neg hm'⟩

/-- A legacy document with three entries for its dimensions, two of which give one. -/
def orderedDocument : Tree :=
  .mapping
    [(.text "dimension_scores", .tagged "!s" (.mapping
       [(.text "thresholds", .mapping
          [(.text "excellent", .mapping [(.text "percentage", .number (.integer 95))]),
           (.text "acceptable", .mapping [(.text "min_percentage", .text "80")])]),
        (.text "dimensions", .mapping
          [(.text "b", .mapping [(.text "variable", .text "first"), (.text "label_it", .null)]),
           (.tagged "!k" (.text "c"), .mapping []),
           (.number (.integer 1), .tagged "!d" (.mapping [(.text "variable", .text "last")]))])])),
     (.text "error_distribution", .mapping
       [(.text "thresholds", .mapping
         [(.text "critical", .mapping [(.text "min_count", .number (.integer 3))]),
          (.text "high", .mapping [(.text "min_count", .number (.integer 2))]),
          (.text "medium", .mapping [(.text "min_count", .number (.integer 1))])])]),
     (.text "templates", .mapping
       [(.text "error_distribution_card_html", .text ""), (.text "more", .text "")])]

theorem order_of_entries_reversed :
    orderedDocument.keysDiffer ∧ orderedDocument.Reordered orderedDocument.reversed ∧
      (orderedDocument.templateTexts.map (·.1)).Nodup ∧
      ∃ r r', Rules.read orderedDocument = .ok r ∧ Rules.read orderedDocument.reversed = .ok r' ∧
        InDocumentOrder orderedDocument r ∧
        SameButOrder orderedDocument orderedDocument.reversed r r' ∧
        r.rules.dimensions.map (·.scoreVariable) = ["first", "last"] ∧
        r'.rules.dimensions.map (·.scoreVariable) = ["last", "first"] := by
  have hk : orderedDocument.keysDiffer := by decide +kernel
  have hr : orderedDocument.Reordered orderedDocument.reversed := Tree.reordered_reversed _
  have hn : (orderedDocument.templateTexts.map (·.1)).Nodup := by decide +kernel
  obtain ⟨r, h, hv⟩ := exists_ok_of_any (x := Rules.read orderedDocument)
    (p := fun r => r.rules.dimensions.map (·.scoreVariable) = ["first", "last"]) (by decide +kernel)
  obtain ⟨r', h', hv'⟩ := exists_ok_of_any (x := Rules.read orderedDocument.reversed)
    (p := fun r => r.rules.dimensions.map (·.scoreVariable) = ["last", "first"]) (by decide +kernel)
  obtain ⟨-, ⟨e, he, -⟩ | ⟨s, s', hs, hs', hsame⟩⟩ := order_of_entries.2 _ _ hk hr hn
  · rw [h] at he
    cases he
  · cases h.symm.trans hs
    cases h'.symm.trans hs'
    exact ⟨hk, hr, hn, r, r', h, h', order_of_entries.1 _ _ h, hsame, of_decide_eq_true hv,
      of_decide_eq_true hv'⟩

end

end QualityBands
