import Mathlib.Data.List.Forall2
import QualityBands.Proofs.Assembly
import QualityBands.Proofs.BuiltinTemplates
import QualityBands.Proofs.DocumentTexts

/-!
Rendering with the built-in templates is complete.

A section is its blocks in order with a blank line between them: a built-in block begins with a
tag and ends with a tag and one line feed, so trimming takes that line feed and nothing else.
-/

namespace QualityBands

open Text Template

/-! ### Trimming a section -/

/-- A text that begins with a tag and ends with a tag and a line feed. -/
def IsBlock (text : String) : Prop := ∃ inside, text.toList = '<' :: (inside ++ ['>', '\n'])

/-- Blocks with a blank line between them; a section without blocks is an empty line. -/
def stacked (blocks : List String) : String :=
  if blocks = [] then "\n" else "\n\n".intercalate blocks

variable {blocks : List String}

lemma IsBlock.append {front back : String} (hf : IsBlock front) (between : String)
    (hb : IsBlock back) : IsBlock (front ++ (between ++ back)) := by
  obtain ⟨x, hx⟩ := hf
  obtain ⟨y, hy⟩ := hb
  exact ⟨x ++ '>' :: '\n' :: (between.toList ++ '<' :: y), by simp [hx, hy]⟩

lemma isBlock_intercalate (hne : blocks ≠ []) (h : ∀ block ∈ blocks, IsBlock block) :
    IsBlock ("\n\n".intercalate blocks) := by
  induction blocks with
  | nil => exact absurd rfl hne
  | cons first blocks ih =>
    obtain ⟨hf, hb⟩ := List.forall_mem_cons.mp h
    cases blocks with
    | nil => simpa using hf
    | cons second blocks =>
      rw [String.intercalate_cons_cons, String.append_assoc]
      exact hf.append _ (ih (by simp) hb)

/-- Trimming a block takes the line feed at its end. -/
lemma IsBlock.trim_append {text : String} (h : IsBlock text) : Text.trim text ++ "\n" = text := by
  obtain ⟨inside, h⟩ := h
  have ho : isBlank '<' = false := by decide
  have hc : isBlank '>' = false := by decide
  have hn : isBlank '\n' = true := by decide
  rw [← String.toList_inj, String.toList_append, Text.toList_trim, h]
  simp [trimmed, trimStart, trimEnd, ho, hc, hn]

lemma sectionText_eq_stacked (h : ∀ block ∈ blocks, IsBlock block) :
    Snippets.sectionText blocks = stacked blocks := by
  unfold stacked
  split
  · next hb => rw [hb]; rfl
  · next hb => exact (isBlock_intercalate hb h).trim_append

lemma clean_intercalate (h : ∀ block ∈ blocks, Clean block) :
    Clean ("\n\n".intercalate blocks) := by
  induction blocks with
  | nil => exact clean_of_not_mem (by decide)
  | cons first blocks ih =>
    obtain ⟨hf, hb⟩ := List.forall_mem_cons.mp h
    cases blocks with
    | nil => simpa using hf
    | cons second blocks =>
      rw [String.intercalate_cons_cons, String.append_assoc]
      exact hf.append_between (ih hb) (by decide) (by decide)

lemma clean_stacked (h : ∀ block ∈ blocks, Clean block) : Clean (stacked blocks) := by
  unfold stacked
  split
  · exact clean_of_not_mem (by decide)
  · exact clean_intercalate h

lemma occurs_intercalate {block : String} (hb : block ∈ blocks) :
    Occurs block ("\n\n".intercalate blocks) := by
  induction blocks with
  | nil => cases hb
  | cons first blocks ih =>
    cases blocks with
    | nil => simp [Occurs, List.mem_singleton.mp hb]
    | cons second blocks =>
      rw [String.intercalate_cons_cons, String.append_assoc]
      rcases List.mem_cons.mp hb with rfl | hb
      · exact ⟨[], _, by simp; rfl⟩
      · obtain ⟨front, back, he⟩ := ih hb
        exact ⟨first.toList ++ '\n' :: '\n' :: front, back, by simp [← he]⟩

lemma occurs_stacked {block : String} (hb : block ∈ blocks) : Occurs block (stacked blocks) := by
  rw [stacked, if_neg (List.ne_nil_of_mem hb)]
  exact occurs_intercalate hb

/-! ### Built-in blocks -/

lemma isBlock_filled {first last text : String} {middle : List String} {rest : List Piece}
    {value? : String → Option String} (hf : piecesOf first = .literal "<!-- " :: rest)
    (hl : piecesOf last = [.literal text]) (ht : ∃ front, text.toList = front ++ ['>']) :
    IsBlock (filled value? (linePieces (first :: (middle ++ [last])))) := by
  obtain ⟨front, ht⟩ := ht
  refine ⟨"!-- ".toList ++ ((filled value? rest).toList ++
    '\n' :: ((filled value? (linePieces middle)).toList ++ front)), ?_⟩
  simp [linePieces, hf, hl, ht, filled_append, filled_cons, Piece.filled]

lemma isBlock_dimensionPieces (value? : String → Option String) :
    IsBlock (filled value? dimensionPieces) := by
  have hlines : dimensionScoreLines = "<!-- @@DIMENSION_NAME@@ -->" ::
      (dimensionScoreLines.tail.dropLast ++ ["</div>"]) := rfl
  have hf : piecesOf "<!-- @@DIMENSION_NAME@@ -->" =
      [.literal "<!-- ", .reference "DIMENSION_NAME", .literal " -->"] :=
    piecesOf_of_chars [_, _, _] rfl rfl (by decide +kernel)
  have hl : piecesOf "</div>" = [.literal "</div>"] :=
    piecesOf_of_chars [_] rfl rfl (by decide +kernel)
  rw [dimensionPieces, hlines]
  exact isBlock_filled hf hl ⟨"</div".toList, by decide⟩

lemma isBlock_cardPieces (value? : String → Option String) :
    IsBlock (filled value? cardPieces) := by
  have hlines : errorCardLines = "<!-- @@DIMENSION_NAME@@ Error Card -->" ::
      (errorCardLines.tail.dropLast ++ ["    </div>"]) := rfl
  have hf : piecesOf "<!-- @@DIMENSION_NAME@@ Error Card -->" =
      [.literal "<!-- ", .reference "DIMENSION_NAME", .literal " Error Card -->"] :=
    piecesOf_of_chars [_, _, _] rfl rfl (by decide +kernel)
  have hl : piecesOf "    </div>" = [.literal "    </div>"] :=
    piecesOf_of_chars [_] rfl rfl (by decide +kernel)
  rw [cardPieces, hlines]
  exact isBlock_filled hf hl ⟨"    </div".toList, by decide⟩

/-! ### Sections of blocks -/

section
variable {α : Type} {items : List α} {value? : α → String → Option String} {template : String}
  {shown : α → String}

/-- A section that is one instance of a template for each item. -/
structure IsSection (value? : α → String → Option String) (template : String) (items : List α)
    (text : String) : Prop where
  blocks : ∃ blocks, text = stacked blocks ∧
    List.Forall₂ (fun item => Instantiates (value? item) template) items blocks
  clean : ¬ Occurs delimiter text

lemma sectionText_map (hb : ∀ x ∈ items, IsBlock (shown x)) :
    Snippets.sectionText (items.map shown) = stacked (items.map shown) :=
  sectionText_eq_stacked (List.forall_mem_map.mpr hb)

lemma isSection_map (hb : ∀ x ∈ items, IsBlock (shown x))
    (hi : ∀ x ∈ items, Instantiates (value? x) template (shown x) ∧ Clean (shown x)) :
    IsSection value? template items (Snippets.sectionText (items.map shown)) := by
  rw [sectionText_map hb]
  refine ⟨⟨_, rfl, ?_⟩, clean_stacked (List.forall_mem_map.mpr fun x hx => (hi x hx).2)⟩
  rw [List.forall₂_map_right_iff, List.forall₂_same]
  exact fun x hx => (hi x hx).1

lemma occurs_section {x : α} {part : String} (hb : ∀ x ∈ items, IsBlock (shown x))
    (hx : x ∈ items) (ho : Occurs part (shown x)) :
    Occurs part (Snippets.sectionText (items.map shown)) := by
  rw [sectionText_map hb]
  exact ho.trans (occurs_stacked (List.mem_map_of_mem hx))

end

/-! ### Sections of rules with the built-in templates -/

section
variable {rules : Rules} {document : Tree} {r : Reading}

lemma isSection_dimensions (ht : rules.templates = .builtin)
    (hv : ∀ d ∈ rules.dimensions, CleanFields (d.field rules.scores)) :
    IsSection (fun d => d.field rules.scores) builtinDimensionScore rules.dimensions
        (Snippets.render rules).dimensionSection ∧
      ∀ d ∈ rules.dimensions, Occurs d.scoreVariable (Snippets.render rules).dimensionSection ∧
        Occurs d.errorVariable (Snippets.render rules).dimensionSection := by
  have hb : ∀ d ∈ rules.dimensions, IsBlock (d.render rules.scores builtinDimensionScore) := by
    intro d hd
    rw [Dimension.render_builtin (hv d hd)]
    exact isBlock_dimensionPieces _
  rw [Snippets.dimensionSection, Snippets.render, ht, TemplateSet.builtin]
  refine ⟨isSection_map hb fun d hd => Dimension.instantiates_render (hv d hd), fun d hd => ?_⟩
  obtain ⟨hs, he⟩ := Dimension.occurs_render (hv d hd)
  exact ⟨occurs_section hb hd hs, occurs_section hb hd he⟩

lemma isSection_cards (ht : rules.templates = .builtin)
    (hv : ∀ c ∈ rules.cards, CleanFields (c.field rules.counts)) :
    IsSection (fun c => c.field rules.counts) builtinErrorCard rules.cards
        (Snippets.render rules).errorSection ∧
      ∀ c ∈ rules.cards, Occurs c.countVariable (Snippets.render rules).errorSection := by
  have hb : ∀ c ∈ rules.cards, IsBlock (c.render rules.counts builtinErrorCard) := by
    intro c hc
    rw [ErrorCard.render_builtin (hv c hc)]
    exact isBlock_cardPieces _
  rw [Snippets.errorSection, Snippets.render, ht, TemplateSet.builtin]
  refine ⟨isSection_map hb fun c hc => ErrorCard.instantiates_render (hv c hc), fun c hc => ?_⟩
  exact occurs_section hb hc (ErrorCard.occurs_render (hv c hc))

lemma clean_fragmentsDocument {snippets : Snippets} (hd : Clean snippets.dimensionSection)
    (he : Clean snippets.errorSection) : Clean snippets.fragmentsDocument := by
  have hh : '@' ∉ Snippets.documentHead.toList := by decide +kernel
  have hm : '@' ∉ Snippets.documentMiddle.toList := by decide +kernel
  have ht : '@' ∉ Snippets.documentTail.toList := by decide +kernel
  rw [Snippets.fragmentsDocument_eq, String.append_assoc, String.append_assoc, String.append_assoc]
  exact .append_after_not_mem hh
    (hd.append_between (he.append_of_not_mem ht) (by decide +kernel) hm)

/-- **Rendering with the built-in templates is complete.** A complete document without
delimiters gives sections that hold one filled template for each dimension and each card in
order, with every variable in it, and no delimiter is left anywhere. -/
theorem render_complete (h : Rules.read document = .ok r) (hd : r.dialect = .complete)
    (hc : ∀ s ∈ document.texts, ¬ Occurs delimiter s) :
    let snippets := Snippets.render r.rules
    IsSection (fun d => d.field r.rules.scores) builtinDimensionScore r.rules.dimensions
        snippets.dimensionSection ∧
      IsSection (fun c => c.field r.rules.counts) builtinErrorCard r.rules.cards
        snippets.errorSection ∧
      ¬ Occurs delimiter snippets.fragmentsDocument ∧
      (∀ d ∈ r.rules.dimensions, Occurs d.scoreVariable snippets.dimensionSection ∧
        Occurs d.errorVariable snippets.dimensionSection) ∧
      ∀ c ∈ r.rules.cards, Occurs c.countVariable snippets.errorSection := by
  have hr := Reading.isComplete_of_read h hd
  obtain ⟨hds, hdv⟩ := isSection_dimensions hr.templates fun d hm =>
    Dimension.clean_fields (hr.clean_dimension hc hm)
  obtain ⟨hcs, hcv⟩ := isSection_cards hr.templates fun c hm =>
    ErrorCard.clean_fields (hr.clean_card hc hm) (hr.clean_labelIt hc)
  exact ⟨hds, hcs, clean_fragmentsDocument hds.clean hcs.clean, hdv, hcv⟩

/-- A complete document whose texts hold single at signs and the name of a token. -/
def atSignDocument : Tree :=
  .mapping
    [(.text "global", .mapping []),
     (.text "dimension_scores", .mapping
       [(.text "enabled", .bool true),
        (.text "thresholds", .mapping
          [(.text "excellent", .mapping [(.text "value", .number (.integer 95))]),
           (.text "acceptable", .mapping [(.text "value", .number (.integer 80))])]),
        (.text "dimensions", .mapping
          [(.text "accuracy", .mapping
            [(.text "variable_score", .text "acc@"), (.text "variable_error", .text "VAR"),
             (.text "variable_count", .text "@n")])])]),
     (.text "error_distribution", .mapping
       [(.text "thresholds", .mapping
         [(.text "critical", .mapping [(.text "value", .number (.integer 5))]),
          (.text "high", .mapping [(.text "value", .number (.integer 3))]),
          (.text "medium", .mapping [(.text "value", .number (.integer 1))])])])]

theorem render_complete_at_signs :
    ∃ r, Rules.read atSignDocument = .ok r ∧ r.dialect = .complete ∧
      (∀ s ∈ atSignDocument.texts, ¬ Occurs delimiter s) ∧
      ¬ Occurs delimiter (Snippets.render r.rules).fragmentsDocument ∧
      Occurs "acc@" (Snippets.render r.rules).dimensionSection ∧
      Occurs "VAR" (Snippets.render r.rules).dimensionSection ∧
      Occurs "@n" (Snippets.render r.rules).errorSection := by
  obtain ⟨r, h, hd, ⟨d, hm, hs, he⟩, ⟨c, hn, hv⟩⟩ : ∃ r, Rules.read atSignDocument = .ok r ∧
      r.dialect = .complete ∧
      (∃ d ∈ r.rules.dimensions, d.scoreVariable = "acc@" ∧ d.errorVariable = "VAR") ∧
      ∃ c ∈ r.rules.cards, c.countVariable = "@n" :=
    ⟨_, rfl, rfl, ⟨_, .head _, rfl, rfl⟩, ⟨_, .head _, rfl⟩⟩
  have hc : ∀ s ∈ atSignDocument.texts, ¬ Occurs delimiter s := by decide +kernel
  obtain ⟨-, -, hf, hdv, hcv⟩ := render_complete h hd hc
  exact ⟨r, h, hd, hc, hf, hs ▸ (hdv d hm).1, he ▸ (hdv d hm).2, hv ▸ hcv c hn⟩

end

end QualityBands
