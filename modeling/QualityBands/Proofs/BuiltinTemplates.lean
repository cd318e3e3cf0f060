import QualityBands.Proofs.CleanText
import QualityBands.Proofs.Filling
import QualityBands.Proofs.Keyed
import QualityBands.Proofs.Ladder
import QualityBands.Proofs.TemplateLines
import QualityBands.Template.Rendering

/-!
The built-in templates, filled.

Both templates are well separated, and all their references have a value. So a rendered block
or card is the template with each token replaced by the field it is named for, and it has no
delimiter left when the fields have none.
-/

namespace QualityBands

open Text Template

/-! ### What tokens stand for -/

/-- The field of a dimension that a token is named for. -/
def Dimension.field (dimension : Dimension) (bands : ScoreBands) : String → Option String
  | "DIMENSION_NAME" => some dimension.labelEn
  | "LABEL_IT" => some dimension.labelIt
  | "LABEL_EN" => some dimension.labelEn
  | "DESCRIPTION_IT" => some dimension.descriptionIt
  | "ERROR_LABEL_IT" => some dimension.errorLabelIt
  | "VAR" => some dimension.scoreVariable
  | "ERROR_VAR" => some dimension.errorVariable
  | "THRESH_EXCELLENT" => some (percentage bands.excellent)
  | "THRESH_ACCEPTABLE" => some (percentage bands.acceptable)
  | _ => none

/-- The field of a card or the property of a band that a token is named for. -/
def ErrorCard.field (card : ErrorCard) (bands : CountBands) : String → Option String
  | "DIMENSION_NAME" => some card.label
  | "DIMENSION_LABEL" => some card.label
  | "SUBTITLE_FALLBACK_IT" => some card.subtitleIt
  | "ERROR_VAR" => some card.countVariable
  | "THRESH_CRITICAL" => some bands.critical.bound.text
  | "THRESH_HIGH" => some bands.high.bound.text
  | "THRESH_MEDIUM" => some bands.medium.bound.text
  | "LABEL_CRITICAL_IT" => some bands.critical.labelIt
  | "LABEL_HIGH_IT" => some bands.high.labelIt
  | "LABEL_MEDIUM_IT" => some bands.medium.labelIt
  | "LABEL_LOW_IT" => some bands.low.labelIt
  | _ => none

lemma Dimension.lookup_tokenValues (dimension : Dimension) (bands : ScoreBands) :
    (List.lookup · (tokens.zip (dimension.tokenValues bands))) = dimension.field bands := by
  funext name
  simp only [tokens, tokenValues, List.zip_cons_cons, lookup_cons_eq, List.zip_nil_right,
    List.lookup_nil]
  fun_cases field dimension bands name <;> simp_all

lemma ErrorCard.lookup_tokenValues (card : ErrorCard) (bands : CountBands) :
    (List.lookup · (tokens.zip (card.tokenValues bands))) = card.field bands := by
  funext name
  simp only [tokens, tokenValues, Severity.all, List.map_cons, List.map_nil, List.cons_append,
    List.nil_append, CountBands.labelIt, List.zip_cons_cons, lookup_cons_eq, List.zip_nil_right,
    List.lookup_nil]
  fun_cases field card bands name <;> simp_all

/-- Values without a delimiter. -/
def CleanFields (value? : String → Option String) : Prop :=
  ∀ name value, value? name = some value → Clean value

/-! ### The templates as parts -/

namespace Template

def dimensionPieces : List Piece := linePieces dimensionScoreLines

def cardPieces : List Piece := linePieces errorCardLines

lemma source_dimensionPieces : source dimensionPieces = builtinDimensionScore :=
  source_linePieces _

lemma source_cardPieces : source cardPieces = builtinErrorCard :=
  source_linePieces _

/-- A name of capitals and underscores. -/
def isTokenName (name : List Char) : Bool := name ≠ [] && name.all isNameChar

lemma areNames_of_chars {name : String} {cs : List Char} (hn : name = String.ofList cs)
    (h : isTokenName cs) : IsName name ∧ ∀ c ∈ name.toList, isNameChar c := by
  subst hn
  simp only [isTokenName, Bool.and_eq_true, decide_eq_true_eq, List.all_eq_true] at h
  rw [String.toList_ofList]
  refine ⟨⟨fun he => h.1 ?_, ?_⟩, h.2⟩
  · simpa using he
  · rw [String.toList_ofList]
    exact fun ha => absurd (h.2 _ ha) (by decide)

lemma areNames_dimensionTokens : AreNames Dimension.tokens := by
  unfold AreNames Dimension.tokens
  repeat' (first | exact List.forall_mem_nil _ |
    refine List.forall_mem_cons.mpr ⟨areNames_of_chars rfl (by decide +kernel), ?_⟩)

lemma areNames_cardTokens : AreNames ErrorCard.tokens := by
  unfold AreNames ErrorCard.tokens
  repeat' (first | exact List.forall_mem_nil _ |
    refine List.forall_mem_cons.mpr ⟨areNames_of_chars rfl (by decide +kernel), ?_⟩)

/-- A line is checked on its characters, which are faster to take apart than a text. -/
lemma regular_of_chars {tokens : List String} {line : String} {cs : List Char}
    (hl : line = String.ofList cs) (h : regular tokens (cut cs)) :
    regular tokens (cut line.toList) := by
  rwa [hl, String.toList_ofList]

set_option maxRecDepth 4000 in
lemma regular_dimensionScoreLines :
    ∀ line ∈ dimensionScoreLines, regular Dimension.tokens (cut line.toList) := by
  unfold dimensionScoreLines
  repeat' (first | exact List.forall_mem_nil _ |
    refine List.forall_mem_cons.mpr ⟨regular_of_chars rfl (by decide +kernel), ?_⟩)

set_option maxRecDepth 4000 in
lemma regular_errorCardLines :
    ∀ line ∈ errorCardLines, regular ErrorCard.tokens (cut line.toList) := by
  unfold errorCardLines
  repeat' (first | exact List.forall_mem_nil _ |
    refine List.forall_mem_cons.mpr ⟨regular_of_chars rfl (by decide +kernel), ?_⟩)

lemma isTemplate_dimensionPieces : IsTemplate Dimension.tokens dimensionPieces :=
  isTemplate_linePieces areNames_dimensionTokens regular_dimensionScoreLines

lemma isTemplate_cardPieces : IsTemplate ErrorCard.tokens cardPieces :=
  isTemplate_linePieces areNames_cardTokens regular_errorCardLines

/-- The line of the card that climbs the ladder. -/
def ladderPieces : List Piece :=
  [.literal "   th:with=\"severity=$\x7b",
   .reference "ERROR_VAR", .literal " > ", .reference "THRESH_CRITICAL",
   .literal " ? 'critical' : ",
   .reference "ERROR_VAR", .literal " > ", .reference "THRESH_HIGH", .literal " ? 'high' : ",
   .reference "ERROR_VAR", .literal " > ", .reference "THRESH_MEDIUM",
   .literal " ? 'medium' : 'low'\x7d\""]

set_option maxRecDepth 4000 in
lemma exists_ladder_line : ∃ line ∈ errorCardLines, piecesOf line = ladderPieces :=
  ⟨_, List.mem_of_getElem? (i := 2) rfl,
    piecesOf_of_chars [_, _, _, _, _, _, _, _, _, _, _, _, _] rfl rfl (by decide +kernel)⟩

/-- The card climbs the ladder of its three bounds, whatever the tokens stand for. -/
lemma occurs_ladder (value? : String → Option String) :
    Occurs (Ladder.text ((Piece.reference "ERROR_VAR").filled value?)
        (ErrorCard.rungs.map fun (severity, name) =>
          (severity, (Piece.reference name).filled value?)))
      (filled value? cardPieces) := by
  obtain ⟨line, hm, hl⟩ := exists_ladder_line
  have ho := occurs_line value? hm
  rw [hl] at ho
  refine List.IsInfix.trans
    ⟨"   th:with=\"severity=$\x7b".toList, "\x7d\"".toList, ?_⟩ ho
  simp [filled, ladderPieces, Piece.filled, ErrorCard.rungs, Ladder.text, Severity.key]

/-! ### Filled templates -/

section
variable {names : List String} {pieces : List Piece} {value? : String → Option String}
  {name value : String}

/-- A well-separated template in which every reference has a clean value leaves no delimiter. -/
lemma clean_filled (h : WellSeparated names pieces)
    (hv : ∀ name, .reference name ∈ pieces → ∃ value, value? name = some value ∧ Clean value) :
    Clean (filled value? pieces) := by
  rw [Clean, Occurs, toList_filled]
  induction pieces with
  | nil => simp [chars, delimiter]
  | cons piece pieces ih =>
    have ih := ih h.tail fun name hn => hv name (List.mem_cons_of_mem _ hn)
    rw [chars, List.flatMap_cons, ← chars]
    cases piece with
    | literal text =>
      have hw : '@' ∉ text.toList := h.wellFormed _ List.mem_cons_self
      exact not_infix_append (clean_of_not_mem hw) ih fun hm => absurd hm hw
    | reference name =>
      obtain ⟨value, hs, hc⟩ := hv name List.mem_cons_self
      rw [Piece.filled, hs, Option.getD_some]
      exact not_infix_append hc ih fun _ => h.closed.head

lemma occurs_of_reference (hm : .reference name ∈ pieces) (hs : value? name = some value) :
    Occurs value (filled value? pieces) := by
  obtain ⟨front, back, rfl⟩ := List.append_of_mem hm
  rw [filled_append, filled_cons, Piece.filled, hs, Option.getD_some]
  exact ⟨(filled value? front).toList, (filled value? back).toList, by simp⟩

/-- A text shows values in a template: if the template is well separated and the values that go
into it are clean, each reference has given way to its value. -/
def Shows (names : List String) (value? : String → Option String) (template text : String) :
    Prop :=
  ∀ pieces, source pieces = template → WellSeparated names pieces →
    (∀ name value, .reference name ∈ pieces → value? name = some value → Clean value) →
    text = filled value? pieces

lemma shows_fill_zip {tokens values : List String} (ht : AreNames tokens)
    (hl : (List.lookup · (tokens.zip values)) = value?) (template : String) :
    Shows tokens value? template (fill template (tokens.zip values)) := by
  subst hl
  rintro pieces rfl h hv
  refine fill_source (fun r hr => (ht _ (List.of_mem_zip hr).1).1) hv (h.mono fun name hn => ?_)
  obtain ⟨r, hr, rfl⟩ := List.mem_map.mp hn
  exact (List.of_mem_zip hr).1

/-- A text is a template with all its tokens replaced by their values. -/
def Instantiates (value? : String → Option String) (template text : String) : Prop :=
  ∃ pieces, source pieces = template ∧ (∀ piece ∈ pieces, piece.WellFormed) ∧
    (∀ name, .reference name ∈ pieces → (value? name).isSome) ∧ filled value? pieces = text

lemma instantiates_filled (h : IsTemplate names pieces)
    (hs : ∀ name ∈ names, (value? name).isSome)
    (hv : CleanFields value?) :
    Instantiates value? (source pieces) (filled value? pieces) ∧ Clean (filled value? pieces) := by
  have hr : ∀ name, .reference name ∈ pieces → (value? name).isSome :=
    fun name hn => hs name (h.known name hn)
  refine ⟨⟨pieces, rfl, h.separated.wellFormed, hr, rfl⟩,
    clean_filled h.separated fun name hn => ?_⟩
  obtain ⟨value, hs⟩ := Option.isSome_iff_exists.mp (hr name hn)
  exact ⟨value, hs, hv name value hs⟩

end

end Template

/-! ### Rendering -/

namespace Dimension

variable {dimension : Dimension} {bands : ScoreBands} {name : String}

lemma field_isSome (h : name ∈ tokens) : (dimension.field bands name).isSome := by
  simp only [tokens, List.mem_cons, List.not_mem_nil, or_false] at h
  rcases h with rfl | rfl | rfl | rfl | rfl | rfl | rfl | rfl | rfl <;> rfl

lemma clean_fields (h : Clean dimension.scoreVariable ∧ Clean dimension.errorVariable ∧
    Clean dimension.labelIt ∧ Clean dimension.labelEn ∧ Clean dimension.descriptionIt ∧
    Clean dimension.errorLabelIt) : CleanFields (dimension.field bands) := by
  obtain ⟨hscore, herror, hit, hen, hdescription, hlabel⟩ := h
  intro name value hs
  unfold field at hs
  split at hs <;> cases hs
  · exact hen
  · exact hit
  · exact hen
  · exact hdescription
  · exact hlabel
  · exact hscore
  · exact herror
  · exact clean_percentage bands.excellent
  · exact clean_percentage bands.acceptable

/-- A rendered block shows the fields of its dimension and the two percentages. -/
lemma shows_render (dimension : Dimension) (bands : ScoreBands) (template : String) :
    Shows tokens (dimension.field bands) template (dimension.render bands template) :=
  shows_fill_zip areNames_dimensionTokens (lookup_tokenValues dimension bands) template

lemma render_builtin (h : CleanFields (dimension.field bands)) :
    dimension.render bands builtinDimensionScore =
      filled (dimension.field bands) dimensionPieces :=
  shows_render dimension bands _ _ source_dimensionPieces isTemplate_dimensionPieces.separated
    fun name value _ => h name value

/-- A rendered block shows its dimension and leaves no delimiter. -/
lemma instantiates_render (h : CleanFields (dimension.field bands)) :
    Instantiates (dimension.field bands) builtinDimensionScore
        (dimension.render bands builtinDimensionScore) ∧
      Clean (dimension.render bands builtinDimensionScore) := by
  rw [render_builtin h, ← source_dimensionPieces]
  exact instantiates_filled isTemplate_dimensionPieces (fun _ => field_isSome) h

/-- The variables of a dimension stand in its block. -/
lemma occurs_render (h : CleanFields (dimension.field bands)) :
    Occurs dimension.scoreVariable (dimension.render bands builtinDimensionScore) ∧
      Occurs dimension.errorVariable (dimension.render bands builtinDimensionScore) := by
  have hs : .reference "VAR" ∈ dimensionPieces :=
    mem_linePieces (List.mem_of_getElem? (i := 10) rfl) rfl (by decide +kernel)
  have he : .reference "ERROR_VAR" ∈ dimensionPieces :=
    mem_linePieces (List.mem_of_getElem? (i := 16) rfl) rfl (by decide +kernel)
  rw [render_builtin h]
  exact ⟨occurs_of_reference hs rfl, occurs_of_reference he rfl⟩

end Dimension

namespace ErrorCard

variable {card : ErrorCard} {bands : CountBands} {name : String}

lemma field_isSome (h : name ∈ tokens) : (card.field bands name).isSome := by
  simp only [tokens, List.mem_cons, List.not_mem_nil, or_false] at h
  rcases h with rfl | rfl | rfl | rfl | rfl | rfl | rfl | rfl | rfl | rfl | rfl <;> rfl

lemma clean_fields (h : Clean card.countVariable ∧ Clean card.label ∧ Clean card.subtitleIt)
    (hl : ∀ severity, Clean (bands.labelIt severity)) : CleanFields (card.field bands) := by
  obtain ⟨hvariable, hlabel, hsubtitle⟩ := h
  intro name value hs
  unfold field at hs
  split at hs <;> cases hs
  · exact hlabel
  · exact hlabel
  · exact hsubtitle
  · exact hvariable
  · exact bands.critical.bound.clean_text
  · exact bands.high.bound.clean_text
  · exact bands.medium.bound.clean_text
  · exact hl .critical
  · exact hl .high
  · exact hl .medium
  · exact hl .low

/-- A rendered card shows the fields of its card, and the bounds and labels of the bands. -/
lemma shows_render (card : ErrorCard) (bands : CountBands) (template : String) :
    Shows tokens (card.field bands) template (card.render bands template) :=
  shows_fill_zip areNames_cardTokens (lookup_tokenValues card bands) template

lemma render_builtin (h : CleanFields (card.field bands)) :
    card.render bands builtinErrorCard = filled (card.field bands) cardPieces :=
  shows_render card bands _ _ source_cardPieces isTemplate_cardPieces.separated
    fun name value _ => h name value

/-- A rendered card shows its card and the bands, and leaves no delimiter. -/
lemma instantiates_render (h : CleanFields (card.field bands)) :
    Instantiates (card.field bands) builtinErrorCard (card.render bands builtinErrorCard) ∧
      Clean (card.render bands builtinErrorCard) := by
  rw [render_builtin h, ← source_cardPieces]
  exact instantiates_filled isTemplate_cardPieces (fun _ => field_isSome) h

set_option maxRecDepth 4000 in
lemma occurs_render (h : CleanFields (card.field bands)) :
    Occurs card.countVariable (card.render bands builtinErrorCard) := by
  have hc : .reference "ERROR_VAR" ∈ cardPieces :=
    mem_linePieces (List.mem_of_getElem? (i := 2) rfl) rfl (by decide +kernel)
  rw [render_builtin h]
  exact occurs_of_reference hc rfl

end ErrorCard

end QualityBands
