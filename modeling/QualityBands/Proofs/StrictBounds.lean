import Mathlib.Data.Rat.Floor
import QualityBands.Proofs.BuiltinTemplates
import QualityBands.Proofs.Ladder
import QualityBands.Proofs.Reading
import QualityBands.Proofs.WholeCounts

/-!
Strict bounds survive reading and printing.

A document gives the number above which a band begins. Reading takes its whole part and stores
the next count, and a card prints the count before the stored one. All three bounds say the
same about every count.
-/

namespace QualityBands

open Text Template

/-! ### Written numbers -/

/-- The exact value of a finite number. -/
def Binary64.value? : Binary64 → Option ℚ
  | .nan => none
  | .number negative code =>
    if code.val < top then
      some (if negative then -(units code / one : ℚ) else units code / one)
    else none

/-- The exact value of a number or of a text that denotes a whole number. -/
def Tree.quantity? : Tree → Option ℚ
  | .number (.integer n) => some n
  | .number (.float x) => x.value?
  | .text s => (Decimal.whole? (Text.trim s)).map (↑)
  | _ => none

lemma Binary64.floor_units (code : Nat) : ⌊(units code / one : ℚ)⌋ = (wholePart code : Int) :=
  Rat.floor_natCast_div_natCast _ _

/-- The number without its fraction is the floor where the number is not negative. -/
lemma Binary64.truncate_eq_floor {x : Binary64} {whole : Int} {v : ℚ}
    (ht : x.truncate? = some whole) (hv : x.value? = some v) (hpos : 0 ≤ v) : whole = ⌊v⌋ := by
  cases x with
  | nan => cases hv
  | number negative code =>
    simp only [truncate?, value?] at ht hv
    have hfloor := floor_units code
    split at ht
    · next hfinite =>
      rw [if_pos hfinite] at hv
      obtain rfl := Option.some.inj ht
      obtain rfl := Option.some.inj hv
      cases negative with
      | false => exact hfloor.symm
      | true =>
        simp only [if_true] at hpos ⊢
        have hzero : (units code / one : ℚ) = 0 :=
          le_antisymm (neg_nonneg.mp hpos) (div_nonneg (Nat.cast_nonneg _) (Nat.cast_nonneg _))
        rw [hzero, Int.floor_zero] at hfloor
        rw [hzero, ← hfloor]
        simp
    · cases ht

lemma Node.readCount_eq_floor {t : Tree} {count : Count} {v : ℚ}
    (hc : readCount? t = some count) (hv : t.quantity? = some v) (hpos : 0 ≤ v) :
    count.val = ⌊v⌋ := by
  cases t with
  | number number =>
    cases number with
    | integer n =>
      cases hv
      rw [Int.floor_intCast]
      rw [readCount?_integer] at hc
      exact Count.ofInt?_eq_some_iff.mp hc
    | float x => exact Binary64.truncate_eq_floor (wholeCount?_eq_some_iff.mp hc).1 hv hpos
  | text s =>
    rw [readCount?] at hc
    rw [Tree.quantity?] at hv
    obtain ⟨whole, hw, hc⟩ := Option.bind_eq_some_iff.mp hc
    rw [hw, Option.map_some, Option.some.injEq] at hv
    rw [← hv, Int.floor_intCast]
    exact Count.ofInt?_eq_some_iff.mp hc
  | _ => cases hc

/-! ### Printed bounds -/

/-- Whatever the card, `text` is what the token of this name stands for. -/
def ErrorCard.Shows (bands : CountBands) (name text : String) : Prop :=
  ∀ card : ErrorCard, (tokens.zip (card.tokenValues bands)).lookup name = some text ∧
    card.render bands (token name) = text

variable {bands : CountBands} {severity : Severity} {name : String} {floor : CountFloor}

lemma ErrorCard.field_of_rung (card : ErrorCard) (hm : (severity, name) ∈ rungs)
    (hf : bands.floor? severity = some floor) :
    card.field bands name = some floor.bound.text := by
  simp only [rungs, List.mem_cons, Prod.mk.injEq, List.not_mem_nil, or_false] at hm
  rcases hm with ⟨rfl, rfl⟩ | ⟨rfl, rfl⟩ | ⟨rfl, rfl⟩ <;> cases hf <;> rfl

lemma ErrorCard.shows_bound (hm : (severity, name) ∈ rungs)
    (hf : bands.floor? severity = some floor) : Shows bands name (toString floor.bound.val) := by
  intro card
  have hl : (tokens.zip (card.tokenValues bands)).lookup name = some floor.bound.text :=
    (congrFun (lookup_tokenValues card bands) name).trans (card.field_of_rung hm hf)
  refine ⟨hl, fill_token (fun r hr => ?_) hl (Count.clean_text _)⟩
  exact (areNames_cardTokens _ (List.of_mem_zip hr).1).1

lemma CountBands.exists_floor (hm : (severity, name) ∈ ErrorCard.rungs) :
    ∃ floor, bands.floor? severity = some floor := by
  simp only [ErrorCard.rungs, List.mem_cons, Prod.mk.injEq, List.not_mem_nil, or_false] at hm
  rcases hm with ⟨rfl, -⟩ | ⟨rfl, -⟩ | ⟨rfl, -⟩ <;> exact ⟨_, rfl⟩

variable {document : Tree} {r : Reading}

/-- The count that a document writes is the one that is printed, and the stored one is next. -/
lemma Reading.IsComplete.bound_val (h : IsComplete document r)
    (hf : r.rules.counts.floor? severity = some floor) :
    ∃ count, (Place.strictBound document severity).toCount = .ok count ∧
      floor.minimum.val = count.val + 1 ∧ floor.bound.val = count.val := by
  obtain ⟨count, hc, hn, -⟩ := strictFloor_eq_ok_iff.mp (h.strictFloor hf)
  have hm : floor.minimum.val = count.val + 1 := Count.ofInt?_eq_some_iff.mp hn
  have hl := count.lower
  refine ⟨count, hc, hm, ?_⟩
  rw [CountFloor.bound, Count.val_previous]
  omega

lemma Node.readCount_of_toCount {node : Node} {count : Count} (h : node.toCount = .ok count) :
    ∃ t, node.value? = some t ∧ readCount? t = some count := by
  unfold toCount at h
  split at h
  · next hb =>
    cases h
    exact Option.bind_eq_some_iff.mp hb
  · cases h

lemma CountBands.validate_of_rules {rules : Rules} (h : rules.validate = .ok ()) :
    rules.counts.validate = .ok () := by
  obtain ⟨_, -, hc⟩ := bind_eq_ok_iff.mp h
  exact hc

/-- The template climbs the ladder of the tokens, and a rendered card the one of the counts. -/
lemma occurs_ladder_builtin : Occurs (Ladder.text (token "ERROR_VAR")
    (ErrorCard.rungs.map fun (severity, name) => (severity, token name))) builtinErrorCard := by
  have ho := occurs_ladder (List.lookup · [])
  rw [← source_eq_filled, source_cardPieces] at ho
  exact ho

lemma ErrorCard.occurs_ladder_render {card : ErrorCard} (h : CleanFields (card.field bands)) :
    Occurs (Ladder.text card.countVariable
        (bands.ladder.map fun (severity, bound) => (severity, toString bound)))
      (card.render bands builtinErrorCard) := by
  have ho := occurs_ladder (card.field bands)
  rw [← render_builtin h] at ho
  exact ho

/-- **Strict bounds are printed as they are written.** A card shows for each band the count that
the document writes, and a count is above it exactly when it is above the written number and
exactly when the band has begun. Where rules are valid, the shown count is the one before the
band begins, and the ladder of the built-in card finds the highest band that has begun. -/
theorem printed_bounds_faithful (h : Rules.read document = .ok r) :
    (r.dialect = .complete → ∀ severity name, (severity, name) ∈ ErrorCard.rungs →
      ∃ count floor, (Place.strictBound document severity).toCount = .ok count ∧
        r.rules.counts.floor? severity = some floor ∧
        ErrorCard.Shows r.rules.counts name (toString count.val) ∧
        ∀ v, (Place.strictBound document severity).value?.bind Tree.quantity? = some v → 0 ≤ v →
          ∀ n : Int, (count.val < n ↔ v < n) ∧ (v < n ↔ floor.minimum.val ≤ n)) ∧
    (r.rules.validate = .ok () →
      (∀ severity name, (severity, name) ∈ ErrorCard.rungs →
        ∃ floor, r.rules.counts.floor? severity = some floor ∧
          floor.bound.val = floor.minimum.val - 1 ∧
          ErrorCard.Shows r.rules.counts name (toString floor.bound.val)) ∧
      Occurs (Ladder.text (token "ERROR_VAR")
        (ErrorCard.rungs.map fun (severity, name) => (severity, token name))) builtinErrorCard ∧
      (∀ card : ErrorCard, (∀ name value, card.field r.rules.counts name = some value →
          ¬ Occurs delimiter value) →
        Occurs (Ladder.text card.countVariable
            (r.rules.counts.ladder.map fun (severity, bound) => (severity, toString bound)))
          (card.render r.rules.counts builtinErrorCard)) ∧
      ∀ n severity, Ladder.select n r.rules.counts.ladder = severity ↔
        r.rules.counts.Holds n severity) := by
  refine ⟨fun hd severity name hm => ?_, fun hv => ⟨fun severity name hm => ?_,
    occurs_ladder_builtin, fun card hc => ErrorCard.occurs_ladder_render hc,
    CountBands.select_ladder_iff (CountBands.validate_of_rules hv)⟩⟩
  · obtain ⟨floor, hf⟩ : ∃ floor, r.rules.counts.floor? severity = some floor :=
      CountBands.exists_floor hm
    obtain ⟨count, hc, hmin, hb⟩ := (Reading.isComplete_of_read h hd).bound_val hf
    refine ⟨count, floor, hc, hf, hb ▸ ErrorCard.shows_bound hm hf, fun v hq hpos n => ?_⟩
    obtain ⟨t, ht, hr⟩ := Node.readCount_of_toCount hc
    rw [ht, Option.bind_some] at hq
    have hfloor := Node.readCount_eq_floor hr hq hpos
    rw [hmin, hfloor, Int.floor_lt, Int.add_one_le_iff, Int.floor_lt]
    exact ⟨Iff.rfl, Iff.rfl⟩
  · obtain ⟨floor, hf⟩ : ∃ floor, r.rules.counts.floor? severity = some floor :=
      CountBands.exists_floor hm
    exact ⟨floor, hf, CountBands.bound_val_of_validate (CountBands.validate_of_rules hv) hf,
      ErrorCard.shows_bound hm hf⟩

/-- A complete document with 5.5, the text of 3 and 1 as bounds. -/
def fractionDocument : Tree :=
  .mapping
    [(.text "global", .mapping []),
     (.text "dimension_scores", .mapping
       [(.text "enabled", .bool true),
        (.text "thresholds", .mapping
          [(.text "excellent", .mapping [(.text "value", .number (.integer 95))]),
           (.text "acceptable", .mapping [(.text "value", .number (.integer 80))])])]),
     (.text "error_distribution", .mapping
       [(.text "thresholds", .mapping
         [(.text "critical", .mapping
            [(.text "value", .number (.float (.ofWord 0x4016000000000000)))]),
          (.text "high", .mapping [(.text "value", .text " +3 ")]),
          (.text "medium", .mapping [(.text "value", .number (.integer 1))])])])]

theorem printed_bounds_faithful_fraction :
    ∃ r, Rules.read fractionDocument = .ok r ∧ r.dialect = .complete ∧
      r.rules.validate = .ok () ∧
      (Place.strictBound fractionDocument .critical).value?.bind Tree.quantity? = some (11 / 2) ∧
      ErrorCard.Shows r.rules.counts "THRESH_CRITICAL" "5" ∧
      (∀ n : Int, (11 / 2 : ℚ) < n ↔ 6 ≤ n) ∧
      ∀ n severity, Ladder.select n r.rules.counts.ladder = severity ↔
        r.rules.counts.Holds n severity := by
  have hq : (Place.strictBound fractionDocument .critical).value?.bind Tree.quantity? =
      some (11 / 2) := by decide +kernel
  have hcount : (Place.strictBound fractionDocument .critical).toCount =
      .ok ⟨5, by omega, by omega⟩ := by decide +kernel
  obtain ⟨r, h, hp⟩ := exists_ok_of_any (x := Rules.read fractionDocument)
    (p := fun r => r.dialect = .complete ∧ r.rules.validate = .ok () ∧
      r.rules.counts.critical.minimum.val = 6) (by decide +kernel)
  obtain ⟨hd, hv, hm⟩ := of_decide_eq_true hp
  obtain ⟨ha, hb⟩ := printed_bounds_faithful h
  obtain ⟨count, floor, hc, hf, hs, hn⟩ := ha hd .critical "THRESH_CRITICAL" (.head _)
  cases hf
  cases hc.symm.trans hcount
  exact ⟨r, h, hd, hv, hq, hs, fun n => hm ▸ (hn _ hq (by norm_num) n).2, (hb hv).2.2.2⟩

end QualityBands
