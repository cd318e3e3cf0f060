import QualityBands.Proofs.Colours
import QualityBands.Proofs.StrictBounds

/-!
Rules are valid exactly when no band is out of reach.

A block asks whether a score is at least the one percentage and then the other, and a card
climbs the ladder of its three bounds. A band is out of reach when no score or no count ends
there. The check of the rules compares the stored numbers only, yet it refuses exactly the rules
with such a band.
-/

namespace QualityBands

open Text Template

/-! ### Colours of scores -/

namespace ScoreBands

variable {bands : ScoreBands}

/-- Some score is green and some is amber. -/
def Reachable (bands : ScoreBands) : Prop :=
  (∃ score, bands.colour score = .green) ∧ ∃ score, bands.colour score = .amber

/-- The percentages themselves are the scores to try. -/
lemma reachable_iff : bands.Reachable ↔ bands.acceptable.less bands.excellent := by
  simp only [Reachable, colour_eq_green_iff, colour_eq_amber_iff, Binary64.atLeast_iff,
    Binary64.less_iff]
  constructor
  · rintro ⟨⟨_, _, e, -, he, -⟩, ⟨score, hne, s, a, hs, ha, has⟩⟩
    refine ⟨a, e, ha, he, ?_⟩
    by_contra hle
    exact hne ⟨s, e, hs, he, by omega⟩
  · rintro ⟨a, e, ha, he, hlt⟩
    refine ⟨⟨bands.excellent, e, e, he, he, le_refl e⟩, bands.acceptable, ?_,
      a, a, ha, ha, le_refl a⟩
    rintro ⟨a', e', ha', he', hle⟩
    rw [ha, Option.some.injEq] at ha'
    rw [he, Option.some.injEq] at he'
    omega

end ScoreBands

/-! ### Bands of counts -/

namespace CountBands

variable {bands : CountBands} {n : Int}

/-- Every band holds some count that is not negative. -/
def Reachable (bands : CountBands) : Prop :=
  ∀ severity, ∃ n : Int, 0 ≤ n ∧ Ladder.select n bands.ladder = severity

lemma select_ladder (bands : CountBands) (n : Int) : Ladder.select n bands.ladder =
    if bands.critical.bound.val < n then .critical
    else if bands.high.bound.val < n then .high
    else if bands.medium.bound.val < n then .medium
    else .low := rfl

/-- Where every band holds a count, no bound can have been cut off: the lowest band would hold
none. -/
lemma validate_of_reachable (h : bands.Reachable) : bands.validate = .ok () := by
  obtain ⟨l, hl0, hl⟩ := h .low
  obtain ⟨m, hm0, hm⟩ := h .medium
  obtain ⟨k, hk0, hk⟩ := h .high
  rw [select_ladder] at hl hm hk
  have hlow : l ≤ bands.critical.bound.val ∧ l ≤ bands.high.bound.val ∧
      l ≤ bands.medium.bound.val := by
    split_ifs at hl
    omega
  have hmedium : m ≤ bands.high.bound.val ∧ bands.medium.bound.val < m := by
    split_ifs at hm
    omega
  have hhigh : k ≤ bands.critical.bound.val ∧ bands.high.bound.val < k := by
    split_ifs at hk
    omega
  have hbound (floor : CountFloor) :
      floor.bound.val = max (-9223372036854775808) (floor.minimum.val - 1) :=
    floor.minimum.val_previous
  rw [validate_eq_ok_iff]
  rw [hbound, hbound, hbound] at hlow
  rw [hbound, hbound] at hmedium hhigh
  omega

/-- The first counts of the bands are the counts to try. -/
lemma reachable_of_validate (h : bands.validate = .ok ()) : bands.Reachable := by
  have hc := bound_val_of_validate h (show bands.floor? .critical = some _ from rfl)
  have hh := bound_val_of_validate h (show bands.floor? .high = some _ from rfl)
  have hm := bound_val_of_validate h (show bands.floor? .medium = some _ from rfl)
  obtain ⟨hhc, hmh, hpos⟩ := validate_eq_ok_iff.mp h
  intro severity
  cases severity with
  | critical =>
    refine ⟨bands.critical.minimum.val, by omega, ?_⟩
    rw [select_ladder, if_pos (by omega)]
  | high =>
    refine ⟨bands.high.minimum.val, by omega, ?_⟩
    rw [select_ladder, if_neg (by omega), if_pos (by omega)]
  | medium =>
    refine ⟨bands.medium.minimum.val, by omega, ?_⟩
    rw [select_ladder, if_neg (by omega), if_neg (by omega), if_pos (by omega)]
  | low =>
    refine ⟨0, le_refl 0, ?_⟩
    rw [select_ladder, if_neg (by omega), if_neg (by omega), if_neg (by omega)]

lemma mem_ladder {severity : Severity} {floor : CountFloor}
    (hf : bands.floor? severity = some floor) :
    (severity, floor.bound.val) ∈ bands.ladder := by
  cases severity <;> cases hf <;> simp [ladder]

end CountBands

/-! ### Valid rules -/

/-- The comparisons by which bands are reached are those that the built-in templates state, and
the bounds in them are the printed ones. -/
structure Rules.Stated (rules : Rules) : Prop where
  blocks : ∀ rule ∈ ColourRule.all,
    Occurs (rule.text (token "VAR") (token "THRESH_EXCELLENT") (token "THRESH_ACCEPTABLE"))
        builtinDimensionScore ∧
      ∀ dimension : Dimension, CleanFields (dimension.field rules.scores) →
        Occurs (rule.text dimension.scoreVariable (percentage rules.scores.excellent)
            (percentage rules.scores.acceptable))
          (dimension.render rules.scores builtinDimensionScore)
  cards : Occurs (Ladder.text (token "ERROR_VAR")
        (ErrorCard.rungs.map fun (severity, name) => (severity, token name))) builtinErrorCard ∧
      ∀ card : ErrorCard, CleanFields (card.field rules.counts) →
        Occurs (Ladder.text card.countVariable
            (rules.counts.ladder.map fun (severity, bound) => (severity, toString bound)))
          (card.render rules.counts builtinErrorCard)
  bounds : ∀ severity name, (severity, name) ∈ ErrorCard.rungs →
    ∃ bound, (severity, bound) ∈ rules.counts.ladder ∧
      ErrorCard.Shows rules.counts name (toString bound)

namespace Rules

variable {rules : Rules}

lemma stated (rules : Rules) : rules.Stated where
  blocks _ hr := ⟨occurs_rule_builtin hr, fun _ hc => Dimension.occurs_rule_render hr hc⟩
  cards := ⟨occurs_ladder_builtin, fun _ hc => ErrorCard.occurs_ladder_render hc⟩
  bounds _ _ hm := by
    obtain ⟨floor, hf⟩ := CountBands.exists_floor hm
    exact ⟨_, CountBands.mem_ladder hf, ErrorCard.shows_bound hm hf⟩

lemma validate_of_scores (h : rules.scores.Reachable) :
    rules.validate = rules.counts.validate := by
  have hs : rules.scores.validate = .ok () := if_pos (ScoreBands.reachable_iff.mp h)
  unfold validate
  rw [hs]
  rfl

lemma validate_of_not_scores (h : ¬ rules.scores.Reachable) :
    rules.validate = .error (.scores rules.scores.excellent rules.scores.acceptable) := by
  have hs : rules.scores.validate =
      .error (.scores rules.scores.excellent rules.scores.acceptable) :=
    if_neg (mt ScoreBands.reachable_iff.mpr h)
  unfold validate
  rw [hs]
  rfl

lemma validate_of_not_counts (h : rules.scores.Reachable) (hc : ¬ rules.counts.Reachable) :
    rules.validate = .error (.counts rules.counts.critical.minimum rules.counts.high.minimum
      rules.counts.medium.minimum) := by
  have hv : rules.counts.validate ≠ .ok () := mt CountBands.reachable_of_validate hc
  rw [Ne, CountBands.validate_eq_ok_iff] at hv
  rw [validate_of_scores h]
  exact if_neg hv

end Rules

/-- **Rules are valid exactly when no band is out of reach.** Else the error gives the numbers
that leave a band out: the percentages if they do, and the counts if only they do. -/
theorem validate_iff_reachable (rules : Rules) :
    (rules.validate = .ok () ↔ rules.scores.Reachable ∧ rules.counts.Reachable) ∧
      (rules.validate = .error (.scores rules.scores.excellent rules.scores.acceptable) ↔
        ¬ rules.scores.Reachable) ∧
      (rules.validate = .error (.counts rules.counts.critical.minimum
          rules.counts.high.minimum rules.counts.medium.minimum) ↔
        rules.scores.Reachable ∧ ¬ rules.counts.Reachable) ∧
      rules.Stated := by
  by_cases hs : rules.scores.Reachable
  · by_cases hc : rules.counts.Reachable
    · have hv : rules.validate = .ok () := by
        rw [Rules.validate_of_scores hs, CountBands.validate_of_reachable hc]
      simp [hv, hs, hc, rules.stated]
    · have hv := Rules.validate_of_not_counts hs hc
      simp [hv, hs, hc, rules.stated]
  · have hv := Rules.validate_of_not_scores hs
    simp [hv, hs, rules.stated]

end QualityBands
