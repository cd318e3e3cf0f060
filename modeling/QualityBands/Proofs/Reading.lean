import Mathlib.Tactic.Lemma
import QualityBands.Rules.Reading

/-!
What a reading that succeeds consists of.

Each reader is opened once: it succeeds with a result exactly when every part of the result is
the one that the document gives at its place.
-/

namespace QualityBands

lemma bind_eq_ok_iff {ε α β : Type} {x : Except ε α} {f : α → Except ε β} {b : β} :
    x >>= f = .ok b ↔ ∃ a, x = .ok a ∧ f a = .ok b := by
  cases x with
  | error e => exact ⟨nofun, nofun⟩
  | ok a => exact ⟨fun h => ⟨a, rfl, h⟩, fun ⟨_, rfl, h⟩ => h⟩

lemma exists_ok_of_any {ε α : Type} {x : Except ε α} {p : α → Bool} (h : x.toOption.any p) :
    ∃ a, x = .ok a ∧ p a := by
  cases x with
  | error e => cases h
  | ok a => exact ⟨a, rfl, h⟩

/-! ### Floors -/

namespace CountBands

/-- The floor of a band; the lowest band has none. -/
def floor? (bands : CountBands) : Severity → Option CountFloor
  | .critical => some bands.critical
  | .high => some bands.high
  | .medium => some bands.medium
  | .low => none

variable {bands : CountBands} {severity : Severity} {floor : CountFloor}

lemma labelIt_of_floor (hf : bands.floor? severity = some floor) :
    bands.labelIt severity = floor.labelIt := by
  cases severity <;> cases hf <;> rfl

lemma eq_low_of_floor (hf : bands.floor? severity = none) : severity = .low := by
  cases severity <;> first | rfl | cases hf

end CountBands

/-! ### Places in a document -/

namespace Place

def scores (document : Tree) : Node := (Node.root document).child "dimension_scores"

def percentages (document : Tree) : Node := (scores document).child "thresholds"

def dimensions (document : Tree) : Node := (scores document).child "dimensions"

def errors (document : Tree) : Node := (Node.root document).child "error_distribution"

def counts (document : Tree) : Node := (errors document).child "thresholds"

/-- What a complete document writes for the bound of a severity. -/
def strictBound (document : Tree) (severity : Severity) : Node :=
  ((counts document).child severity.key).child "value"

end Place

namespace Reading

variable {document : Tree} {r : Reading} {thresholds : Node} {severity : Severity}
  {floor : CountFloor} {bands : CountBands}

/-! ### Bands -/

lemma strictFloor_eq_ok_iff :
    strictFloor thresholds severity = .ok floor ↔
      ∃ bound, ((thresholds.child severity.key).child "value").toCount = .ok bound ∧
        bound.next? = some floor.minimum ∧
        floor.labelIt = labelOr (thresholds.child severity.key) severity := by
  simp only [strictFloor, bind_eq_ok_iff]
  refine exists_congr fun bound => and_congr_right fun _ => ?_
  obtain ⟨minimum, label⟩ := floor
  cases bound.next? with
  | none => exact ⟨nofun, nofun⟩
  | some m =>
    constructor
    · intro h
      cases h
      exact ⟨rfl, rfl⟩
    · rintro ⟨h, rfl⟩
      cases h
      rfl

lemma inclusiveFloor_eq_ok_iff :
    inclusiveFloor thresholds severity = .ok floor ↔
      ((thresholds.child severity.key).child "min_count").toCount = .ok floor.minimum ∧
        floor.labelIt = labelOr (thresholds.child severity.key) severity := by
  obtain ⟨minimum, label⟩ := floor
  simp only [inclusiveFloor, bind_eq_ok_iff]
  constructor
  · rintro ⟨m, hm, h⟩
    cases h
    exact ⟨hm, rfl⟩
  · rintro ⟨hm, rfl⟩
    exact ⟨minimum, hm, rfl⟩

lemma counts_eq_ok_iff {read : Node → Severity → Except RulesError CountFloor}
    {ceiling : String} :
    counts thresholds read ceiling = .ok bands ↔
      read thresholds .critical = .ok bands.critical ∧ read thresholds .high = .ok bands.high ∧
        read thresholds .medium = .ok bands.medium ∧
        ((thresholds.child Severity.low.key).child ceiling).toCountOr Rules.defaultLowMaximum =
          .ok bands.low.maximum ∧
        bands.low.labelIt = labelOr (thresholds.child Severity.low.key) .low := by
  obtain ⟨critical, high, medium, ⟨maximum, label⟩⟩ := bands
  simp only [counts, bind_eq_ok_iff]
  constructor
  · rintro ⟨_, hc, _, hh, _, hm, _, hl, h⟩
    cases h
    exact ⟨hc, hh, hm, hl, rfl⟩
  · rintro ⟨hc, hh, hm, hl, rfl⟩
    exact ⟨_, hc, _, hh, _, hm, _, hl, rfl⟩

/-! ### Dialects -/

/-- A reading of a document in the complete dialect. -/
structure IsComplete (document : Tree) (r : Reading) : Prop where
  excellent : (((Place.percentages document).child "excellent").child "value").toNumber =
    .ok r.rules.scores.excellent
  acceptable : (((Place.percentages document).child "acceptable").child "value").toNumber =
    .ok r.rules.scores.acceptable
  counts : counts (Place.counts document) strictFloor "threshold_value" = .ok r.rules.counts
  dimensions : r.rules.dimensions = (sections (Place.dimensions document)).map fun (key, node) =>
    completeDimension key node
  cards : r.rules.cards = completeCards (Place.dimensions document)
  templates : r.rules.templates = .builtin
  dialect : r.dialect = .complete
  omitted : r.omitted = omittedCards (Place.dimensions document)

/-- A reading of a document in the legacy dialect. -/
structure IsLegacy (document : Tree) (r : Reading) : Prop where
  excellent : (((Place.percentages document).child "excellent").child "percentage").toNumber =
    .ok r.rules.scores.excellent
  acceptable :
    (((Place.percentages document).child "acceptable").child "min_percentage").toNumber =
      .ok r.rules.scores.acceptable
  counts : counts (Place.counts document) inclusiveFloor "max_count" = .ok r.rules.counts
  dimensions : r.rules.dimensions = (sections (Place.dimensions document)).map fun (key, node) =>
    legacyDimension key node
  cards : r.rules.cards = (sections ((Place.errors document).child "dimensions")).map
    fun (key, node) => legacyCard key node
  templates : r.rules.templates = .merged ((Node.root document).child "templates").value?
  dialect : r.dialect = .legacy
  omitted : r.omitted = []

lemma complete_eq_ok_iff : complete document = .ok r ↔ IsComplete document r := by
  simp only [complete, bind_eq_ok_iff]
  constructor
  · rintro ⟨_, he, _, ha, _, hc, h⟩
    cases h
    exact ⟨he, ha, hc, rfl, rfl, rfl, rfl, rfl⟩
  · obtain ⟨⟨⟨excellent, acceptable⟩, dimensions, counts, cards, templates⟩, dialect, omitted⟩ := r
    rintro ⟨he, ha, hc, rfl, rfl, rfl, rfl, rfl⟩
    exact ⟨_, he, _, ha, _, hc, rfl⟩

lemma legacy_eq_ok_iff : legacy document = .ok r ↔ IsLegacy document r := by
  simp only [legacy, bind_eq_ok_iff]
  constructor
  · rintro ⟨_, he, _, ha, _, hc, h⟩
    cases h
    exact ⟨he, ha, hc, rfl, rfl, rfl, rfl, rfl⟩
  · obtain ⟨⟨⟨excellent, acceptable⟩, dimensions, counts, cards, templates⟩, dialect, omitted⟩ := r
    rintro ⟨he, ha, hc, rfl, rfl, rfl, rfl, rfl⟩
    exact ⟨_, he, _, ha, _, hc, rfl⟩

/-- **A successful reading, opened.** -/
lemma read_eq_ok_iff :
    Rules.read document = .ok r ↔ document.isMapping ∧
      (Dialect.detect document = .complete ∧ IsComplete document r ∨
        Dialect.detect document = .legacy ∧ IsLegacy document r) := by
  unfold Rules.read
  split
  · next hm =>
    cases hd : Dialect.detect document with
    | complete => simp [hm, complete_eq_ok_iff]
    | legacy => simp [hm, legacy_eq_ok_iff]
  · next hm => simp [hm]

lemma IsComplete.strictFloor (h : IsComplete document r)
    (hf : r.rules.counts.floor? severity = some floor) :
    Reading.strictFloor (Place.counts document) severity = .ok floor := by
  obtain ⟨hc, hh, hm, -⟩ := counts_eq_ok_iff.mp h.counts
  cases severity <;> cases hf <;> assumption

lemma isComplete_of_read (h : Rules.read document = .ok r) (hd : r.dialect = .complete) :
    IsComplete document r := by
  rcases (read_eq_ok_iff.mp h).2 with ⟨-, hc⟩ | ⟨-, hl⟩
  · exact hc
  · rw [hl.dialect] at hd
    cases hd

end Reading

end QualityBands
