import Mathlib.Data.List.Basic
import Mathlib.Tactic.Lemma
import QualityBands.Proofs.Reading
import QualityBands.Rules.Validation
import QualityBands.Template.Rendering

/-!
The ladder of bounds by which a card finds the band of a count.

The card asks from the highest band on whether the count is greater than the bound of the band,
and takes the lowest band when it is greater than none. Where the bands decrease, the ladder
with the bounds that are printed finds the highest band that has begun.
-/

namespace QualityBands

/-! ### Climbing -/

namespace Ladder

/-- The band of the first bound that a count exceeds. -/
def select (n : Int) : List (Severity × Int) → Severity
  | [] => .low
  | (severity, bound) :: rest => if bound < n then severity else select n rest

/-- A ladder as a nested conditional on a variable of the report. -/
def text (count : String) : List (Severity × String) → String
  | [] => "'" ++ Severity.low.key ++ "'"
  | (severity, bound) :: rest =>
    count ++ " > " ++ bound ++ " ? '" ++ severity.key ++ "' : " ++ text count rest

end Ladder

/-- The bands of the ladder with the tokens of their bounds. -/
def ErrorCard.rungs : List (Severity × String) :=
  [(.critical, "THRESH_CRITICAL"), (.high, "THRESH_HIGH"), (.medium, "THRESH_MEDIUM")]

namespace CountBands

/-- The ladder with the bounds that a card shows. -/
def ladder (bands : CountBands) : List (Severity × Int) :=
  [(.critical, bands.critical.bound.val), (.high, bands.high.bound.val),
   (.medium, bands.medium.bound.val)]

/-- The band of a count: the highest one that begins at the count or before it, and the lowest
one if none does. -/
def Holds (bands : CountBands) (n : Int) (severity : Severity) : Prop :=
  match bands.floor? severity with
  | some floor => floor.minimum.val ≤ n ∧ ∀ other other',
      bands.floor? other = some other' → other'.minimum.val ≤ n →
      other'.minimum.val ≤ floor.minimum.val
  | none => ∀ other other', bands.floor? other = some other' → n < other'.minimum.val

variable {bands : CountBands}

lemma forall_floor {P : CountFloor → Prop} :
    (∀ severity floor, bands.floor? severity = some floor → P floor) ↔
      P bands.critical ∧ P bands.high ∧ P bands.medium := by
  constructor
  · intro h
    exact ⟨h .critical _ rfl, h .high _ rfl, h .medium _ rfl⟩
  · rintro ⟨hc, hh, hm⟩ severity floor h
    cases severity <;> cases h <;> assumption

lemma validate_eq_ok_iff :
    bands.validate = .ok () ↔ bands.high.minimum.val < bands.critical.minimum.val ∧
      bands.medium.minimum.val < bands.high.minimum.val ∧ 0 < bands.medium.minimum.val := by
  simp only [validate]
  split
  · next h => simpa using h
  · next h => simpa using h

/-- Where the bands decrease and stay positive, no bound is cut off. -/
lemma bound_val_of_validate (h : bands.validate = .ok ()) {severity : Severity}
    {floor : CountFloor} (hf : bands.floor? severity = some floor) :
    floor.bound.val = floor.minimum.val - 1 := by
  rw [validate_eq_ok_iff] at h
  have hpos : 0 < floor.minimum.val := by
    cases severity <;> cases hf <;> omega
  rw [CountFloor.bound, Count.val_previous]
  omega

lemma holds_low {n : Int} :
    bands.Holds n .low ↔
      n < bands.critical.minimum.val ∧ n < bands.high.minimum.val ∧
        n < bands.medium.minimum.val :=
  forall_floor (P := fun floor => n < floor.minimum.val)

lemma holds_of_floor {n : Int} {severity : Severity} {floor : CountFloor}
    (hf : bands.floor? severity = some floor) :
    bands.Holds n severity ↔ floor.minimum.val ≤ n ∧
      (bands.critical.minimum.val ≤ n → bands.critical.minimum.val ≤ floor.minimum.val) ∧
      (bands.high.minimum.val ≤ n → bands.high.minimum.val ≤ floor.minimum.val) ∧
      (bands.medium.minimum.val ≤ n → bands.medium.minimum.val ≤ floor.minimum.val) := by
  rw [Holds, hf]
  exact and_congr_right fun _ =>
    forall_floor (P := fun other => other.minimum.val ≤ n →
      other.minimum.val ≤ floor.minimum.val)

/-- Where the bands decrease and stay positive, the ladder finds the band of every count. -/
lemma select_ladder_iff (h : bands.validate = .ok ()) (n : Int) (severity : Severity) :
    Ladder.select n bands.ladder = severity ↔ bands.Holds n severity := by
  have hc := bound_val_of_validate h (show bands.floor? .critical = some _ from rfl)
  have hh := bound_val_of_validate h (show bands.floor? .high = some _ from rfl)
  have hm := bound_val_of_validate h (show bands.floor? .medium = some _ from rfl)
  rw [validate_eq_ok_iff] at h
  simp only [ladder, Ladder.select, hc, hh, hm]
  cases severity with
  | critical => rw [holds_of_floor rfl]; split_ifs <;> simp <;> omega
  | high => rw [holds_of_floor rfl]; split_ifs <;> simp <;> omega
  | medium => rw [holds_of_floor rfl]; split_ifs <;> simp <;> omega
  | low => rw [holds_low]; split_ifs <;> simp <;> omega

end CountBands

end QualityBands
