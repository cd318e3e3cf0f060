import QualityBands.Proofs.Rounding
import QualityBands.Tree.Node

/-!
Counts from floats.

The float that is nearest to the greatest count is the next power of two. A float below it in
magnitude has a whole part in range, and a whole number out of range is nearest to no such
float. So a number gives a count without its fraction, or none, and nothing in between.
-/

namespace QualityBands

namespace Binary64

/-! ### The bound -/

/-- The code of two to the power 63. -/
def countBound : Nat := 1086 * stride

lemma units_countBound : units countBound = 9223372036854775808 * one := by decide +kernel

lemma countBound_lt_top : countBound < top := by decide +kernel

/-- The greatest count has no float of its own and is rounded up. -/
lemma ofInt_greatest : ofInt Count.greatest.val =
    number false ⟨countBound, countBound_lt_top.trans (Nat.lt_succ_self _)⟩ := by
  decide +kernel

lemma less_greatest_iff (negative : Bool) (code : Fin (top + 1)) :
    (number negative code).magnitude.less (ofInt Count.greatest.val) ↔
      code.val < countBound := by
  rw [ofInt_greatest]
  simp [magnitude, less, rank]

lemma one_pos : 0 < one := by decide +kernel

lemma wholePart_lt_iff {code : Nat} :
    wholePart code < 9223372036854775808 ↔ code < countBound := by
  rw [wholePart, Nat.div_lt_iff_lt_mul one_pos, ← units_countBound,
    units_strictMono.lt_iff_lt]

/-! ### Rounding keeps to the bound -/

/-- A size that reaches a magnitude is rounded to this one or a greater one. -/
lemma le_nearestCode {num den code : Nat} (hd : 0 < den) (hc : code ≤ top)
    (h : units code * den ≤ num) : code ≤ nearestCode num den := by
  obtain ⟨found, heq, hfound⟩ := nearestCode_eq_min num hd
  have hd' : (0 : ℚ) < den := Nat.cast_pos.mpr hd
  have hsize : (units code : ℚ) ≤ num / den := by
    rw [le_div_iff₀ hd']
    exact_mod_cast h
  have hle : code ≤ found := by
    by_contra hlt
    have hsmall := hfound.lt_units (Nat.lt_of_not_le hlt)
    linarith
  rw [heq]
  exact le_min hc hle

lemma countBound_le_ofInt {n : Int} (h : 9223372036854775808 ≤ n.natAbs) :
    countBound ≤ nearestCode (n.natAbs * one) 1 := by
  refine le_nearestCode Nat.one_pos countBound_lt_top.le ?_
  rw [units_countBound, Nat.mul_one]
  exact Nat.mul_le_mul_right one h

end Binary64

namespace Node

open Binary64

variable {x : Binary64} {count : Count} {n : Int}

/-- The whole part of a finite number, with its sign. -/
def signedPart (negative : Bool) (code : Nat) : Int :=
  if negative then -(wholePart code : Int) else wholePart code

lemma natAbs_signedPart (negative : Bool) (code : Nat) :
    (signedPart negative code).natAbs = wholePart code := by
  unfold signedPart
  split <;> omega

lemma wholeCount?_of_lt {negative : Bool} {code : Fin (top + 1)} (h : code.val < countBound) :
    wholeCount? (.number negative code) = some (Count.clamp (signedPart negative code)) := by
  have hfinite : (number negative code).isFinite := decide_eq_true (h.trans countBound_lt_top)
  have hless := (less_greatest_iff negative code).mpr h
  have ht : (number negative code).truncate? = some (signedPart negative code) :=
    if_pos (h.trans countBound_lt_top)
  rw [wholeCount?, hfinite, hless, ht]
  rfl

lemma wholeCount?_of_ge {negative : Bool} {code : Fin (top + 1)} (h : countBound ≤ code.val) :
    wholeCount? (.number negative code) = none := by
  have hless := mt (less_greatest_iff negative code).mp (Nat.not_lt.mpr h)
  rw [wholeCount?, Bool.eq_false_iff.mpr hless, Bool.and_false]
  rfl

/-- A float gives its whole part, which is never moved into range. -/
lemma wholeCount?_eq_some_iff : wholeCount? x = some count ↔
    x.truncate? = some count.val ∧ count.val.natAbs < 9223372036854775808 := by
  cases x with
  | nan => simp [wholeCount?, Binary64.isFinite, truncate?]
  | number negative code =>
    have habs := natAbs_signedPart negative code
    have hbound : wholePart code < 9223372036854775808 ↔ code.val < countBound :=
      wholePart_lt_iff
    by_cases h : code.val < countBound
    · have hlt := hbound.mpr h
      have ht : (number negative code).truncate? = some (signedPart negative code) :=
        if_pos (h.trans countBound_lt_top)
      rw [wholeCount?_of_lt h, ht, Option.some.injEq, Option.some.injEq, Count.ext_iff,
        Count.val_clamp (by omega) (by omega)]
      constructor
      · intro hval
        exact ⟨hval, by omega⟩
      · exact And.left
    · rw [wholeCount?_of_ge (Nat.not_lt.mp h)]
      simp only [reduceCtorEq, false_iff]
      rintro ⟨ht, hlt⟩
      simp only [truncate?] at ht
      split at ht
      · have hval : signedPart negative code = count.val := Option.some.inj ht
        omega
      · cases ht

/-- A whole number out of range is not brought back into range by its float. -/
lemma wholeCount?_ofInt (h : 9223372036854775808 ≤ n.natAbs) : wholeCount? (ofInt n) = none :=
  wholeCount?_of_ge (countBound_le_ofInt h)

/-- **A whole number is read as it is or not at all.** -/
theorem readCount?_integer (n : Int) :
    readCount? (.number (.integer n)) = Count.ofInt? n := by
  simp only [readCount?]
  cases h : Count.ofInt? n with
  | some count => rfl
  | none =>
    rcases Count.ofInt?_eq_none_iff.mp h with hl | hu
    · exact wholeCount?_ofInt (by omega)
    · exact wholeCount?_ofInt (by omega)

end Node

end QualityBands
