import Mathlib.Algebra.Order.Field.Basic
import Mathlib.Algebra.Order.Field.Rat
import Mathlib.Order.Monotone.Basic
import Mathlib.Tactic.Linarith
import Mathlib.Tactic.NormNum
import Mathlib.Tactic.Ring
import QualityBands.Proofs.Choices

/-!
Rounding to the nearest magnitude.

The sizes of magnitudes increase with their codes. Every size lies in an interval between two
midpoints, at one magnitude only, and rounding finds this magnitude. A number other than NaN is
told by its word of 64 bits.
-/

namespace QualityBands.Binary64

/-! ### The ladder of sizes -/

lemma stride_even : stride % 2 = 0 := by decide +kernel

lemma units_of_lt {code : Nat} (h : code < 2 * stride) : units code = code := if_pos h

lemma units_of_ge {code : Nat} (h : stride ≤ code) :
    units code = (stride + code % stride) * 2 ^ (code / stride - 1) := by
  unfold units
  split
  · next hlt =>
    have hdiv : code / stride = 1 := Nat.div_eq_of_lt_le (by omega) (by omega)
    have hmod := Nat.mod_add_div code stride
    rw [hdiv, Nat.mul_one] at hmod
    rw [hdiv, Nat.sub_self, Nat.pow_zero, Nat.mul_one, Nat.add_comm, hmod]
  · rfl

/-- Codes count the wholes of one binade, and below the first binade they count the units. -/
lemma units_scaled {shift whole : Nat} (hu : whole ≤ 2 * stride)
    (hl : shift = 0 ∨ stride ≤ whole) : units (shift * stride + whole) = whole * 2 ^ shift := by
  have hpos := stride_pos
  rcases hu.lt_or_eq with hlt | rfl
  · by_cases hw : stride ≤ whole
    · obtain ⟨rest, rfl⟩ := Nat.exists_eq_add_of_le hw
      have hcode : shift * stride + (stride + rest) = rest + (shift + 1) * stride := by
        rw [Nat.add_mul]
        omega
      rw [units_of_ge (by omega), hcode, Nat.add_mul_mod_self_right,
        Nat.mod_eq_of_lt (by omega), Nat.add_mul_div_right _ _ hpos,
        Nat.div_eq_of_lt (by omega), Nat.zero_add, Nat.add_sub_cancel]
    · obtain rfl := hl.resolve_right hw
      rw [Nat.zero_mul, Nat.zero_add, units_of_lt hlt, Nat.pow_zero, Nat.mul_one]
  · have hcode : shift * stride + 2 * stride = 0 + (shift + 2) * stride := by
      rw [Nat.add_mul, Nat.zero_add]
    rw [units_of_ge (by omega), hcode, Nat.add_mul_mod_self_right, Nat.zero_mod,
      Nat.add_mul_div_right _ _ hpos, Nat.zero_div, Nat.add_zero, Nat.zero_add,
      Nat.add_sub_assoc (by decide), Nat.pow_succ]
    ring

/-- Each code is a whole of one binade. -/
lemma exists_scaled (code : Nat) : ∃ shift whole, code = shift * stride + whole ∧
    whole < 2 * stride ∧ (shift = 0 ∨ stride ≤ whole) := by
  have hpos := stride_pos
  by_cases h : code < 2 * stride
  · exact ⟨0, code, by omega, h, .inl rfl⟩
  · refine ⟨code / stride - 1, stride + code % stride, ?_, ?_, .inr (Nat.le_add_right _ _)⟩
    · have hdiv : 1 ≤ code / stride := (Nat.one_le_div_iff hpos).mpr (by omega)
      have hmod := Nat.div_add_mod' code stride
      obtain ⟨shift, hshift⟩ := Nat.exists_eq_add_of_le' hdiv
      rw [hshift, Nat.add_mul] at hmod
      rw [hshift, Nat.add_sub_cancel]
      omega
    · have hmod := Nat.mod_lt code hpos
      omega

lemma units_strictMono : StrictMono units := by
  refine strictMono_nat_of_lt_succ fun code => ?_
  obtain ⟨shift, whole, rfl, hu, hl⟩ := exists_scaled code
  rw [Nat.add_assoc, units_scaled hu.le hl,
    units_scaled hu (hl.imp_right fun h => h.trans (Nat.le_succ whole))]
  exact Nat.mul_lt_mul_of_pos_right (Nat.lt_succ_self whole) (Nat.two_pow_pos shift)

section
variable {code other : Nat}

lemma units_le_units (h : code ≤ other) : (units code : ℚ) ≤ units other :=
  Nat.cast_le.mpr (units_strictMono.monotone h)

lemma units_lt_units (h : code < other) : (units code : ℚ) < units other :=
  Nat.cast_lt.mpr (units_strictMono h)

end

/-! ### Midpoints -/

/-- A size in units lies between the midpoints to both neighbours of a magnitude, and on one of
them only if the code is even. -/
structure Rounds (code : Nat) (size : ℚ) : Prop where
  above : (units (code - 1) + units code : ℚ) ≤ 2 * size
  below : 2 * size ≤ units code + units (code + 1)
  inside : code % 2 = 1 → (units (code - 1) + units code : ℚ) < 2 * size ∧
    2 * size < units code + units (code + 1)

variable {code other : Nat} {size : ℚ}

lemma rounds_units (code : Nat) : Rounds code (units code) := by
  have hpred : (units (code - 1) : ℚ) ≤ units code := units_le_units (Nat.sub_le code 1)
  have hsucc : (units code : ℚ) < units (code + 1) := units_lt_units (Nat.lt_succ_self code)
  refine ⟨by linarith, by linarith, fun hodd => ⟨?_, by linarith⟩⟩
  have hlt : (units (code - 1) : ℚ) < units code := units_lt_units (by omega)
  linarith

/-- Two intervals meet in a midpoint at most, and it belongs to the even code of both. -/
lemma Rounds.not_lt (h : Rounds code size) (ho : Rounds other size) : ¬ code < other := by
  intro hlt
  have hpred : (units code : ℚ) ≤ units (other - 1) := units_le_units (Nat.le_sub_one_of_lt hlt)
  have hsucc : (units (code + 1) : ℚ) ≤ units other := units_le_units hlt
  have hbelow := h.below
  have habove := ho.above
  have heq : units code = units (other - 1) := Nat.cast_injective (R := ℚ) (by linarith)
  have hcode := units_strictMono.injective heq
  rcases Nat.mod_two_eq_zero_or_one code with heven | hodd
  · have hinside := (ho.inside (by omega)).1
    linarith
  · have hinside := (h.inside hodd).2
    linarith

lemma Rounds.unique (h : Rounds code size) (ho : Rounds other size) : code = other :=
  Nat.le_antisymm (Nat.not_lt.mp (ho.not_lt h)) (Nat.not_lt.mp (h.not_lt ho))

/-- The interval of a magnitude lies below all greater magnitudes. -/
lemma Rounds.lt_units (h : Rounds code size) (hlt : code < other) : size < units other := by
  have hbelow := h.below
  have hcode : (units code : ℚ) < units other := units_lt_units hlt
  have hsucc : (units (code + 1) : ℚ) ≤ units other := units_le_units hlt
  linarith

/-- The interval of a magnitude lies above all smaller magnitudes. -/
lemma Rounds.units_lt (h : Rounds code size) (hlt : other < code) : units other < size := by
  have habove := h.above
  have hcode : (units other : ℚ) < units code := units_lt_units hlt
  have hpred : (units other : ℚ) ≤ units (code - 1) := units_le_units (Nat.le_sub_one_of_lt hlt)
  linarith

/-- The interval of a magnitude other than zero begins at half a unit. -/
lemma Rounds.one_le (h : Rounds code size) (hc : 0 < code) : 1 ≤ 2 * size := by
  have habove := h.above
  have hpred : (0 : ℚ) ≤ units (code - 1) := Nat.cast_nonneg _
  have hcode : (1 : ℚ) ≤ units code := Nat.one_le_cast.mpr (units_strictMono hc)
  linarith

/-! ### The nearest whole number -/

/-- A number differs from a whole one by half at most, and by less if the whole one is odd. -/
structure Near (whole : Nat) (y : ℚ) : Prop where
  above : 2 * (whole : ℚ) - 1 ≤ 2 * y
  below : 2 * y ≤ 2 * whole + 1
  inside : whole % 2 = 1 → 2 * (whole : ℚ) - 1 < 2 * y ∧ 2 * y < 2 * whole + 1

lemma near_nearestWhole {num den : Nat} (hd : 0 < den) :
    Near (nearestWhole num den) (num / den) := by
  have hd' : (0 : ℚ) < den := Nat.cast_pos.mpr hd
  have hparts : (num / den : ℚ) = (num / den : Nat) + (num % den : Nat) / den := by
    have hnum : (num : ℚ) = den * (num / den : Nat) + (num % den : Nat) := by
      rw [← Nat.cast_mul, ← Nat.cast_add, Nat.div_add_mod]
    rw [hnum, add_div, mul_div_cancel_left₀ _ hd'.ne']
  have hpos : (0 : ℚ) ≤ (num % den : Nat) / den :=
    div_nonneg (Nat.cast_nonneg _) (Nat.cast_nonneg _)
  have hlt : ((num % den : Nat) : ℚ) / den < 1 :=
    (div_lt_one hd').mpr (Nat.cast_lt.mpr (Nat.mod_lt num hd))
  have hhalf : 2 * ((num % den : Nat) / den : ℚ) = ((2 * (num % den) : Nat) : ℚ) / den := by
    rw [Nat.cast_mul, Nat.cast_ofNat, mul_div_assoc]
  have hsucc : ((num / den + 1 : Nat) : ℚ) = (num / den : Nat) + 1 := Nat.cast_succ _
  rw [hparts]
  simp only [nearestWhole]
  split
  · next h =>
    have hfrac : ((2 * (num % den) : Nat) : ℚ) / den < 1 :=
      (div_lt_one hd').mpr (Nat.cast_lt.mpr h)
    exact ⟨by linarith, by linarith, fun _ => ⟨by linarith, by linarith⟩⟩
  · split
    · next h =>
      have hfrac : 1 < ((2 * (num % den) : Nat) : ℚ) / den :=
        (one_lt_div hd').mpr (Nat.cast_lt.mpr h)
      exact ⟨by linarith, by linarith, fun _ => ⟨by linarith, by linarith⟩⟩
    · next hge hle =>
      -- halfway between two whole numbers the even one is taken
      have hfrac : ((2 * (num % den) : Nat) : ℚ) / den = 1 := by
        rw [show 2 * (num % den) = den by omega, div_self hd'.ne']
      rcases Nat.mod_two_eq_zero_or_one (num / den) with heven | hodd
      · rw [heven, Nat.add_zero]
        exact ⟨by linarith, by linarith, fun h => by omega⟩
      · rw [hodd]
        exact ⟨by linarith, by linarith, fun h => by omega⟩

section
variable {whole n : Nat} {y : ℚ}

lemma Near.le (h : Near whole y) (hy : y ≤ n) : whole ≤ n := by
  have habove := h.above
  have hlt : (whole : ℚ) < (n + 1 : Nat) := by
    push_cast
    linarith
  exact Nat.lt_succ_iff.mp (Nat.cast_lt.mp hlt)

lemma Near.ge (h : Near whole y) (hy : n ≤ y) : n ≤ whole := by
  have hbelow := h.below
  have hlt : (n : ℚ) < (whole + 1 : Nat) := by
    push_cast
    linarith
  exact Nat.lt_succ_iff.mp (Nat.cast_lt.mp hlt)

end

/-! ### The nearest magnitude -/

section
variable {shift whole num den : Nat} {y : ℚ}

/-- The neighbour below is in the same binade, or the number is not below an even whole one. -/
lemma units_pred_or (hu : whole ≤ 2 * stride)
    (hl : shift = 0 ∧ 0 ≤ y ∨ stride ≤ whole ∧ stride ≤ y) :
    (whole % 2 = 0 ∧ (whole : ℚ) ≤ y) ∨
      (units (shift * stride + whole - 1) : ℚ) = (whole - 1) * 2 ^ shift := by
  have hscaled : ∀ below, whole = below + 1 → (shift = 0 ∨ stride ≤ below) →
      (units (shift * stride + whole - 1) : ℚ) = (whole - 1) * 2 ^ shift := by
    rintro below rfl hb
    rw [← Nat.add_assoc, Nat.add_sub_cancel, units_scaled (by omega) hb]
    push_cast
    ring
  rcases hl with ⟨rfl, hy⟩ | ⟨hw, hy⟩
  · cases whole with
    | zero => exact .inl ⟨rfl, by rwa [Nat.cast_zero]⟩
    | succ below => exact .inr (hscaled below rfl (.inl rfl))
  · rcases hw.eq_or_lt with rfl | hlt
    · exact .inl ⟨stride_even, hy⟩
    · exact .inr (hscaled (whole - 1) (by omega) (.inr (by omega)))

/-- The neighbour above is in the same binade, or the number is not above an even whole one. -/
lemma units_succ_or (hu : whole ≤ 2 * stride) (hl : shift = 0 ∨ stride ≤ whole)
    (hy : y ≤ (2 * stride : Nat)) :
    (whole % 2 = 0 ∧ y ≤ whole) ∨
      (units (shift * stride + whole + 1) : ℚ) = (whole + 1) * 2 ^ shift := by
  rcases hu.eq_or_lt with rfl | hlt
  · exact .inl ⟨Nat.mul_mod_right 2 stride, hy⟩
  · refine .inr ?_
    rw [Nat.add_assoc, units_scaled hlt (hl.imp_right fun h => h.trans (Nat.le_succ _))]
    push_cast
    ring

/-- Rounding within a binade is rounding to a whole number. -/
lemma Near.rounds (h : Near whole y) (hu : y ≤ (2 * stride : Nat))
    (hl : shift = 0 ∧ 0 ≤ y ∨ stride ≤ y) : Rounds (shift * stride + whole) (y * 2 ^ shift) := by
  have hp : (0 : ℚ) < 2 ^ shift := by positivity
  have hwhole : whole ≤ 2 * stride := h.le hu
  have hboth : shift = 0 ∧ 0 ≤ y ∨ stride ≤ whole ∧ (stride : ℚ) ≤ y :=
    hl.imp_right fun hy => ⟨h.ge hy, hy⟩
  have hbinade : shift = 0 ∨ stride ≤ whole := hboth.imp And.left And.left
  have hcode : (units (shift * stride + whole) : ℚ) = whole * 2 ^ shift := by
    rw [units_scaled hwhole hbinade]
    push_cast
    rfl
  have hparity : (shift * stride + whole) % 2 = whole % 2 := by
    rw [Nat.add_mod, Nat.mul_mod, stride_even, Nat.mul_zero, Nat.zero_mod, Nat.zero_add,
      Nat.mod_mod]
  have hpred : (units (shift * stride + whole - 1) : ℚ) ≤ units (shift * stride + whole) :=
    units_le_units (Nat.sub_le _ 1)
  have hsucc : (units (shift * stride + whole) : ℚ) ≤ units (shift * stride + whole + 1) :=
    units_le_units (Nat.le_succ _)
  refine ⟨?_, ?_, fun hodd => ⟨?_, ?_⟩⟩
  · rcases units_pred_or hwhole hboth with ⟨-, hle⟩ | heq
    · have hmul := mul_le_mul_of_nonneg_right hle hp.le
      linarith
    · have hmul := mul_le_mul_of_nonneg_right h.above hp.le
      linarith
  · rcases units_succ_or hwhole hbinade hu with ⟨-, hle⟩ | heq
    · have hmul := mul_le_mul_of_nonneg_right hle hp.le
      linarith
    · have hmul := mul_le_mul_of_nonneg_right h.below hp.le
      linarith
  · rcases units_pred_or hwhole hboth with ⟨heven, -⟩ | heq
    · omega
    · have hmul := mul_lt_mul_of_pos_right (h.inside (hparity ▸ hodd)).1 hp
      linarith
  · rcases units_succ_or hwhole hbinade hu with ⟨heven, -⟩ | heq
    · omega
    · have hmul := mul_lt_mul_of_pos_right (h.inside (hparity ▸ hodd)).2 hp
      linarith

/-- The binade that is looked for first: scaled down to it, a size has 53 bits at most, and not
less except below the first binade. -/
lemma binade_bounds (num : Nat) (hd : 0 < den) (hs : shift = Nat.log2 (num / den) - 52) :
    num ≤ 2 * stride * (den * 2 ^ shift) ∧ (shift = 0 ∨ stride * (den * 2 ^ shift) ≤ num) := by
  have hstride : stride * 2 ^ shift = 2 ^ (52 + shift) := (Nat.pow_add 2 52 shift).symm
  constructor
  · have hlog : num / den < 2 ^ (52 + shift + 1) :=
      Nat.lt_of_lt_of_le Nat.lt_log2_self (Nat.pow_le_pow_right Nat.two_pos (by omega))
    rw [Nat.pow_succ, ← hstride] at hlog
    calc num ≤ stride * 2 ^ shift * 2 * den := ((Nat.div_lt_iff_lt_mul hd).mp hlog).le
      _ = 2 * stride * (den * 2 ^ shift) := by ring
  · rcases Nat.eq_zero_or_pos shift with hzero | hpos
    · exact .inl hzero
    · have hne : num / den ≠ 0 := fun h => by
        rw [h, Nat.log2_zero] at hs
        omega
      have hlog : 2 ^ (52 + shift) ≤ num / den := (Nat.le_log2 hne).mp (by omega)
      rw [← hstride] at hlog
      right
      calc stride * (den * 2 ^ shift) = stride * 2 ^ shift * den := by ring
        _ ≤ num := (Nat.le_div_iff_mul_le hd).mp hlog

/-- Rounding gives a code in whose interval the size lies, or the limit. -/
lemma nearestCode_eq_min (num : Nat) (hd : 0 < den) :
    ∃ code, nearestCode num den = min top code ∧ Rounds code (num / den) := by
  obtain ⟨shift, hs⟩ : ∃ shift, shift = Nat.log2 (num / den) - 52 := ⟨_, rfl⟩
  obtain ⟨hle, hge⟩ := binade_bounds num hd hs
  have hden : 0 < den * 2 ^ shift := Nat.mul_pos hd (Nat.two_pow_pos shift)
  have hden' : (0 : ℚ) < (den * 2 ^ shift : Nat) := Nat.cast_pos.mpr hden
  have hsize : (num / (den * 2 ^ shift : Nat) : ℚ) * 2 ^ shift = num / den := by
    push_cast
    rw [← div_div, div_mul_cancel₀ _ (by positivity)]
  have hu : (num / (den * 2 ^ shift : Nat) : ℚ) ≤ (2 * stride : Nat) := by
    rw [div_le_iff₀ hden', ← Nat.cast_mul, Nat.cast_le]
    exact hle
  have hl : shift = 0 ∧ (0 : ℚ) ≤ num / (den * 2 ^ shift : Nat) ∨
      (stride : ℚ) ≤ num / (den * 2 ^ shift : Nat) := by
    refine hge.imp (fun hzero => ⟨hzero, div_nonneg (Nat.cast_nonneg _) hden'.le⟩) fun h => ?_
    rw [le_div_iff₀ hden', ← Nat.cast_mul, Nat.cast_le]
    exact h
  refine ⟨shift * stride + nearestWhole num (den * 2 ^ shift), ?_, ?_⟩
  · rw [nearestCode, ← hs]
    rfl
  · exact hsize ▸ (near_nearestWhole hden).rounds hu hl

/-- **Rounding finds the magnitude in whose interval a size lies.** -/
theorem nearestCode_eq (hd : 0 < den) {code : Nat} (hc : code < top)
    (h : Rounds code (num / den)) : nearestCode num den = code := by
  obtain ⟨found, heq, hfound⟩ := nearestCode_eq_min num hd
  rw [heq, hfound.unique h, Nat.min_eq_right hc.le]

end

/-! ### Words -/

/-- The word of a number stands for this number. -/
lemma ofWord_of_word? {x : Binary64} {word : Nat} (h : x.word? = some word) :
    ofWord word = x := by
  cases x with
  | nan => cases h
  | number negative code =>
    have hcode : code.val < top + 1 := code.isLt
    have htop : top + 1 < signBit := by decide +kernel
    have hsmall : code.val % signBit = code.val := Nat.mod_eq_of_lt (hcode.trans htop)
    have hword : word % signBit = code.val ∧ decide (signBit ≤ word) = negative := by
      cases h
      cases negative with
      | false => exact ⟨by simpa using hsmall, by simpa using hcode.trans htop⟩
      | true => exact ⟨by simpa using hsmall, by simp⟩
    unfold ofWord
    simp only [hword, hcode, dite_true]

end QualityBands.Binary64
