import Mathlib.Algebra.Order.Field.Power
import Mathlib.Tactic.Positivity
import QualityBands.Proofs.Rounding

/-!
The shortest decimal reads back.

A decimal reads back as a magnitude when its value is rounded to it. The decimals that are tried
are tested for this, every digit of a magnitude gives the magnitude itself, and zeros at the end
do not change a value. So the digits of a number, which end in no zero, always stand for it.
-/

namespace QualityBands

open Binary64

namespace Decimal

/-- The exact value. -/
def value (d : Decimal) : ℚ := d.digits * (10 : ℚ) ^ d.exponent

variable {code : Nat} {d : Decimal} {tie : Tie} {exponent : Int}

lemma value_nonneg (d : Decimal) : 0 ≤ d.value := by
  unfold value
  positivity

lemma cast_one_pos : (0 : ℚ) < one := Nat.cast_pos.mpr (by decide +kernel)

/-! ### Reading back -/

lemma compareScale_pos (exponent : Int) : 0 < (compareScale exponent).2 := by
  unfold compareScale
  split
  · exact Nat.one_pos
  · exact Nat.pow_pos (by decide)

lemma compareScale_eq (exponent : Int) : ((compareScale exponent).1 : ℚ) =
    (10 : ℚ) ^ exponent * (2 * one) * (compareScale exponent).2 := by
  unfold compareScale
  split
  · next h =>
    obtain ⟨n, rfl⟩ := Int.eq_ofNat_of_zero_le h
    rw [zpow_natCast, Int.toNat_natCast, Nat.pow_eq, Nat.cast_one, mul_one]
    push_cast
    rfl
  · next h =>
    obtain ⟨n, rfl⟩ : ∃ n : Nat, exponent = -n := ⟨(-exponent).toNat, by omega⟩
    rw [zpow_neg, zpow_natCast, neg_neg, Int.toNat_natCast, Nat.pow_eq, mul_right_comm]
    push_cast
    rw [inv_mul_cancel₀ (by positivity), one_mul]

/-- The test of a decimal compares twice its size with the sums of neighbours. -/
lemma readsBack_iff : readsBack code d ↔ Rounds code (d.value * one) := by
  have hpos : (0 : ℚ) < (compareScale d.exponent).2 := Nat.cast_pos.mpr (compareScale_pos _)
  have hhere : ((d.digits * (compareScale d.exponent).1 : Nat) : ℚ) =
      2 * (d.value * one) * (compareScale d.exponent).2 := by
    rw [Nat.cast_mul, compareScale_eq, value]
    ring
  have hle : ∀ n : Nat, n * (compareScale d.exponent).2 ≤ d.digits * (compareScale d.exponent).1 ↔
      (n : ℚ) ≤ 2 * (d.value * one) := fun n => by
    rw [← Nat.cast_le (α := ℚ), hhere, Nat.cast_mul, mul_le_mul_iff_left₀ hpos]
  have hge : ∀ n : Nat, d.digits * (compareScale d.exponent).1 ≤ n * (compareScale d.exponent).2 ↔
      2 * (d.value * one) ≤ (n : ℚ) := fun n => by
    rw [← Nat.cast_le (α := ℚ), hhere, Nat.cast_mul, mul_le_mul_iff_left₀ hpos]
  have hlow := hle (units (code - 1) + units code)
  have hhigh := hge (units code + units (code + 1))
  have hlow' := not_congr (hge (units (code - 1) + units code))
  have hhigh' := not_congr (hle (units code + units (code + 1)))
  rw [Nat.not_le, not_le] at hlow' hhigh'
  push_cast at hlow hhigh hlow' hhigh'
  simp only [readsBack]
  split
  · next heven =>
    rw [Bool.and_eq_true, decide_eq_true_eq, decide_eq_true_eq, hlow, hhigh]
    exact ⟨fun h => ⟨h.1, h.2, fun hodd => by omega⟩, fun h => ⟨h.above, h.below⟩⟩
  · next hodd =>
    rw [Bool.and_eq_true, decide_eq_true_eq, decide_eq_true_eq, hlow', hhigh']
    exact ⟨fun h => ⟨h.1.le, h.2.le, fun _ => h⟩, fun h => h.inside (by omega)⟩

/-- A number of halvings of one takes as many digits behind the point. -/
lemma value_halved (size halvings : Nat) {whole : Nat} (h : whole = Nat.pow 2 halvings) :
    value ⟨size * Nat.pow 5 halvings, -halvings⟩ * whole = size := by
  have hten : (5 : ℚ) ^ halvings * 2 ^ halvings = 10 ^ halvings := by
    rw [← mul_pow]
    norm_num
  rw [h, value, Nat.pow_eq, Nat.pow_eq, zpow_neg, zpow_natCast]
  push_cast
  rw [mul_right_comm, mul_assoc (size : ℚ), hten]
  exact mul_inv_cancel_right₀ (by positivity) _

lemma value_exact (code : Nat) : (exact code).value * one = units code := by
  have hone : one = Nat.pow 2 1074 := by decide +kernel
  apply value_halved
  exact hone

/-! ### Zeros at the end -/

lemma value_div_ten {digits : Nat} (h : digits % 10 = 0) (exponent : Int) :
    value ⟨digits / 10, exponent + 1⟩ = value ⟨digits, exponent⟩ := by
  obtain ⟨n, rfl⟩ := Nat.dvd_of_mod_eq_zero h
  rw [value, value, Nat.mul_div_cancel_left n (by decide), zpow_add_one₀ (by norm_num)]
  push_cast
  ring

lemma strip_go (fuel digits : Nat) (exponent : Int) (hf : digits ≤ fuel) (hd : digits ≠ 0) :
    (strip.go fuel digits exponent).value = value ⟨digits, exponent⟩ ∧
      (strip.go fuel digits exponent).digits % 10 ≠ 0 ∧
      exponent ≤ (strip.go fuel digits exponent).exponent := by
  induction fuel generalizing digits exponent with
  | zero => omega
  | succ fuel ih =>
    rw [strip.go]
    split
    · next h =>
      obtain ⟨hv, hr, he⟩ := ih (digits / 10) (exponent + 1) (by omega) (by omega)
      exact ⟨hv.trans (value_div_ten h.2 exponent), hr, by omega⟩
    · next h => exact ⟨rfl, fun hz => h ⟨hd, hz⟩, le_refl _⟩

lemma value_strip (h : d.digits ≠ 0) : d.strip.value = d.value :=
  (strip_go _ _ _ (le_refl _) h).1

/-- A decimal whose digits end in no zero has a fraction if its exponent is negative. -/
lemma exponent_nonneg (h : d.digits % 10 ≠ 0) {n : Nat} (hv : d.value = n) : 0 ≤ d.exponent := by
  by_contra hneg
  obtain ⟨k, hk⟩ : ∃ k : Nat, d.exponent = -(k + 1 : Nat) := ⟨(-d.exponent - 1).toNat, by omega⟩
  rw [value, hk, zpow_neg, zpow_natCast, mul_inv_eq_iff_eq_mul₀ (by positivity)] at hv
  have hd : d.digits = n * 10 ^ k * 10 := by
    rw [Nat.mul_assoc, ← Nat.pow_succ]
    exact_mod_cast hv
  omega

/-! ### The search -/

/-- Whichever candidate is taken, it has the exponent of the grid and passed the test. -/
lemma onGrid?_spec (h : onGrid? tie code exponent = some d) :
    readsBack code d ∧ d.exponent = exponent := by
  simp only [onGrid?] at h
  split at h
  case h_1 => cases h
  case h_2 hlow _ => cases h; exact ⟨hlow, rfl⟩
  case h_3 _ hhigh => cases h; exact ⟨hhigh, rfl⟩
  case h_4 hlow hhigh =>
    split at h
    · cases h; exact ⟨hlow, rfl⟩
    · split at h
      · cases h; exact ⟨hhigh, rfl⟩
      · cases tie with
        | upward => cases h; exact ⟨hhigh, rfl⟩
        | toEven =>
          obtain rfl := Option.some.inj h
          split
          · exact ⟨hlow, rfl⟩
          · exact ⟨hhigh, rfl⟩

-- otherwise the comparison of both sides would begin to compute the candidates
attribute [local irreducible] onGrid? in
lemma search_succ (fuel : Nat) : search tie code (fuel + 1) =
    match onGrid? tie code (magnitudeExponent code - (17 - fuel : Nat)) with
    | some d => some d
    | none => search tie code fuel := rfl

lemma search_spec (tie : Tie) (code fuel : Nat) :
    ∀ d, search tie code fuel = some d →
      readsBack code d ∧ magnitudeExponent code - 17 ≤ d.exponent := by
  induction fuel with
  | zero => exact fun _ h => nomatch h
  | succ fuel ih =>
    intro d h
    rw [search_succ] at h
    split at h
    · next hgrid =>
      obtain rfl := Option.some.inj h
      obtain ⟨hr, he⟩ := onGrid?_spec hgrid
      refine ⟨hr, ?_⟩
      rw [he]
      omega
    · exact ih d h

/-- What is found by the search or else exact passed the test, and before its zeros are taken
off it is on a fine grid or exact. -/
lemma spec_getD_exact {found : Option Decimal} {low : Int}
    (h : ∀ d, found = some d → readsBack code d ∧ low ≤ d.exponent) :
    readsBack code (found.getD (exact code)) ∧ (low ≤ (found.getD (exact code)).exponent ∨
      (found.getD (exact code)).value * one = units code) := by
  cases found with
  | some d =>
    obtain ⟨hr, he⟩ := h d rfl
    exact ⟨hr, .inl he⟩
  | none =>
    refine ⟨readsBack_iff.mpr ?_, .inr (value_exact code)⟩
    rw [Option.getD_none, value_exact]
    exact rounds_units code

lemma exists_shortest_eq_strip (tie : Tie) (code : Nat) :
    ∃ d : Decimal, shortest tie code = d.strip ∧ readsBack code d ∧
      (magnitudeExponent code - 17 ≤ d.exponent ∨ d.value * one = units code) := by
  have hfound := fun fuel => spec_getD_exact (search_spec tie code fuel)
  exact ⟨_, rfl, hfound 17⟩

/-! ### The shortest decimal -/

lemma digits_ne_zero (hc : 0 < code) (h : readsBack code d) : d.digits ≠ 0 := by
  intro hzero
  have hle := (readsBack_iff.mp h).one_le hc
  rw [value, hzero, Nat.cast_zero, zero_mul, zero_mul, mul_zero] at hle
  exact absurd hle (by norm_num)

/-- **The shortest decimal is rounded to its magnitude,** and its digits end in no zero. -/
theorem rounds_shortest (tie : Tie) (hc : 0 < code) :
    Rounds code ((shortest tie code).value * one) ∧ (shortest tie code).digits % 10 ≠ 0 := by
  obtain ⟨d, heq, hr, -⟩ := exists_shortest_eq_strip tie code
  have hd := digits_ne_zero hc hr
  rw [heq, value_strip hd]
  exact ⟨readsBack_iff.mp hr, (strip_go _ _ _ (le_refl _) hd).2.1⟩

/-! ### Where the point stands -/

/-- How many digits stand before the point, or the other way round how many zeros follow it. -/
def point (d : Decimal) : Int := length d.digits + d.exponent

lemma length_pos (n : Nat) : 0 < length n := List.length_pos_of_ne_nil Nat.toDigits_ne_nil

lemma lt_pow_length (n : Nat) : n < 10 ^ length n :=
  (Nat.length_toDigits_le_iff (by decide) (length_pos n)).mp (le_refl _)

lemma pow_length_le {n : Nat} (h : n ≠ 0) : 10 ^ (length n - 1) ≤ n := by
  rcases Nat.eq_zero_or_pos (length n - 1) with hzero | hpos
  · rw [hzero]
    exact Nat.pos_of_ne_zero h
  · refine Nat.not_lt.mp fun hlt => ?_
    have hle : length n ≤ length n - 1 := (Nat.length_toDigits_le_iff (by decide) hpos).mpr hlt
    omega

lemma value_lt_pow_point (d : Decimal) : d.value < 10 ^ d.point := by
  rw [value, point, zpow_add₀ (by norm_num), zpow_natCast]
  refine mul_lt_mul_of_pos_right ?_ (by positivity)
  exact_mod_cast lt_pow_length d.digits

lemma pow_point_le_value (h : d.digits ≠ 0) : 10 ^ (d.point - 1) ≤ d.value := by
  have hpos := length_pos d.digits
  have hexp : d.point - 1 = (length d.digits - 1 : Nat) + d.exponent := by
    rw [point]
    omega
  rw [value, hexp, zpow_add₀ (by norm_num), zpow_natCast]
  refine mul_le_mul_of_nonneg_right ?_ (by positivity)
  exact_mod_cast pow_length_le h

/-- The point tells between which powers of ten a decimal lies. -/
lemma point_le_iff (h : d.digits ≠ 0) (k : Int) : d.point ≤ k ↔ d.value < 10 ^ k := by
  constructor
  · exact fun hk => (value_lt_pow_point d).trans_le (zpow_le_zpow_right₀ (by norm_num) hk)
  · intro hv
    by_contra hk
    have hle : (10 : ℚ) ^ k ≤ 10 ^ (d.point - 1) := zpow_le_zpow_right₀ (by norm_num) (by omega)
    exact (hle.trans (pow_point_le_value h)).not_gt hv

lemma digits_shortest_ne_zero (tie : Tie) (hc : 0 < code) : (shortest tie code).digits ≠ 0 := by
  intro hzero
  have hr := (rounds_shortest tie hc).2
  rw [hzero] at hr
  exact hr rfl

/-- Finite magnitudes are far from the limits of exponents that are read. -/
lemma point_shortest_bounds (tie : Tie) (hc : 0 < code) (ht : code < top) :
    -400 < (shortest tie code).point ∧ (shortest tie code).point ≤ 400 := by
  obtain ⟨hr, -⟩ := rounds_shortest tie hc
  have hd := digits_shortest_ne_zero tie hc
  constructor
  · by_contra hle
    have hv := (point_le_iff hd (-400)).mp (by omega)
    have hsmall : (2 * one : ℚ) < 10 ^ (400 : Int) := by
      have h : 2 * one < 10 ^ 400 := by decide +kernel
      exact_mod_cast h
    have hlt : (shortest tie code).value * (2 * one) < 10 ^ (-400 : Int) * 10 ^ (400 : Int) :=
      mul_lt_mul'' hv hsmall (value_nonneg _) (by linarith)
    rw [← zpow_add₀ (by norm_num), neg_add_cancel, zpow_zero] at hlt
    have hle := hr.one_le hc
    linarith
  · rw [point_le_iff hd]
    have hlt : (units top : ℚ) < 10 ^ (400 : Int) * one := by
      have h : units top < 10 ^ 400 * one := by decide +kernel
      exact_mod_cast h
    exact lt_of_mul_lt_mul_right ((hr.lt_units ht).trans hlt) cast_one_pos.le

/-! ### Ten to the power 16 -/

/-- The code of ten to the power 16. -/
def marker : Nat := 1075 * stride + 5000000000000000

lemma units_marker : units marker = 10 ^ 16 * one := by decide +kernel

lemma marker_lt_top : marker < top := by decide +kernel

lemma shortest_marker (tie : Tie) : shortest tie marker = ⟨1, 16⟩ := by
  cases tie <;> decide +kernel

/-- The shortest decimal of a magnitude is below ten to the power 16 if the magnitude is. -/
lemma point_shortest_le_iff (tie : Tie) (hc : 0 < code) :
    (shortest tie code).point ≤ 16 ↔ code < marker := by
  have hmarker : (units marker : ℚ) = 10 ^ (16 : Int) * one := by
    rw [units_marker]
    push_cast
    rfl
  obtain ⟨hr, -⟩ := rounds_shortest tie hc
  rw [point_le_iff (digits_shortest_ne_zero tie hc)]
  rcases Nat.lt_trichotomy code marker with hlt | rfl | hgt
  · refine ⟨fun _ => hlt, fun _ => ?_⟩
    exact lt_of_mul_lt_mul_right ((hr.lt_units hlt).trans_eq hmarker) cast_one_pos.le
  · rw [shortest_marker]
    refine ⟨fun h => absurd h ?_, fun h => absurd h (Nat.lt_irrefl _)⟩
    norm_num [value]
  · refine ⟨fun h => ?_, fun h => absurd h hgt.not_gt⟩
    have hsize := hmarker.symm.trans_lt (hr.units_lt hgt)
    exact absurd (lt_of_mul_lt_mul_right hsize cast_one_pos.le) h.not_gt

/-- From there on all magnitudes are whole. -/
lemma one_dvd_units (h : marker ≤ code) : one ∣ units code := by
  obtain ⟨shift, whole, rfl, hu, hl⟩ := exists_scaled code
  have hshift : 1074 ≤ shift := by
    unfold marker at h
    have hpos := stride_pos
    by_contra hs
    have hle : shift * stride ≤ 1073 * stride := Nat.mul_le_mul_right _ (by omega)
    omega
  rw [units_scaled hu.le hl]
  have hdvd : ∀ n, one = 2 ^ n → n ≤ shift → one ∣ 2 ^ shift := fun n hn hle =>
    hn ▸ Nat.pow_dvd_pow 2 hle
  exact Dvd.dvd.mul_left (hdvd 1074 (by decide +kernel) hshift) whole

lemma magnitudeExponent_ge (h : marker ≤ code) : 17 ≤ magnitudeExponent code := by
  have hsize : 10 ^ 16 * one ≤ units code := units_marker ▸ units_strictMono.monotone h
  have hge : one ≤ units code := (Nat.le_mul_of_pos_left one (by decide)).trans hsize
  have hdiv : 10 ^ 16 ≤ units code / one :=
    (Nat.le_div_iff_mul_le (Nat.cast_pos.mp cast_one_pos)).mpr hsize
  have hlen : ¬ length (units code / one) ≤ 16 := by
    rw [length, Nat.length_toDigits_le_iff (by decide) (by decide), Nat.not_lt]
    exact hdiv
  simp only [magnitudeExponent]
  rw [if_pos hge]
  omega

/-- Their digits are on a grid of whole numbers, or they are whole and end in no zero. -/
lemma exponent_shortest_nonneg (tie : Tie) (h : marker ≤ code) :
    0 ≤ (shortest tie code).exponent := by
  have hc : 0 < code := Nat.lt_of_lt_of_le (by decide +kernel) h
  obtain ⟨d, heq, hr, hfine⟩ := exists_shortest_eq_strip tie code
  have hd := digits_ne_zero hc hr
  obtain ⟨-, hz, he⟩ := strip_go _ _ d.exponent (le_refl _) hd
  rw [heq]
  rcases hfine with hexp | hexact
  · have hge := magnitudeExponent_ge h
    exact (by omega : (0 : Int) ≤ d.exponent).trans he
  · obtain ⟨n, hn⟩ := one_dvd_units h
    have hval : d.strip.value * one = n * one := by
      rw [value_strip hd, hexact, hn, Nat.mul_comm, Nat.cast_mul]
    exact exponent_nonneg hz (mul_right_cancel₀ cast_one_pos.ne' hval)

end Decimal

end QualityBands
