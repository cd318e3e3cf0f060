import QualityBands.Proofs.NumberTexts

/-!
Whole numbers are written in full.

Below ten to the power 16 the shortest decimal of a whole magnitude is this whole number and no
other one that would read back too: the search comes to the grid of whole numbers at last, where
it finds the magnitude itself, and on a coarser grid only even numbers lie. And only whole
magnitudes have a decimal without a fraction.
-/

namespace QualityBands

open Binary64 Decimal

namespace Binary64

variable {shift whole k n code : Nat}

/-! ### Magnitudes on a grid -/

/-- What has 53 bits at most is a magnitude, whatever its exponent. -/
lemma exists_units (shift : Nat) (hk : k ≤ 2 * stride) : ∃ code, units code = k * 2 ^ shift := by
  induction shift generalizing k with
  | zero => exact ⟨0 * stride + k, units_scaled hk (Or.inl rfl)⟩
  | succ shift ih =>
    by_cases hs : stride ≤ k
    · exact ⟨(shift + 1) * stride + k, units_scaled hk (Or.inr hs)⟩
    · obtain ⟨code, hcode⟩ := ih (k := 2 * k) (by omega)
      refine ⟨code, ?_⟩
      rw [hcode, Nat.pow_succ]
      ring

/-- On the grid of its binade, nothing but a magnitude itself is rounded to it. -/
lemma Rounds.units_eq {size : Nat} (h : Rounds (shift * stride + whole) size)
    (hu : whole < 2 * stride) (hl : shift = 0 ∨ stride ≤ whole) (hd : 2 ^ shift ∣ size) :
    units (shift * stride + whole) = size := by
  obtain ⟨k, rfl⟩ := hd
  rw [Nat.mul_comm (2 ^ shift) k] at h ⊢
  have hlt := h.lt_units (Nat.lt_succ_self _)
  have hnext : units (shift * stride + whole + 1) = (whole + 1) * 2 ^ shift := by
    rw [Nat.add_assoc]
    exact units_scaled hu (hl.imp_right fun hw => hw.trans (Nat.le_succ _))
  rw [hnext, Nat.cast_lt] at hlt
  have hk : k < whole + 1 := Nat.lt_of_mul_lt_mul_right hlt
  obtain ⟨other, hother⟩ := exists_units shift (show k ≤ 2 * stride by omega)
  have hrounds := rounds_units other
  rw [hother] at hrounds
  rw [h.unique hrounds, hother]

lemma exists_one_eq : ∃ halvings, halvings = 1074 ∧ one = 2 ^ halvings :=
  ⟨1074, rfl, by decide +kernel⟩

/-- A magnitude to which a whole number is rounded is whole. -/
lemma Rounds.one_dvd (h : Rounds code (n * one : Nat)) : one ∣ units code := by
  obtain ⟨halvings, -, hone⟩ := exists_one_eq
  obtain ⟨shift, whole, rfl, hu, hl⟩ := exists_scaled code
  rcases Nat.le_total halvings shift with hle | hle
  · rw [units_scaled hu.le hl, hone]
    exact Dvd.dvd.mul_left (Nat.pow_dvd_pow 2 hle) whole
  · have hd : 2 ^ shift ∣ n * one := by
      rw [hone]
      exact Dvd.dvd.mul_left (Nat.pow_dvd_pow 2 hle) n
    rw [h.units_eq hu hl hd]
    exact Dvd.intro_left n rfl

/-- Below ten to the power 16, an even number is rounded to nothing but itself. -/
lemma Rounds.units_eq_of_even (h : Rounds code (2 * n * one : Nat)) (hc : code < marker) :
    units code = 2 * n * one := by
  obtain ⟨halvings, hh, hone⟩ := exists_one_eq
  obtain ⟨shift, whole, rfl, hu, hl⟩ := exists_scaled code
  -- below the marker the magnitudes of one binade are at most two apart
  have hshift : shift ≤ halvings + 1 := by
    have htwo : 5000000000000000 ≤ 2 * stride := by decide +kernel
    unfold marker at hc
    by_contra hlt
    have hmul : (halvings + 2) * stride ≤ shift * stride := Nat.mul_le_mul_right _ (by omega)
    rw [hh] at hmul
    have hw : stride ≤ whole := hl.resolve_left (by omega)
    omega
  refine h.units_eq hu hl ?_
  have hsize : 2 * n * one = n * 2 ^ (halvings + 1) := by
    rw [hone, Nat.pow_succ]
    ring
  rw [hsize]
  exact Dvd.dvd.mul_left (Nat.pow_dvd_pow 2 hshift) n

end Binary64

namespace Decimal

variable {code n : Nat} {d : Decimal}

lemma compareScale_zero : compareScale 0 = (2 * one, 1) := by
  rw [compareScale, if_pos (le_refl _), Int.toNat_zero, Nat.pow_eq, Nat.pow_zero, Nat.one_mul]

lemma value_natural (n : Nat) : value ⟨n, 0⟩ = n := by rw [value, zpow_zero, mul_one]

/-- The grid of whole numbers has every whole magnitude itself. -/
lemma onGrid?_zero (tie : Tie) (h : units code = n * one) : onGrid? tie code 0 = some ⟨n, 0⟩ := by
  have hpos : 0 < 2 * one := Nat.mul_pos (by decide) (Nat.cast_pos.mp cast_one_pos)
  have hsize : 2 * units code * 1 = n * (2 * one) := by
    rw [h]
    ring
  have hlow : readsBack code ⟨n, 0⟩ = true := by
    rw [readsBack_iff, value_natural, ← Nat.cast_mul, ← h]
    exact rounds_units code
  simp only [onGrid?, compareScale_zero, hsize, Nat.mul_div_cancel n hpos, Nat.mul_mod_left, hlow,
    Nat.mul_zero, hpos, if_true]
  cases readsBack code ⟨n + 1, 0⟩ <;> rfl

/-- The search for a whole magnitude comes to the grid of whole numbers at last. -/
lemma search_whole (tie : Tie) (h : units code = n * one) {fuel : Nat} (hf : fuel ≤ 17)
    (hm : 18 - (fuel : Int) ≤ magnitudeExponent code) (hu : magnitudeExponent code ≤ 16) :
    ∃ d, search tie code fuel = some d ∧ readsBack code d ∧ (1 ≤ d.exponent ∨ d = ⟨n, 0⟩) := by
  induction fuel with
  | zero => omega
  | succ fuel ih =>
    -- the exponent of the next grid, which begins above zero and falls by one with each length
    obtain ⟨e, he⟩ : ∃ e, e = magnitudeExponent code - (17 - fuel : Nat) := ⟨_, rfl⟩
    rw [search_succ, ← he]
    rcases (show 0 ≤ e by omega).eq_or_lt with hzero | hpos
    · rw [← hzero, onGrid?_zero tie h]
      exact ⟨⟨n, 0⟩, rfl, (onGrid?_spec (onGrid?_zero tie h)).1, .inr rfl⟩
    · cases hgrid : onGrid? tie code e with
      | some d =>
        obtain ⟨hr, hd⟩ := onGrid?_spec hgrid
        exact ⟨d, rfl, hr, .inl (hd ▸ hpos)⟩
      | none => exact ih (by omega) (by omega)

lemma magnitudeExponent_whole (h : units code = n * one) (hn : 0 < n) :
    magnitudeExponent code = length n := by
  have hone : 0 < one := Nat.cast_pos.mp cast_one_pos
  have hle : one ≤ units code := h ▸ Nat.le_mul_of_pos_left one hn
  simp only [magnitudeExponent]
  rw [if_pos hle, h, Nat.mul_div_cancel n hone]

lemma length_le_of_lt_marker (h : units code = n * one) (hc : code < marker) : length n ≤ 16 := by
  have hlt := units_strictMono hc
  rw [h, units_marker] at hlt
  have hn : n < 10 ^ 16 := (Nat.mul_lt_mul_right (Nat.cast_pos.mp cast_one_pos)).mp hlt
  exact (Nat.length_toDigits_le_iff (by decide) (by decide)).mpr hn

/-- On a coarser grid every decimal is even, and so it is the magnitude that it is rounded to. -/
lemma value_of_exponent_pos (hr : readsBack code d) (hc : code < marker) (he : 1 ≤ d.exponent) :
    units code = d.value * one := by
  obtain ⟨k, hk⟩ : ∃ k : Nat, d.exponent = (k + 1 : Nat) := ⟨(d.exponent - 1).toNat, by omega⟩
  have hv : d.value * one = (2 * (d.digits * 5 * 10 ^ k) * one : Nat) := by
    rw [value, hk, zpow_natCast, pow_succ]
    push_cast
    ring
  rw [readsBack_iff, hv] at hr
  rw [hv, hr.units_eq_of_even hc]

/-- **The shortest decimal of a whole number below ten to the power 16 is this number.** -/
theorem shortest_whole (tie : Tie) (hc : 0 < code) (hm : code < marker)
    (h : units code = n * one) :
    (shortest tie code).value = n ∧ 0 ≤ (shortest tie code).exponent := by
  have hn : 0 < n := by
    have hpos : units 0 < units code := units_strictMono hc
    rw [h] at hpos
    exact Nat.pos_of_mul_pos_right (Nat.zero_lt_of_lt hpos)
  have hexp := magnitudeExponent_whole h hn
  have hlen := length_pos n
  have hle := length_le_of_lt_marker h hm
  obtain ⟨d, hs, hr, hd⟩ := search_whole tie h (le_refl 17) (by omega) (by omega)
  have hval : d.value = n := by
    rcases hd with he | rfl
    · have hv := value_of_exponent_pos hr hm he
      rw [h, Nat.cast_mul] at hv
      exact (mul_right_cancel₀ cast_one_pos.ne' hv).symm
    · exact value_natural n
  have hne := digits_ne_zero hc hr
  obtain ⟨hv, hz, -⟩ := strip_go d.digits d.digits d.exponent (le_refl _) hne
  have heq : shortest tie code = d.strip := by rw [shortest, hs, Option.getD_some]
  rw [heq]
  exact ⟨hv.trans hval, exponent_nonneg hz (hv.trans hval)⟩

/-- Whole numbers alone have a shortest decimal without a fraction. -/
lemma one_dvd_of_exponent_nonneg (tie : Tie) (hc : 0 < code)
    (he : 0 ≤ (shortest tie code).exponent) : one ∣ units code := by
  obtain ⟨k, hk⟩ := Int.eq_ofNat_of_zero_le he
  obtain ⟨hr, -⟩ := rounds_shortest tie hc
  have hv : (shortest tie code).value * one =
      ((shortest tie code).digits * 10 ^ k * one : Nat) := by
    rw [value, hk, zpow_natCast]
    push_cast
    rfl
  rw [hv] at hr
  exact hr.one_dvd

end Decimal
end QualityBands
