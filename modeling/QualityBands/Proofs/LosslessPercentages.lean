import QualityBands.Proofs.Numerals
import QualityBands.Proofs.SectionKeys
import QualityBands.Proofs.WholeDecimals

/-!
Printed percentages are lossless.

A report shows a percentage in one of two ways. A whole number below ten to the power 16 is
rounded to one decimal, which changes nothing, since that decimal is a zero. Any other number is
shown by its shortest decimal, and below that bound such a decimal has a fraction. The one layout
of percentages does both: its mark `.0` stands exactly behind the numbers of the first kind.
-/

namespace QualityBands

open Binary64 Decimal

/-! ### Two ways to print -/

/-- Digits with the point behind the first `point` of them, and no point behind a whole number. -/
def Layout.unmarked (digits : List Char) (point : Int) : List Char :=
  if point ≤ 0 then ['0', '.'] ++ zeros (-point).toNat ++ digits
  else if point < digits.length then
    digits.take point.toNat ++ ['.'] ++ digits.drop point.toNat
  else digits ++ zeros (point - digits.length).toNat

namespace Binary64

/-- Whether a number is whole and below ten to the power 16, so that the mark belongs to it. -/
def isMarked : Binary64 → Bool
  | nan => false
  | number negative code =>
    (number negative code).isFinite && isWhole code &&
      (number negative code).magnitude.less (ofInt 10000000000000000)

/-- The text of a number whose finite magnitudes have these digits. -/
def shown (digits : Nat → List Char) : Binary64 → String
  | nan => "NaN"
  | number negative code =>
    if code.val = top then if negative then "-inf" else "inf"
    else String.ofList ((if negative then ['-'] else []) ++ digits code)

/-- A magnitude rounded to one decimal. -/
def oneDecimal (code : Nat) : List Char :=
  let tenths := nearestWhole (10 * units code) one
  Nat.toDigits 10 (tenths / 10) ++ '.' :: Nat.toDigits 10 (tenths % 10)

/-- The shortest decimal of a magnitude, without exponent. -/
def plain (code : Nat) : List Char :=
  Layout.unmarked (Nat.toDigits 10 (ofCode .upward code).digits) (ofCode .upward code).point

variable {negative : Bool} {code : Fin (top + 1)}

lemma isMarked_iff : (number negative code).isMarked ↔ code.val < marker ∧ one ∣ units code := by
  have hten : ofInt 10000000000000000 =
      number false ⟨marker, marker_lt_top.trans (Nat.lt_succ_self _)⟩ := by decide +kernel
  have hless : (number negative code).magnitude.less (ofInt 10000000000000000) ↔
      code.val < marker := by
    rw [hten, magnitude, less]
    simp [rank]
  have hwhole : isWhole code ↔ one ∣ units code := by
    rw [isWhole, decide_eq_true_eq, Nat.dvd_iff_mod_eq_zero]
  have hfinite : code.val < marker → (number negative code).isFinite = true := fun h =>
    decide_eq_true (h.trans marker_lt_top)
  rw [isMarked, Bool.and_eq_true, Bool.and_eq_true, hless, hwhole]
  exact ⟨fun h => ⟨h.2, h.1.2⟩, fun h => ⟨⟨hfinite h.1, h.2⟩, h.1⟩⟩

end Binary64

/-! ### Digits of whole numbers -/

lemma Decimal.toDigits_mul_pow {n : Nat} (hn : 0 < n) (k : Nat) :
    Nat.toDigits 10 (n * 10 ^ k) = Nat.toDigits 10 n ++ Layout.zeros k := by
  induction k with
  | zero => rw [Nat.pow_zero, Nat.mul_one, Layout.zeros, List.replicate_zero, List.append_nil]
  | succ k ih =>
    have happ := Nat.toDigits_append_toDigits (b := 10) (n := n * 10 ^ k) (d := 0) (by decide)
      (Nat.mul_pos hn (Nat.pow_pos (by decide))) (by decide)
    have hnext : 10 * (n * 10 ^ k) + 0 = n * 10 ^ (k + 1) := by
      rw [Nat.pow_succ]
      ring
    rw [hnext] at happ
    rw [← happ, ih, Layout.zeros, Layout.zeros, List.replicate_succ', List.append_assoc]
    rfl

namespace Layout

/-- The mark stands behind a whole number if the point stands behind 16 digits at most. -/
lemma placed_eq {digits : List Char} (h : digits ≠ []) (point : Int) :
    placed digits point = unmarked digits point ++
      if digits.length ≤ point ∧ point ≤ 16 then ['.', '0'] else [] := by
  have hlen : 0 < digits.length := List.length_pos_of_ne_nil h
  unfold placed unmarked
  split
  · rw [if_neg (by omega), List.append_nil]
  · split
    · rw [if_neg (by omega), List.append_nil]
    · next hinside =>
      have hlast : digits.length ≤ point ∧ point ≤ 16 ↔ point ≤ lastMarked :=
        and_iff_right (Int.not_lt.mp hinside)
      simp only [hlast]

variable {code n : Nat}

lemma unmarked_natural {d : Decimal} {k : Nat} (hk : d.exponent = k) :
    unmarked (Nat.toDigits 10 d.digits) d.point = Nat.toDigits 10 d.digits ++ zeros k := by
  have hlen := length_pos d.digits
  have hpoint : d.point = (Nat.toDigits 10 d.digits).length + k := by rw [point, hk, length]
  rw [hpoint]
  rw [length] at hlen
  rw [unmarked, if_neg (by omega), if_neg (by omega), add_sub_cancel_left, Int.toNat_natCast]

/-- The point calls for the mark exactly behind whole numbers below ten to the power 16. -/
lemma marked_iff (tie : Tie) (code : Nat) :
    (length (ofCode tie code).digits : Int) ≤ (ofCode tie code).point ∧
      (ofCode tie code).point ≤ 16 ↔ code < marker ∧ one ∣ units code := by
  rcases Nat.eq_zero_or_pos code with rfl | hc
  · cases tie <;> decide +kernel
  · have hcode : ofCode tie code = shortest tie code := if_neg hc.ne'
    have hexp : (length (shortest tie code).digits : Int) ≤ (shortest tie code).point ↔
        0 ≤ (shortest tie code).exponent := by
      rw [point]
      omega
    rw [hcode, hexp, point_shortest_le_iff tie hc]
    constructor
    · exact fun h => ⟨h.2, one_dvd_of_exponent_nonneg tie hc h.1⟩
    · rintro ⟨hm, n, hn⟩
      exact ⟨(shortest_whole tie hc hm (hn.trans (Nat.mul_comm one n))).2, hm⟩

lemma unmarked_whole (tie : Tie) (hm : code < marker) (h : units code = n * one) :
    unmarked (Nat.toDigits 10 (ofCode tie code).digits) (ofCode tie code).point =
      Nat.toDigits 10 n := by
  rcases Nat.eq_zero_or_pos code with rfl | hc
  · have hn : n = 0 := (Nat.mul_eq_zero.mp h.symm).resolve_right (Nat.cast_pos.mp cast_one_pos).ne'
    rw [hn]
    cases tie <;> decide +kernel
  · have hcode : ofCode tie code = shortest tie code := if_neg hc.ne'
    obtain ⟨hv, he⟩ := shortest_whole tie hc hm h
    obtain ⟨k, hk⟩ := Int.eq_ofNat_of_zero_le he
    have hn : n = (shortest tie code).digits * 10 ^ k := by
      rw [value, hk, zpow_natCast] at hv
      exact_mod_cast hv.symm
    have hd := Nat.pos_of_ne_zero (digits_shortest_ne_zero tie hc)
    rw [hcode, unmarked_natural hk, hn, toDigits_mul_pow hd]

end Layout

lemma Binary64.nearestWhole_mul (n : Nat) {den : Nat} (hd : 0 < den) :
    nearestWhole (n * den) den = n := by
  simp only [nearestWhole, Nat.mul_mod_left, Nat.mul_div_cancel n hd]
  exact if_pos hd

/-- A whole number has ten times as many tenths, and its one decimal is a zero. -/
lemma Binary64.oneDecimal_eq {code : Nat} (hm : code < marker) (h : one ∣ units code) :
    oneDecimal code = plain code ++ ['.', '0'] := by
  obtain ⟨n, hn⟩ := h
  have hunits : units code = n * one := hn.trans (Nat.mul_comm one n)
  have htenths : nearestWhole (10 * units code) one = 10 * n := by
    rw [hunits, ← Nat.mul_assoc]
    exact nearestWhole_mul _ (Nat.cast_pos.mp cast_one_pos)
  rw [oneDecimal, htenths, Nat.mul_div_cancel_left n (by decide), Nat.mul_mod_right, plain,
    Layout.unmarked_whole .upward hm hunits]
  rfl

/-! ### Percentages -/

/-- A finite percentage is its shortest decimal, and behind it the mark if it is whole and
small. -/
lemma toList_percentage {negative : Bool} {code : Fin (top + 1)} (hc : code.val < top) :
    (percentage (.number negative code)).toList = (if negative then ['-'] else []) ++
      (plain code ++ if (Binary64.number negative code).isMarked then ['.', '0'] else []) := by
  have hwrite : (percentage (.number negative code)).toList = (if negative then ['-'] else []) ++
      Layout.placed (Nat.toDigits 10 (ofCode .upward code).digits) (ofCode .upward code).point :=
    Layout.write_of_lt hc
  have hmark := (Layout.marked_iff .upward code).trans (@isMarked_iff negative code).symm
  rw [length] at hmark
  rw [hwrite, Layout.placed_eq Nat.toDigits_ne_nil, plain]
  simp only [hmark]

/-- **A percentage is shown in the way that its kind calls for:** rounded to one decimal if it is
whole and below ten to the power 16, and by its shortest decimal otherwise. -/
theorem percentage_eq_shown (x : Binary64) :
    percentage x = x.shown (if x.isMarked then oneDecimal else plain) := by
  cases x with
  | nan => rfl
  | number negative code =>
    by_cases hc : code.val < top
    · apply String.toList_injective
      rw [toList_percentage hc, shown, if_neg hc.ne, String.toList_ofList]
      by_cases h : (Binary64.number negative code).isMarked
      · obtain ⟨hm, hwhole⟩ := isMarked_iff.mp h
        rw [if_pos h, if_pos h, oneDecimal_eq hm hwhole]
      · rw [if_neg h, if_neg h, List.append_nil]
    · rw [eq_infinity hc]
      cases negative <;> decide +kernel

/-- The words for the percentages that are not finite are read too. -/
lemma number?_percentage (x : Binary64) : number? (percentage x) = some x := by
  cases x with
  | nan => decide +kernel
  | number negative code =>
    by_cases hc : code.val < top
    · exact Layout.number?_write percentageLayout hc
    · rw [eq_infinity hc]
      cases negative <;> decide +kernel

lemma percentage_injective : Function.Injective percentage := by
  intro x y h
  have hx := number?_percentage x
  rw [h, number?_percentage y] at hx
  exact (Option.some.inj hx).symm

lemma isNumeral_percentage {x : Binary64} {v : ℚ} (hv : x.value? = some v) :
    (IsDecimalNumeral (percentage x) ∨ IsWholeNumeral (percentage x)) ∧
      (|v| < 10000000000000000 → IsDecimalNumeral (percentage x)) := by
  have hx : x ≠ .nan := by
    rintro rfl
    cases hv
  obtain ⟨hdecimal, hwhole⟩ := isDecimalNumeral_percentage_iff hx
  have hbelow : |v| < 10000000000000000 → IsDecimalNumeral (percentage x) :=
    fun hlt => hdecimal.mpr ⟨v, hv, hlt⟩
  refine ⟨?_, hbelow⟩
  rcases lt_or_ge |v| 10000000000000000 with hlt | hle
  · exact .inl (hbelow hlt)
  · exact .inr (hwhole v hv hle)

/-- **Printed percentages are lossless.** Whichever way it is shown, the text of a percentage
reads back as this very number, sign of zero and infinities included, and no other percentage has
this text. A finite one is shown without exponent, and with digits on both sides of one point if
it is below ten to the power 16. -/
theorem percentage_lossless (x : Binary64) :
    percentage x = x.shown (if x.isMarked then oneDecimal else plain) ∧
      number? (percentage x) = some x ∧ (∀ y, percentage y = percentage x → y = x) ∧
      ∀ v, x.value? = some v →
        (IsDecimalNumeral (percentage x) ∨ IsWholeNumeral (percentage x)) ∧
          (|v| < 10000000000000000 → IsDecimalNumeral (percentage x)) :=
  ⟨percentage_eq_shown x, number?_percentage x, fun _ h => percentage_injective h,
    fun _ => isNumeral_percentage⟩

/-- The greatest number that has a half is shown with it, and the zeros are told apart. -/
theorem percentage_lossless_half :
    ∃ x : Binary64, x.isMarked = false ∧ x.value? = some (9007199254740991 / 2) ∧
      IsDecimalNumeral "4503599627370495.5" ∧ number? "4503599627370495.5" = some x ∧
      (Binary64.number true 0).isMarked ∧ percentage (.number true 0) = "-0.0" ∧
      percentage (.number false 0) ≠ "-0.0" := by
  obtain ⟨x, hx⟩ : ∃ x : Binary64, x = .number false ⟨1075 * stride - 1, by decide +kernel⟩ :=
    ⟨_, rfl⟩
  have hv : x.value? = some (9007199254740991 / 2) := by
    rw [hx]
    decide +kernel
  have ht : percentage x = "4503599627370495.5" := by
    rw [hx]
    decide +kernel
  obtain ⟨-, hread, -, hfinite⟩ := percentage_lossless x
  obtain ⟨-, -, hsame, -⟩ := percentage_lossless (.number true 0)
  have hzero : percentage (.number true 0) = "-0.0" := by decide +kernel
  rw [ht] at hread hfinite
  rw [hzero] at hsame
  refine ⟨x, by rw [hx]; decide +kernel, hv, (hfinite _ hv).2 ?_, hread, by decide +kernel, hzero,
    fun h => absurd (hsame _ h) (by decide)⟩
  norm_num [abs_lt]

end QualityBands
