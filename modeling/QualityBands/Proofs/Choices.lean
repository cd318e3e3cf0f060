import Mathlib.Tactic.ByContra
import QualityBands.Proofs.CleanText
import QualityBands.Tree.Node

/-!
What a value chooses.

A value makes a choice when it is a text that is not empty, the truth value true, or a number
other than zero; NaN is such a number. Its choice is a text that is never empty. Null, false,
zero, the empty text and whatever is no scalar make no choice, and neither does a value with a
tag.
-/

namespace QualityBands

/-- The choice that a value makes, in words that do not mention how it is read. -/
inductive Tree.Chooses : Tree → String → Prop where
  | text {s : String} (h : s ≠ "") : Chooses (.text s) s
  | truth : Chooses (.bool true) "true"
  | integer {n : Int} (h : n ≠ 0) : Chooses (.number (.integer n)) (toString n)
  | nan : Chooses (.number (.float .nan)) ".nan"
  | float {negative : Bool} {code : Fin (Binary64.top + 1)} (h : 0 < code.val) :
    Chooses (.number (.float (.number negative code)))
      (Number.layout.write (.number negative code))

/-! ### Zero -/

namespace Binary64

lemma stride_pos : 0 < stride := Nat.two_pow_pos 52

lemma nearestCode_zero : nearestCode 0 1 = 0 := by
  simp [nearestCode, nearestWhole]

lemma two_pow_le_one : Nat.pow 2 53 ≤ one := by decide +kernel

/-- A whole number other than zero is far above the least unit. -/
lemma nearestCode_pos {n : Nat} (h : n ≠ 0) : 0 < nearestCode (n * one) 1 := by
  have hone : Nat.pow 2 53 ≤ n * one :=
    Nat.le_trans two_pow_le_one (Nat.le_mul_of_pos_left one (Nat.pos_of_ne_zero h))
  have hlog : 53 ≤ Nat.log2 (n * one / 1) := by
    rw [Nat.div_one, Nat.le_log2 (Nat.ne_of_gt (Nat.lt_of_lt_of_le (by decide) hone))]
    exact hone
  have hshift : 0 < Nat.log2 (n * one / 1) - 52 := by omega
  exact Nat.lt_min.mpr ⟨Nat.mul_pos (by decide) stride_pos,
    Nat.add_pos_left (Nat.mul_pos hshift stride_pos) _⟩

lemma isZero_ofInt {n : Int} : (ofInt n).isZero ↔ n = 0 := by
  simp only [ofInt, ofRatio, isZero, decide_eq_true_eq]
  constructor
  · intro h
    by_contra hn
    exact Nat.ne_of_gt (nearestCode_pos (Int.natAbs_ne_zero.mpr hn)) h
  · rintro rfl
    rw [Int.natAbs_zero, Nat.zero_mul, nearestCode_zero]

end Binary64

/-! ### The texts of numbers -/

/-- Whether a text begins with a digit, a minus sign or a point. -/
def startsNumber : List Char → Bool
  | [] => false
  | c :: _ => c.isDigit || c = '-' || c = '.'

lemma startsNumber_append {front back : List Char} (h : startsNumber front) :
    startsNumber (front ++ back) := by
  cases front with
  | nil => cases h
  | cons c cs => exact h

lemma startsNumber_take {cs : List Char} (h : startsNumber cs) {n : Nat} (hn : 0 < n) :
    startsNumber (cs.take n) := by
  obtain ⟨n, rfl⟩ := Nat.exists_eq_add_one_of_ne_zero (Nat.ne_of_gt hn)
  cases cs with
  | nil => cases h
  | cons c cs => exact h

lemma startsNumber_toDigits (n : Nat) : startsNumber (Nat.toDigits 10 n) := by
  obtain ⟨c, cs, h⟩ := List.exists_cons_of_ne_nil (Nat.toDigits_ne_nil (n := n) (b := 10))
  have hc : c.isDigit := isDigit_toDigits (h ▸ List.mem_cons_self)
  rw [h, startsNumber, hc]
  rfl

lemma startsNumber_toString (n : Int) : startsNumber (toString n).toList := by
  rw [Int.toString_eq_repr, Int.repr_eq_if]
  split
  · rw [Nat.toList_repr]
    exact startsNumber_toDigits _
  · rw [String.toList_append]
    exact startsNumber_append rfl

namespace Layout

lemma startsNumber_placed {digits : List Char} (h : startsNumber digits) (point : Int) :
    startsNumber (placed digits point) := by
  unfold placed
  split
  · rfl
  · split
    · next h0 _ =>
      rw [List.append_assoc]
      exact startsNumber_append (startsNumber_take h (by omega))
    · rw [List.append_assoc]
      exact startsNumber_append h

lemma startsNumber_decimal (layout : Layout) (d : Decimal) : startsNumber (layout.decimal d) := by
  have hdigits := startsNumber_toDigits d.digits
  simp only [decimal]
  split
  · exact startsNumber_placed hdigits _
  · split
    · exact startsNumber_placed hdigits _
    · simp only [scientific, List.append_assoc]
      exact startsNumber_append (startsNumber_take hdigits Nat.one_pos)

end Layout

lemma Number.startsNumber_text (n : Number) : startsNumber n.text.toList := by
  cases n with
  | integer n => exact startsNumber_toString n
  | float x =>
    cases x with
    | nan => rfl
    | number negative code =>
      rw [text, Layout.write]
      split
      · cases negative <;> rfl
      · rw [String.toList_ofList]
        cases negative with
        | false => exact Layout.startsNumber_decimal layout _
        | true => rfl

lemma Number.text_ne_empty (n : Number) : n.text ≠ "" := by
  intro h
  have hs := n.startsNumber_text
  rw [h] at hs
  cases hs

namespace Tree

variable {t : Tree} {s : String}

/-- A text that is neither a truth value nor begins like a number is read from itself only. -/
lemma scalarText?_eq_some_iff (hs : startsNumber s.toList = false) (ht : s ≠ "true")
    (hf : s ≠ "false") : t.scalarText? = some s ↔ t = text s := by
  constructor
  · intro h
    cases t with
    | text _ => cases h; rfl
    | number n => cases h; rw [n.startsNumber_text] at hs; cases hs
    | bool b => cases b <;> cases h <;> contradiction
    | _ => cases h
  · rintro rfl
    rfl

/-! ### Choices -/

lemma Chooses.ne_empty (h : t.Chooses s) : s ≠ "" := by
  cases h with
  | text h => exact h
  | truth => decide
  | integer h => exact Number.text_ne_empty (.integer _)
  | nan => decide
  | @float negative code h => exact Number.text_ne_empty (.float (.number negative code))

/-- The choices are the texts of truthy scalars. -/
lemma chooses_iff : t.Chooses s ↔ t.isTruthy ∧ t.scalarText? = some s := by
  constructor
  · intro h
    refine ⟨?_, by cases h <;> rfl⟩
    cases h with
    | text h => simpa [isTruthy] using h
    | truth => rfl
    | integer h =>
      simpa [isTruthy, Number.isTruthy, Number.toBinary64] using mt Binary64.isZero_ofInt.mp h
    | nan => rfl
    | float h =>
      simpa [isTruthy, Number.isTruthy, Number.toBinary64, Binary64.isZero] using Nat.ne_of_gt h
  · rintro ⟨ht, hs⟩
    cases t with
    | text _ =>
      cases hs
      exact .text (by simpa [isTruthy] using ht)
    | bool b =>
      cases ht
      cases hs
      exact .truth
    | number n =>
      cases hs
      rw [isTruthy, Number.isTruthy] at ht
      cases n with
      | integer n =>
        refine .integer fun hn => ?_
        rw [Number.toBinary64, Binary64.isZero_ofInt.mpr hn] at ht
        cases ht
      | float x =>
        cases x with
        | nan => exact .nan
        | number negative code =>
          refine .float (Nat.pos_of_ne_zero ?_)
          simpa [Number.toBinary64, Binary64.isZero] using ht
    | _ => cases hs

end Tree

namespace Node

variable {node : Node} {s : String}

/-- **A place has a truthy text exactly when the value there makes that choice.** -/
theorem truthyText?_eq_some_iff :
    node.truthyText? = some s ↔ ∃ t, node.found = some t ∧ t.Chooses s := by
  simp only [truthyText?, value?, Option.bind_eq_some_iff, Option.filter_eq_some_iff,
    Tree.chooses_iff]
  refine exists_congr fun t => ?_
  constructor
  · rintro ⟨⟨⟨hf, -⟩, ht⟩, hs⟩
    exact ⟨hf, ht, hs⟩
  · rintro ⟨hf, ht, hs⟩
    have hnull : t.isNull = false := by cases t <;> cases hs <;> rfl
    exact ⟨⟨⟨hf, by rw [hnull]; rfl⟩, ht⟩, hs⟩

end Node

end QualityBands
