import Mathlib.Data.List.Basic
import Mathlib.Tactic.Lemma
import QualityBands.Proofs.Pieces
import QualityBands.Proofs.Trimming
import QualityBands.Rules.Percentage
import QualityBands.Rules.Reading

/-!
Texts without a delimiter.

Whatever is cut out of a clean text is clean, and so are all written numbers, which hold no at
sign.
-/

namespace QualityBands

open Text Template

/-! ### Parts and sums -/

/-- A text in which no token begins. -/
def Clean (text : String) : Prop := ¬ Occurs delimiter text

instance (text : String) : Decidable (Clean text) := inferInstanceAs (Decidable (¬ _))

lemma clean_of_not_mem {text : String} (h : '@' ∉ text.toList) : Clean text :=
  fun hi => h (hi.subset (by simp [delimiter]))

lemma Clean.of_infix {part text : String} (h : Clean text)
    (hp : part.toList <:+: text.toList) : Clean part :=
  fun hi => h (hi.trans hp)

/-- A delimiter does not come of two clean texts unless at signs meet where they do. -/
lemma not_infix_append {front back : List Char} (hf : ¬ ['@', '@'] <:+: front)
    (hb : ¬ ['@', '@'] <:+: back) (hh : '@' ∈ front → ∀ r, back ≠ '@' :: r) :
    ¬ ['@', '@'] <:+: front ++ back := by
  induction front with
  | nil => exact hb
  | cons c front ih =>
    rw [List.cons_append, List.infix_cons_iff]
    rintro (h | h)
    · rw [List.cons_prefix_cons] at h
      obtain ⟨rfl, h⟩ := h
      cases front with
      | nil =>
        obtain ⟨t, ht⟩ := h
        exact hh List.mem_cons_self t ht.symm
      | cons d front =>
        rw [List.cons_append, List.cons_prefix_cons] at h
        obtain ⟨rfl, -⟩ := h
        exact hf ⟨[], front, rfl⟩
    · exact ih (fun hi => hf (List.infix_cons hi))
        (fun hm => hh (List.mem_cons_of_mem _ hm)) h

lemma Clean.append {front back : String} (hf : Clean front) (hb : Clean back)
    (hh : '@' ∈ front.toList → ∀ r, back.toList ≠ '@' :: r) : Clean (front ++ back) := by
  rw [Clean, Occurs, String.toList_append]
  exact not_infix_append hf hb hh

lemma Clean.append_of_not_mem {front back : String} (hf : Clean front)
    (hb : '@' ∉ back.toList) : Clean (front ++ back) :=
  hf.append (clean_of_not_mem hb) fun _ r hr => hb (by simp [hr])

lemma Clean.append_after_not_mem {front back : String} (hf : '@' ∉ front.toList)
    (hb : Clean back) : Clean (front ++ back) :=
  (clean_of_not_mem hf).append hb fun hm => absurd hm hf

lemma Clean.append_between {front between back : String} (hf : Clean front)
    (hb : Clean back) (hne : between ≠ "") (hn : '@' ∉ between.toList) :
    Clean (front ++ (between ++ back)) := by
  refine hf.append (.append_after_not_mem hn hb) fun _ r hr => ?_
  obtain ⟨c, cs, hc⟩ := List.exists_cons_of_ne_nil (mt String.toList_eq_nil_iff.mp hne)
  rw [String.toList_append, hc, List.cons_append, List.cons.injEq] at hr
  exact hn (by simp [hc, hr.1])

/-! ### Numbers -/

lemma isDigit_toDigits {n : Nat} {c : Char} (h : c ∈ Nat.toDigits 10 n) : c.isDigit :=
  Nat.isDigit_of_mem_toDigits (by decide) (by decide) h

lemma not_mem_toDigits {n : Nat} : '@' ∉ Nat.toDigits 10 n := fun h => by
  simpa using isDigit_toDigits h

lemma not_mem_toString (n : Int) : '@' ∉ (toString n).toList := by
  rw [Int.toString_eq_repr, Int.repr_eq_if]
  split
  · rw [Nat.toList_repr]
    exact not_mem_toDigits
  · rw [String.toList_append, Nat.toList_repr]
    simpa using not_mem_toDigits

namespace Layout

lemma not_mem_zeros (n : Nat) : '@' ∉ zeros n := by
  simp [zeros]

lemma not_mem_integer (n : Int) : '@' ∉ integer n := by
  unfold integer
  split <;> simp [not_mem_toDigits]

lemma not_mem_placed {digits : List Char} (h : '@' ∉ digits) (point : Int) :
    '@' ∉ placed digits point := by
  unfold placed
  split_ifs <;> simp [h, not_mem_zeros, mt List.mem_of_mem_take h, mt List.mem_of_mem_drop h]

lemma not_mem_scientific {digits : List Char} (h : '@' ∉ digits) (plusSign : Bool) (point : Int) :
    '@' ∉ scientific plusSign digits point := by
  simp only [scientific, List.mem_append]
  rintro ((((h1 | h1) | h1) | h1) | h1)
  · exact h (List.mem_of_mem_take h1)
  · split at h1
    · simp at h1
    · rcases List.mem_cons.mp h1 with h2 | h2
      · simp at h2
      · exact h (List.mem_of_mem_drop h2)
  · simp at h1
  · split at h1 <;> simp at h1
  · exact not_mem_integer _ h1

lemma not_mem_decimal (layout : Layout) (d : Decimal) : '@' ∉ layout.decimal d := by
  simp only [decimal]
  split
  · exact not_mem_placed not_mem_toDigits _
  · split
    · exact not_mem_placed not_mem_toDigits _
    · exact not_mem_scientific not_mem_toDigits _ _

lemma not_mem_write {layout : Layout} (hn : '@' ∉ layout.nan.toList)
    (hp : '@' ∉ layout.infinity.toList) (hm : '@' ∉ layout.negativeInfinity.toList)
    (x : Binary64) : '@' ∉ (layout.write x).toList := by
  cases x with
  | nan => exact hn
  | number negative code =>
    simp only [write]
    split
    · split
      · exact hm
      · exact hp
    · cases negative <;> simp [not_mem_decimal]

end Layout

lemma clean_percentage (x : Binary64) : Clean (percentage x) :=
  clean_of_not_mem (Layout.not_mem_write (by decide) (by decide) (by decide) x)

lemma Number.clean_text (n : Number) : Clean n.text := by
  cases n with
  | integer n => exact clean_of_not_mem (not_mem_toString n)
  | float x => exact clean_of_not_mem (Layout.not_mem_write (by decide) (by decide) (by decide) x)

lemma Count.clean_text (n : Count) : Clean n.text := clean_of_not_mem (not_mem_toString n.val)

/-! ### Trimmed texts -/

lemma infix_of_trimmed (cs : List Char) : Text.trimmed cs <:+: cs := by
  obtain ⟨front, back, h, -⟩ := pads_trimmed cs
  exact ⟨front, back, h.symm⟩

lemma infix_of_cleanLabelChars (label : List Char) : Reading.cleanLabelChars label <:+: label := by
  simp only [Reading.cleanLabelChars]
  split
  · exact (infix_of_trimmed _).trans ((List.takeWhile_prefix _).isInfix.trans (infix_of_trimmed _))
  · exact infix_of_trimmed _

lemma Clean.cleanLabel {label : String} (h : Clean label) : Clean (Reading.cleanLabel label) :=
  h.of_infix (by simpa [Reading.cleanLabel] using infix_of_cleanLabelChars label.toList)

end QualityBands
