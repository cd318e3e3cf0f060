import Mathlib.Data.List.Basic
import Mathlib.Data.List.TakeWhile
import Mathlib.Tactic.Lemma
import QualityBands.Text.Blank

/-!
Trimming takes off the blanks at both ends.

What is left has only blanks around it and neither begins nor ends with one, and a text has just
one such part. So blanks that are put around a text make no difference.
-/

namespace QualityBands.Text

/-- A text of blanks and nothing else. -/
def AllBlank (cs : List Char) : Prop := ∀ c ∈ cs, isBlank c

instance (cs : List Char) : Decidable (AllBlank cs) :=
  decidable_of_iff (cs.all isBlank) List.all_eq_true

/-- A text that neither begins nor ends with a blank. -/
structure IsTrimmed (cs : List Char) : Prop where
  head : ∀ c, cs.head? = some c → isBlank c = false
  last : ∀ c, cs.getLast? = some c → isBlank c = false

instance (cs : List Char) : Decidable (IsTrimmed cs) :=
  decidable_of_iff (cs.head?.all (isBlank · = false) ∧ cs.getLast?.all (isBlank · = false)) (by
    simp only [Option.all_eq_true, decide_eq_true_eq]
    exact ⟨fun ⟨hh, hl⟩ => ⟨hh, hl⟩, fun h => ⟨h.head, h.last⟩⟩)

/-- A text that is a part with blanks around it. -/
def Pads (part cs : List Char) : Prop :=
  ∃ front back, cs = front ++ part ++ back ∧ AllBlank front ∧ AllBlank back

variable {cs part front back : List Char}

/-! ### Blanks -/

lemma allBlank_append : AllBlank (front ++ back) ↔ AllBlank front ∧ AllBlank back :=
  List.forall_mem_append

lemma Pads.trans {inner : List Char} (h : Pads inner part) (ho : Pads part cs) :
    Pads inner cs := by
  obtain ⟨f, b, rfl, hf, hb⟩ := h
  obtain ⟨f', b', rfl, hf', hb'⟩ := ho
  refine ⟨f' ++ f, b ++ b', by simp, ?_, ?_⟩
  · exact allBlank_append.mpr ⟨hf', hf⟩
  · exact allBlank_append.mpr ⟨hb, hb'⟩

/-! ### What trimming leaves -/

lemma pads_trimmed (cs : List Char) : Pads (trimmed cs) cs := by
  refine ⟨cs.takeWhile isBlank, ((trimStart cs).reverse.takeWhile isBlank).reverse, ?_, ?_, ?_⟩
  · have hend : trimStart cs =
        trimmed cs ++ ((trimStart cs).reverse.takeWhile isBlank).reverse := by
      rw [trimmed, trimEnd, ← List.reverse_append, List.takeWhile_append_dropWhile,
        List.reverse_reverse]
    rw [List.append_assoc, ← hend, trimStart, List.takeWhile_append_dropWhile]
  · intro c hc
    exact List.mem_takeWhile_imp hc
  · intro c hc
    exact List.mem_takeWhile_imp (List.mem_reverse.mp hc)

/-- A text that begins with no blank is trimmed at its end alone. -/
lemma exists_blanks (h : ∀ c, cs.head? = some c → isBlank c = false) :
    ∃ blanks, cs = trimmed cs ++ blanks ∧ AllBlank blanks := by
  obtain ⟨front, blanks, heq, hf, hb⟩ := pads_trimmed cs
  cases front with
  | nil => exact ⟨blanks, heq, hb⟩
  | cons c front =>
    have hc : isBlank c = false := h c (by rw [heq]; rfl)
    rw [hf c List.mem_cons_self] at hc
    cases hc

lemma head_trimStart {c : Char} (h : (trimStart cs).head? = some c) : isBlank c = false := by
  have hnot := List.head?_dropWhile_not isBlank cs
  rw [trimStart] at h
  rw [h] at hnot
  exact hnot

lemma trimEnd_prefix (cs : List Char) : trimEnd cs <+: cs := by
  rw [trimEnd, ← List.reverse_suffix, List.reverse_reverse]
  exact List.dropWhile_suffix _

lemma isTrimmed_trimmed (cs : List Char) : IsTrimmed (trimmed cs) := by
  constructor
  · intro c hc
    obtain ⟨rest, hrest⟩ := trimEnd_prefix (trimStart cs)
    have hhead : (trimStart cs).head? = some c := by
      rw [← hrest, List.head?_append, ← trimmed, hc]
      rfl
    exact head_trimStart hhead
  · intro c hc
    rw [trimmed, trimEnd, List.getLast?_reverse] at hc
    exact head_trimStart hc

/-- Blanks in front of a text that begins with none are passed over. -/
lemma trimStart_append (hf : AllBlank front) (hp : ∀ c, part.head? = some c → isBlank c = false) :
    trimStart (front ++ part) = part := by
  rw [trimStart, List.dropWhile_append_of_pos hf]
  cases part with
  | nil => rfl
  | cons c part => simp [hp c rfl]

lemma IsTrimmed.trimmed_eq (h : IsTrimmed part) (hp : Pads part cs) : trimmed cs = part := by
  obtain ⟨front, back, rfl, hf, hb⟩ := hp
  by_cases hne : part = []
  · subst hne
    have hall : AllBlank (front ++ [] ++ back) := by simp [allBlank_append, hf, hb]
    have hnil : trimStart (front ++ [] ++ back) = [] := List.dropWhile_eq_nil_iff.mpr hall
    rw [trimmed, hnil]
    rfl
  · have hstart : trimStart (front ++ part ++ back) = part ++ back := by
      rw [List.append_assoc]
      refine trimStart_append hf fun c hc => h.head c ?_
      rwa [List.head?_append_of_ne_nil _ hne] at hc
    have hend : trimStart (part ++ back).reverse = part.reverse := by
      rw [List.reverse_append]
      refine trimStart_append (fun c hc => hb c (List.mem_reverse.mp hc)) fun c hc => h.last c ?_
      rwa [List.head?_reverse] at hc
    rw [trimmed, hstart, trimEnd, ← trimStart, hend, List.reverse_reverse]

/-- **Trimming finds the one part that has blanks around it and none at its ends.** -/
theorem trimmed_eq_iff : trimmed cs = part ↔ IsTrimmed part ∧ Pads part cs := by
  constructor
  · rintro rfl
    exact ⟨isTrimmed_trimmed cs, pads_trimmed cs⟩
  · rintro ⟨h, hp⟩
    exact h.trimmed_eq hp

/-- Trimming does not see blanks around a text. -/
lemma Pads.trimmed_eq (h : Pads part cs) : trimmed cs = trimmed part :=
  (isTrimmed_trimmed part).trimmed_eq ((pads_trimmed part).trans h)

end QualityBands.Text
