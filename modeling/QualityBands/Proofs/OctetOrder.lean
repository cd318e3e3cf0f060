import Mathlib.Data.String.Basic
import Mathlib.Tactic.Lemma
import QualityBands.Text.Octets

/-!
The order of texts is the order of their octets.

UTF-8 writes a greater character with a greater first octet, or with as many octets of which the
first that differs is greater. So texts are compared alike by their characters and by their
octets.
-/

namespace QualityBands.Text

open String (utf8EncodeChar)

variable {c d : Char} {s t : String}

lemma toNat_lt_of_valid (c : Char) : c.val.toNat < 0x110000 := by
  rcases c.valid with h | ⟨-, h⟩
  · omega
  · exact h

/-- Octets are compared from the front. -/
lemma octet_cons_lt {a b : Nat} {xs ys : List UInt8} (hb : b < 256) (hle : a ≤ b)
    (h : a = b → xs < ys) : UInt8.ofNat a :: xs < UInt8.ofNat b :: ys := by
  rw [List.cons_lt_cons_iff]
  rcases Nat.lt_or_eq_of_le hle with hlt | heq
  · left
    rw [UInt8.lt_iff_toNat_lt, UInt8.toNat_ofNat', UInt8.toNat_ofNat']
    omega
  · exact Or.inr ⟨congrArg UInt8.ofNat heq, h heq⟩

/-! Each octet but the first holds a digit of the character to the base 64. -/

section
variable {m n : Nat} (hlt : m < n) (xs ys : List UInt8)
include hlt

lemma lastOne_lt (h : m / 64 = n / 64) :
    UInt8.ofNat (m % 64 + 128) :: xs < UInt8.ofNat (n % 64 + 128) :: ys :=
  octet_cons_lt (by omega) (by omega) fun heq => absurd heq (by omega)

lemma lastTwo_lt (h : m / 4096 = n / 4096) :
    UInt8.ofNat (m / 64 % 64 + 128) :: UInt8.ofNat (m % 64 + 128) :: xs <
      UInt8.ofNat (n / 64 % 64 + 128) :: UInt8.ofNat (n % 64 + 128) :: ys :=
  octet_cons_lt (by omega) (by omega) fun heq => lastOne_lt hlt xs ys (by omega)

lemma lastThree_lt (h : m / 262144 = n / 262144) :
    UInt8.ofNat (m / 4096 % 64 + 128) :: UInt8.ofNat (m / 64 % 64 + 128) ::
        UInt8.ofNat (m % 64 + 128) :: xs <
      UInt8.ofNat (n / 4096 % 64 + 128) :: UInt8.ofNat (n / 64 % 64 + 128) ::
        UInt8.ofNat (n % 64 + 128) :: ys :=
  octet_cons_lt (by omega) (by omega) fun heq => lastTwo_lt hlt xs ys (by omega)

end

/-- Whatever follows, the octets of a greater character are greater. -/
lemma utf8EncodeChar_lt (h : c < d) (xs ys : List UInt8) :
    utf8EncodeChar c ++ xs < utf8EncodeChar d ++ ys := by
  have hlt : c.val.toNat < d.val.toNat := UInt32.lt_iff_toNat_lt.mp (Char.lt_def.mp h)
  have hd := toNat_lt_of_valid d
  dsimp only [utf8EncodeChar]
  generalize c.val.toNat = m at hlt ⊢
  generalize d.val.toNat = n at hlt hd ⊢
  split_ifs <;> simp only [List.cons_append, List.nil_append] <;> apply octet_cons_lt (by omega)
  -- the first octet decides unless both characters have equally many octets
  all_goals try omega
  · exact fun h => lastOne_lt hlt xs ys (by omega)
  · exact fun h => lastTwo_lt hlt xs ys (by omega)
  · exact fun h => lastThree_lt hlt xs ys (by omega)

namespace Octets

lemma ofString_eq (s : String) : ofString s = s.toList.flatMap utf8EncodeChar := by
  have h : s.toUTF8 = s.toList.utf8Encode := by
    conv_lhs => rw [← String.ofList_toList (s := s)]
    exact String.toByteArray_ofList
  rw [ofString, h, List.utf8Encode, List.data_toByteArray]

lemma flatMap_lt {cs ds : List Char} (h : cs < ds) :
    cs.flatMap utf8EncodeChar < ds.flatMap utf8EncodeChar := by
  induction cs generalizing ds with
  | nil =>
    cases ds with
    | nil => exact absurd h (List.not_lt_nil _)
    | cons d ds =>
      have hne : utf8EncodeChar d ++ ds.flatMap utf8EncodeChar ≠ [] := by
        have hsize := String.length_utf8EncodeChar d
        have hpos := d.utf8Size_pos
        intro hnil
        rw [(List.append_eq_nil_iff.mp hnil).1] at hsize
        simp at hsize
        omega
      obtain ⟨x, xs, hxs⟩ := List.exists_cons_of_ne_nil hne
      rw [List.flatMap_nil, List.flatMap_cons, hxs]
      exact List.nil_lt_cons x xs
  | cons c cs ih =>
    cases ds with
    | nil => exact absurd h (List.not_lt_nil _)
    | cons d ds =>
      rw [List.flatMap_cons, List.flatMap_cons]
      rcases List.cons_lt_cons_iff.mp h with hcd | ⟨rfl, hrest⟩
      · exact utf8EncodeChar_lt hcd _ _
      · exact List.append_left_lt (ih hrest)

/-- **A greater text has greater octets.** -/
theorem ofString_lt_ofString (h : s < t) : ofString s < ofString t := by
  rw [ofString_eq, ofString_eq]
  exact flatMap_lt (String.lt_iff.mp h)

end Octets

end QualityBands.Text
