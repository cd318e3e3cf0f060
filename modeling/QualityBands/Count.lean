/-!
Error counts.

A count is a whole number of a signed 64-bit word. Stepping up fails at the greatest count;
stepping down stays at the least one.
-/

namespace QualityBands

structure Count where
  val : Int
  lower : -9223372036854775808 ≤ val := by omega
  upper : val < 9223372036854775808 := by omega
  deriving DecidableEq

namespace Count

def greatest : Count where
  val := 9223372036854775807

@[ext] theorem ext {a b : Count} (h : a.val = b.val) : a = b := by
  cases a; cases b; simp_all

/-- The count with this value, if it is in range. -/
def ofInt? (n : Int) : Option Count :=
  if h : -9223372036854775808 ≤ n ∧ n < 9223372036854775808 then some ⟨n, h.1, h.2⟩ else none

/-- The count nearest to a whole number. -/
def clamp (n : Int) : Count where
  val := max (-9223372036854775808) (min 9223372036854775807 n)

/-- The next count, if there is one. -/
def next? (n : Count) : Option Count := ofInt? (n.val + 1)

/-- The count before, or the least count itself. -/
def previous (n : Count) : Count :=
  if h : -9223372036854775808 ≤ n.val - 1 then
    ⟨n.val - 1, h, Int.lt_of_le_of_lt (Int.sub_le_self _ (by omega)) n.upper⟩
  else n

def text (n : Count) : String := toString n.val

theorem ofInt?_val (n : Count) : ofInt? n.val = some n := by
  rw [ofInt?, dif_pos ⟨n.lower, n.upper⟩]

theorem ofInt?_eq_some_iff {n : Int} {c : Count} : ofInt? n = some c ↔ c.val = n := by
  constructor
  · intro h
    unfold ofInt? at h
    split at h
    · cases h; rfl
    · cases h
  · rintro rfl
    exact ofInt?_val c

theorem ofInt?_eq_none_iff {n : Int} :
    ofInt? n = none ↔ n < -9223372036854775808 ∨ 9223372036854775808 ≤ n := by
  unfold ofInt?
  split
  · simp only [reduceCtorEq, false_iff]
    omega
  · simp only [true_iff]
    omega

theorem val_clamp {n : Int} (hl : -9223372036854775808 ≤ n) (hu : n < 9223372036854775808) :
    (clamp n).val = n := by
  simp only [clamp]
  omega

theorem val_previous (n : Count) : n.previous.val = max (-9223372036854775808) (n.val - 1) := by
  unfold previous
  split
  · simp; omega
  · have := n.lower; omega

end Count

end QualityBands
