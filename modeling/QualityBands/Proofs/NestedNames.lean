import QualityBands.Proofs.Filling

/-!
Names that hold other names.

A name may hold at signs, and then the token of another name can stand in its token. The passes
go from the longest name to the shortest: a token is no larger than any of those that are looked
for before it, and a larger text does not stand in it. So the pass of its own name is the first
one that finds anything in a token.
-/

namespace QualityBands.Template

open Text

variable {replacements passes : List (String × String)} {name other pattern text value : String}

/-! ### Tokens in tokens -/

/-- A text stands in no other text of the same or a smaller size. -/
lemma eq_of_occurs (h : Occurs pattern text) (hs : text.utf8ByteSize ≤ pattern.utf8ByteSize) :
    pattern = text := by
  obtain ⟨front, back, ht⟩ := h
  have htext : String.ofList front ++ pattern ++ String.ofList back = text := by
    rw [← String.toList_inj]
    simpa using ht
  have hsize := congrArg String.utf8ByteSize htext
  simp only [String.utf8ByteSize_append] at hsize
  have hfront : String.ofList front = "" := String.utf8ByteSize_eq_zero_iff.mp (by omega)
  have hback : String.ofList back = "" := String.utf8ByteSize_eq_zero_iff.mp (by omega)
  rw [hfront, hback, String.empty_append, String.append_empty] at htext
  exact htext

lemma utf8ByteSize_token (name : String) :
    (token name).utf8ByteSize = name.utf8ByteSize + 4 := by
  have hd : delimiter.utf8ByteSize = 2 := by decide
  rw [token, String.utf8ByteSize_append, String.utf8ByteSize_append, hd]
  omega

lemma token_inj : token other = token name ↔ other = name := by
  simp [token]

/-- A token may stand in that of a longer name, but not in that of another name that is as long
or shorter. -/
lemma not_occurs_token (hne : other ≠ name) (hs : name.utf8ByteSize ≤ other.utf8ByteSize) :
    ¬ Occurs (token other) (token name) := by
  intro h
  have hsize : (token name).utf8ByteSize ≤ (token other).utf8ByteSize := by
    rw [utf8ByteSize_token, utf8ByteSize_token]
    omega
  exact hne (token_inj.mp (eq_of_occurs h hsize))

/-! ### Passes -/

/-- A pass that finds nothing changes nothing. -/
lemma replace_of_not_occurs (h : ¬ Occurs pattern text) (value : String) :
    Text.replace pattern value text = text := by
  have hmiss : ∀ u v, u ++ v = text.toList → v ≠ [] → ¬ pattern.toList <+: v ++ [] := by
    intro u v huv _ hp
    rw [List.append_nil] at hp
    exact h (hp.isInfix.trans (huv ▸ List.suffix_append u v).isInfix)
  rw [← String.toList_inj, toList_replace]
  simpa [replaced, replaceFrom] using replaced_append hmiss value.toList

lemma replace_self (h : pattern ≠ "") (value : String) :
    Text.replace pattern value pattern = value := by
  have hne : pattern.toList ≠ [] := mt String.toList_eq_nil_iff.mp h
  rw [← String.toList_inj, toList_replace]
  simpa [replaced, replaceFrom] using replaced_pattern_append hne value.toList []

lemma token_ne_empty (name : String) : token name ≠ "" := by
  intro h
  have hsize := congrArg String.utf8ByteSize h
  rw [utf8ByteSize_token, String.utf8ByteSize_empty] at hsize
  omega

/-- A text that holds no token passes through unchanged. -/
lemma foldl_replace_of_not_occurs (h : ∀ r ∈ passes, ¬ Occurs (token r.1) text) :
    passes.foldl (fun text r => Text.replace (token r.1) r.2 text) text = text := by
  induction passes with
  | nil => rfl
  | cons r passes ih =>
    obtain ⟨hr, hrest⟩ := List.forall_mem_cons.mp h
    rw [List.foldl_cons, replace_of_not_occurs hr, ih hrest]

/-- Passes that do not touch a token before its own pass, nor its value after it, give the
value. -/
lemma foldl_replace_token {front back : List (String × String)}
    (hf : ∀ r ∈ front, ¬ Occurs (token r.1) (token name))
    (hb : ∀ r ∈ back, ¬ Occurs (token r.1) value) :
    (front ++ (name, value) :: back).foldl
      (fun text r => Text.replace (token r.1) r.2 text) (token name) = value := by
  rw [List.foldl_append, foldl_replace_of_not_occurs hf, List.foldl_cons,
    replace_self (token_ne_empty name), foldl_replace_of_not_occurs hb]

/-! ### The order of the passes -/

lemma pairwise_longestFirst (replacements : List (String × String)) :
    (longestFirst replacements).Pairwise fun a b => b.1.utf8ByteSize ≤ a.1.utf8ByteSize := by
  have h := List.pairwise_mergeSort longer_trans longer_total replacements
  exact h.imp fun hab => of_decide_eq_true hab

/-- The pairs before one name in the order of the passes have other names that are not shorter. -/
lemma exists_passes (hd : (replacements.map (·.1)).Nodup) (hm : (name, value) ∈ replacements) :
    ∃ front back, longestFirst replacements = front ++ (name, value) :: back ∧
      ∀ r ∈ front, r.1 ≠ name ∧ name.utf8ByteSize ≤ r.1.utf8ByteSize := by
  have hperm : (longestFirst replacements).Perm replacements := List.mergeSort_perm _ _
  obtain ⟨front, back, hsplit⟩ := List.append_of_mem (hperm.mem_iff.mpr hm)
  have hnodup := (hperm.map (·.1)).nodup_iff.mpr hd
  have hsorted := pairwise_longestFirst replacements
  rw [hsplit] at hnodup hsorted
  rw [List.map_append, List.map_cons, List.nodup_append] at hnodup
  rw [List.pairwise_append] at hsorted
  refine ⟨front, back, hsplit, fun r hr => ⟨?_, ?_⟩⟩
  · exact hnodup.2.2 r.1 (List.mem_map_of_mem hr) name List.mem_cons_self
  · exact hsorted.2.2 r hr (name, value) List.mem_cons_self

/-- **The token of a name gives its value, whatever names stand in it.** Where names are
different and a value holds no token of them, the token of its name gives the value as it is, in
any order of the replacements. -/
theorem fill_token_of_nodup (hd : (replacements.map (·.1)).Nodup)
    (hm : (name, value) ∈ replacements)
    (hv : ∀ r ∈ replacements, ¬ Occurs (token r.1) value) :
    ∀ order : List (String × String), order.Perm replacements →
      fill (token name) order = value := by
  intro order hperm
  have hdistinct : (order.map (·.1)).Nodup := (hperm.map (·.1)).nodup_iff.mpr hd
  obtain ⟨front, back, hsplit, hfront⟩ := exists_passes hdistinct (hperm.mem_iff.mpr hm)
  have hbefore : ∀ r ∈ front, ¬ Occurs (token r.1) (token name) := by
    intro r hr
    obtain ⟨hne, hsize⟩ := hfront r hr
    exact not_occurs_token hne hsize
  have hafter : ∀ r ∈ back, ¬ Occurs (token r.1) value := by
    intro r hr
    have hmem : r ∈ longestFirst order := by
      rw [hsplit]
      exact List.mem_append_right _ (List.mem_cons_of_mem _ hr)
    exact hv r (hperm.mem_iff.mp (List.mem_mergeSort.mp hmem))
  calc fill (token name) order
      = (longestFirst order).foldl (fun text r => Text.replace (token r.1) r.2 text)
          (token name) := rfl
    _ = value := by rw [hsplit, foldl_replace_token hbefore hafter]

/-- One token begins another and is one end of it, one name is empty and one is an at sign; the
longest name comes last, and its value holds a token of no listed name. -/
def nestedNames : List (String × String) :=
  [("X", "short"), ("", "none"), ("Y", "last"), ("@", "at"), ("X@@Y", "@@Z@@ and @X@")]

theorem fill_token_of_nodup_nested :
    (nestedNames.map (·.1)).Nodup ∧ ("X@@Y", "@@Z@@ and @X@") ∈ nestedNames ∧
      (∀ r ∈ nestedNames, ¬ Occurs (token r.1) "@@Z@@ and @X@") ∧
      Occurs (token "X") (token "X@@Y") ∧ Occurs (token "Y") (token "X@@Y") ∧
      fill "@@X@@Y@@" nestedNames = "@@Z@@ and @X@" ∧
      fill "@@X@@Y@@" nestedNames.reverse = "@@Z@@ and @X@" := by
  have hd : (nestedNames.map (·.1)).Nodup := by decide +kernel
  have hm : ("X@@Y", "@@Z@@ and @X@") ∈ nestedNames := by decide +kernel
  have hv : ∀ r ∈ nestedNames, ¬ Occurs (token r.1) "@@Z@@ and @X@" := by decide +kernel
  have hfill := fill_token_of_nodup hd hm hv
  exact ⟨hd, hm, hv, by decide +kernel, by decide +kernel, hfill _ (List.Perm.refl _),
    hfill _ (List.reverse_perm _)⟩

end QualityBands.Template
