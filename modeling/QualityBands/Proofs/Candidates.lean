import QualityBands.Proofs.Choices
import QualityBands.Proofs.DocumentOrder

/-!
Which candidate gives a text.

The keys of a list are tried in their order. A candidate is vacant when nothing stands under it
or what stands there is null, false, zero or empty; vacant ones are passed over. The first other
one settles the matter: if its value is a scalar without a tag, its text is the result and is
never empty, and otherwise there is none.
-/

namespace QualityBands

/-! ### Vacant candidates -/

/-- The values that count as none, in words that do not mention how they are tested. -/
inductive Tree.IsFalsy : Tree → Prop where
  | null {t : Tree} (h : t.isNull) : IsFalsy t
  | falsehood : IsFalsy (.bool false)
  | zero : IsFalsy (.number (.integer 0))
  | floatZero {negative : Bool} {code : Fin (Binary64.top + 1)} (h : code.val = 0) :
    IsFalsy (.number (.float (.number negative code)))
  | text : IsFalsy (.text "")
  | list : IsFalsy (.list [])
  | mapping : IsFalsy (.mapping [])

/-- Nothing is there, or a value that counts as none. -/
def Node.IsVacant (node : Node) : Prop := ∀ t, node.found = some t → t.IsFalsy

namespace Tree

variable {t : Tree}

lemma isFalsy_iff : t.IsFalsy ↔ t.isNull ∨ t.isTruthy = false := by
  constructor
  · intro h
    cases h with
    | null h => exact Or.inl h
    | zero => exact Or.inr (by simp [isTruthy, Number.isTruthy, Number.toBinary64,
        Binary64.isZero_ofInt.mpr])
    | floatZero h => exact Or.inr (by simp [isTruthy, Number.isTruthy, Number.toBinary64,
        Binary64.isZero, h])
    | _ => exact Or.inr rfl
  · rintro (h | h)
    · exact .null h
    · cases t with
      | null => exact .null rfl
      | bool b => cases h; exact .falsehood
      | text s =>
        obtain rfl : s = "" := by simpa [isTruthy] using h
        exact .text
      | list items =>
        obtain rfl : items = [] := by simpa [isTruthy] using h
        exact .list
      | mapping entries =>
        obtain rfl : entries = [] := by simpa [isTruthy] using h
        exact .mapping
      | tagged tag content => cases h
      | number n =>
        have hzero : n.toBinary64.isZero := by simpa [isTruthy, Number.isTruthy] using h
        cases n with
        | integer n =>
          obtain rfl := Binary64.isZero_ofInt.mp hzero
          exact .zero
        | float x =>
          cases x with
          | nan => cases hzero
          | number negative code => exact .floatZero (of_decide_eq_true hzero)

/-- A scalar that counts has a text, and this text is not empty. -/
lemma exists_chooses (hs : t.isScalar) (ht : ¬ t.IsFalsy) : ∃ s, t.Chooses s := by
  obtain ⟨s, hs⟩ := Option.isSome_iff_exists.mp (isScalar_iff.mp hs)
  rw [isFalsy_iff, not_or, Bool.not_eq_false] at ht
  exact ⟨s, chooses_iff.mpr ⟨ht.2, hs⟩⟩

lemma scalarText?_of_not_isScalar (h : ¬ t.isScalar) : t.scalarText? = none := by
  rw [isScalar_iff] at h
  simpa using h

end Tree

namespace Node

variable {node : Node} {candidates others rest : List String} {key : String} {t : Tree}

lemma any_isTruthy_iff : node.value?.any Tree.isTruthy ↔ ¬ node.IsVacant := by
  cases hf : node.found with
  | none => simp [IsVacant, value?, hf]
  | some t =>
    have hv : node.IsVacant ↔ t.IsFalsy := by simp [IsVacant, hf]
    rw [hv, Tree.isFalsy_iff, value?, hf]
    cases hn : t.isNull <;> simp [Option.filter, hn]

lemma value?_of_not_isFalsy (hf : node.found = some t) (ht : ¬ t.IsFalsy) :
    node.value? = some t := by
  rw [Tree.isFalsy_iff, not_or] at ht
  simp [value?, hf, ht.1]

lemma truthyText?_of_isVacant (h : node.IsVacant) : node.truthyText? = none := by
  have hany : ¬ node.value?.any Tree.isTruthy := by
    rw [any_isTruthy_iff, not_not]
    exact h
  cases hv : node.value? with
  | none => simp [truthyText?, hv]
  | some t => simp_all [truthyText?, Option.filter]

lemma truthyText?_of_not_isVacant (h : ¬ node.IsVacant) : node.truthyText? = node.text? := by
  have hany := any_isTruthy_iff.mpr h
  cases hv : node.value? with
  | none => simp [truthyText?, text?, hv]
  | some t => simp_all [truthyText?, text?, Option.filter]

/-! ### One candidate -/

lemma firstText_nil : node.firstText [] = "" := rfl

lemma firstText_cons_of_isVacant (h : (node.child key).IsVacant) (rest : List String) :
    node.firstText (key :: rest) = node.firstText rest := by
  have hany : (node.child key).value?.any Tree.isTruthy = false := by
    rw [← Bool.not_eq_true, any_isTruthy_iff, not_not]
    exact h
  simp only [firstText, List.map_cons, List.find?_cons, hany]

lemma firstText_cons_of_not_isVacant (h : ¬ (node.child key).IsVacant) (rest : List String) :
    node.firstText (key :: rest) = (node.child key).text?.getD "" := by
  have hany : (node.child key).value?.any Tree.isTruthy = true := any_isTruthy_iff.mpr h
  simp only [firstText, List.map_cons, List.find?_cons, hany, Option.bind_some]

/-- The same candidate in front changes nothing about whether two lists have one result. -/
lemma firstText_cons_congr (key : String) (h : node.firstText others = node.firstText candidates) :
    node.firstText (key :: others) = node.firstText (key :: candidates) := by
  by_cases hv : (node.child key).IsVacant
  · rw [firstText_cons_of_isVacant hv, firstText_cons_of_isVacant hv, h]
  · rw [firstText_cons_of_not_isVacant hv, firstText_cons_of_not_isVacant hv]

/-! ### A list of candidates -/

/-- The value of the first candidate that is not vacant. -/
inductive Takes (node : Node) : List String → Tree → Prop where
  | here {key : String} {rest : List String} {t : Tree} (hf : (node.child key).found = some t)
    (ht : ¬ t.IsFalsy) : Takes node (key :: rest) t
  | there {key : String} {rest : List String} {t : Tree} (hv : (node.child key).IsVacant)
    (h : Takes node rest t) : Takes node (key :: rest) t

lemma forall_isVacant_or_exists_takes (node : Node) (candidates : List String) :
    (∀ key ∈ candidates, (node.child key).IsVacant) ∨ ∃ t, node.Takes candidates t := by
  induction candidates with
  | nil => exact Or.inl (List.forall_mem_nil _)
  | cons key rest ih =>
    by_cases hv : (node.child key).IsVacant
    · rcases ih with h | ⟨t, h⟩
      · exact Or.inl (List.forall_mem_cons.mpr ⟨hv, h⟩)
      · exact Or.inr ⟨t, .there hv h⟩
    · unfold IsVacant at hv
      push Not at hv
      obtain ⟨t, hf, ht⟩ := hv
      exact Or.inr ⟨t, .here hf ht⟩

lemma firstText_of_isVacant (h : ∀ key ∈ candidates, (node.child key).IsVacant) :
    node.firstText candidates = "" := by
  induction candidates with
  | nil => exact firstText_nil
  | cons key rest ih =>
    obtain ⟨hkey, hrest⟩ := List.forall_mem_cons.mp h
    rw [firstText_cons_of_isVacant hkey, ih hrest]

lemma Takes.firstText_eq (h : node.Takes candidates t) :
    node.firstText candidates = t.scalarText?.getD "" := by
  induction h with
  | @here key rest t hf ht =>
    have hvacant : ¬ (node.child key).IsVacant := fun hv => ht (hv t hf)
    rw [firstText_cons_of_not_isVacant hvacant, text?, value?_of_not_isFalsy hf ht,
      Option.bind_some]
  | there hv _ ih => rw [firstText_cons_of_isVacant hv, ih]

lemma Takes.not_isFalsy (h : node.Takes candidates t) : ¬ t.IsFalsy := by
  induction h with
  | here _ ht => exact ht
  | there _ _ ih => exact ih

/-- The text that a scalar chooses is the result. -/
lemma Takes.exists_chooses (h : node.Takes candidates t) (hs : t.isScalar) :
    ∃ s, t.Chooses s ∧ s ≠ "" ∧ node.firstText candidates = s := by
  obtain ⟨s, hc⟩ := Tree.exists_chooses hs h.not_isFalsy
  have htext := (Tree.chooses_iff.mp hc).2
  refine ⟨s, hc, hc.ne_empty, ?_⟩
  rw [h.firstText_eq, htext, Option.getD_some]

lemma firstText_eq_empty_iff : node.firstText candidates = "" ↔
    (∀ key ∈ candidates, (node.child key).IsVacant) ∨
      ∃ t, node.Takes candidates t ∧ ¬ t.isScalar := by
  constructor
  · intro h
    rcases node.forall_isVacant_or_exists_takes candidates with hv | ⟨t, ht⟩
    · exact Or.inl hv
    · refine Or.inr ⟨t, ht, fun hs => ?_⟩
      obtain ⟨s, -, hne, heq⟩ := ht.exists_chooses hs
      exact hne (heq.symm.trans h)
  · rintro (hv | ⟨t, ht, hs⟩)
    · exact firstText_of_isVacant hv
    · rw [ht.firstText_eq, Tree.scalarText?_of_not_isScalar hs, Option.getD_none]

/-! ### Other lists with the same result -/

/-- Lists of candidates that differ by vacant ones only, which may stand anywhere in both. -/
inductive SameButVacant (node : Node) : List String → List String → Prop where
  | nil : SameButVacant node [] []
  | keep (key : String) {candidates others : List String}
    (h : SameButVacant node candidates others) :
    SameButVacant node (key :: candidates) (key :: others)
  | insert {key : String} {candidates others : List String} (hv : (node.child key).IsVacant)
    (h : SameButVacant node candidates others) : SameButVacant node candidates (key :: others)
  | remove {key : String} {candidates others : List String} (hv : (node.child key).IsVacant)
    (h : SameButVacant node candidates others) : SameButVacant node (key :: candidates) others

lemma SameButVacant.firstText_eq (h : node.SameButVacant candidates others) :
    node.firstText others = node.firstText candidates := by
  induction h with
  | nil => rfl
  | keep key _ ih => exact firstText_cons_congr key ih
  | insert hv _ ih => rw [firstText_cons_of_isVacant hv, ih]
  | remove hv _ ih => rw [firstText_cons_of_isVacant hv, ih]

/-- What comes behind a candidate that is not vacant is never tried. -/
lemma firstText_append_cons (front : List String) (h : ¬ (node.child key).IsVacant)
    (rest others : List String) :
    node.firstText (front ++ key :: others) = node.firstText (front ++ key :: rest) := by
  induction front with
  | nil =>
    rw [List.nil_append, List.nil_append, firstText_cons_of_not_isVacant h,
      firstText_cons_of_not_isVacant h]
  | cons other front ih => exact firstText_cons_congr other ih

lemma firstText_singleton (node : Node) (key : String) :
    node.firstText [key] = (node.child key).truthyText?.getD "" := by
  by_cases hv : (node.child key).IsVacant
  · rw [firstText_cons_of_isVacant hv, firstText_nil, truthyText?_of_isVacant hv,
      Option.getD_none]
  · rw [firstText_cons_of_not_isVacant hv, truthyText?_of_not_isVacant hv]

/-- **The first candidate that is not vacant gives the text.** The result is empty exactly when
all candidates are vacant or the first other one holds no scalar without a tag; otherwise it is
the text of that scalar, which is not empty. Vacant candidates do not matter anywhere in the
list, and nothing does behind the first other one. -/
theorem firstText_resolves (node : Node) (candidates : List String) :
    (node.firstText candidates = "" ↔ (∀ key ∈ candidates, (node.child key).IsVacant) ∨
      ∃ t, node.Takes candidates t ∧ ¬ t.isScalar) ∧
    (∀ t, node.Takes candidates t → t.isScalar →
      ∃ s, t.Chooses s ∧ s ≠ "" ∧ node.firstText candidates = s) ∧
    (∀ others, node.SameButVacant candidates others →
      node.firstText others = node.firstText candidates) ∧
    (∀ front key rest others, candidates = front ++ key :: rest →
      ¬ (node.child key).IsVacant →
      node.firstText (front ++ key :: others) = node.firstText candidates) ∧
    ∀ key, node.firstText [key] = (node.child key).truthyText?.getD "" := by
  refine ⟨firstText_eq_empty_iff, fun t ht hs => ht.exists_chooses hs, fun others h =>
    h.firstText_eq, ?_, node.firstText_singleton⟩
  rintro front key rest others rfl h
  exact firstText_append_cons front h rest others

/-- A mapping with vacant entries of several kinds, NaN, and a text with and without a tag. -/
def candidatesDocument : Tree :=
  .mapping
    [(.text "null", .tagged "!t" .null), (.text "no", .bool false),
     (.text "zero", .number (.float (.number true ⟨0, Nat.succ_pos _⟩))),
     (.text "empty", .list []), (.text "nan", .number (.float .nan)),
     (.text "tagged", .tagged "!t" (.text "a")), (.text "plain", .text "b")]

theorem firstText_resolves_sample :
    (root candidatesDocument).firstText
        ["absent", "null", "no", "zero", "empty", "nan", "plain"] = ".nan" ∧
      (root candidatesDocument).firstText ["absent", "nan", "null", "tagged"] = ".nan" ∧
      (root candidatesDocument).firstText ["empty", "tagged", "plain"] = "" := by
  have habsent : ((root candidatesDocument).child "absent").IsVacant := by rintro t ⟨⟩
  have hnull : ((root candidatesDocument).child "null").IsVacant := by
    rintro t ⟨⟩
    exact .null rfl
  have hno : ((root candidatesDocument).child "no").IsVacant := by
    rintro t ⟨⟩
    exact .falsehood
  have hzero : ((root candidatesDocument).child "zero").IsVacant := by
    rintro t ⟨⟩
    exact .floatZero rfl
  have hempty : ((root candidatesDocument).child "empty").IsVacant := by
    rintro t ⟨⟩
    exact .list
  have hnan : ¬ (Tree.number (.float .nan)).IsFalsy := by
    rw [Tree.isFalsy_iff]
    decide
  have htagged : ¬ (Tree.tagged "!t" (.text "a")).IsFalsy := by
    rw [Tree.isFalsy_iff]
    decide
  have htakes : (root candidatesDocument).Takes
      ["absent", "null", "no", "zero", "empty", "nan", "plain"] (.number (.float .nan)) :=
    .there habsent (.there hnull (.there hno (.there hzero (.there hempty (.here rfl hnan)))))
  have hstops : (root candidatesDocument).Takes ["empty", "tagged", "plain"]
      (.tagged "!t" (.text "a")) := .there hempty (.here rfl htagged)
  have hsame : (root candidatesDocument).SameButVacant
      ["absent", "null", "no", "zero", "empty", "nan", "plain"] ["absent", "nan", "plain"] :=
    .keep _ (.remove hnull (.remove hno (.remove hzero (.remove hempty
      (.keep _ (.keep _ .nil))))))
  obtain ⟨-, htext, hvacant, -⟩ := firstText_resolves (root candidatesDocument)
    ["absent", "null", "no", "zero", "empty", "nan", "plain"]
  obtain ⟨s, hc, -, hfirst⟩ := htext _ htakes rfl
  cases hc
  refine ⟨hfirst, ?_, ?_⟩
  · obtain ⟨-, -, -, hbehind, -⟩ := firstText_resolves (root candidatesDocument)
      ["absent", "nan", "plain"]
    have hkey : ¬ ((root candidatesDocument).child "nan").IsVacant := fun h => hnan (h _ rfl)
    exact (hbehind ["absent"] "nan" ["plain"] ["null", "tagged"] rfl hkey).trans
      ((hvacant _ hsame).trans hfirst)
  · exact (firstText_resolves (root candidatesDocument) ["empty", "tagged", "plain"]).1.mpr
      (Or.inr ⟨_, hstops, Bool.false_ne_true⟩)

end Node

end QualityBands
