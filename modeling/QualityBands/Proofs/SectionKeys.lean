import QualityBands.Proofs.Alike
import QualityBands.Proofs.NumberTexts
import QualityBands.Proofs.RoundTrip

/-!
Keys of dimensions and cards.

Sections are told apart by the texts of their keys. Different numbers have different texts, and
so have the truth values; but a text can be the text of a number or a truth value too. Rules
have a key twice exactly when a document names two sections so.
-/

namespace QualityBands

open Decimal

/-! ### Texts of numbers -/

namespace Binary64

lemma eq_infinity {negative : Bool} {code : Fin (top + 1)} (h : ¬ code.val < top) :
    number negative code = infinity negative := by
  have hc : code.val = top := Nat.le_antisymm (Nat.lt_succ_iff.mp code.isLt) (Nat.not_lt.mp h)
  rw [infinity]
  congr 1
  exact Fin.ext hc

end Binary64

/-- A layout that writes an exponent where whole numbers are not marked always leaves a mark. -/
lemma Layout.mark_mem_decimal {layout : Layout} {first last : Int}
    (hp : layout.positional = some (first, last)) (hl : last ≤ 16) (d : Decimal) :
    '.' ∈ layout.decimal d ∨ 'e' ∈ layout.decimal d := by
  have hd : ∀ c ∈ Nat.toDigits 10 d.digits, c.isDigit := fun _ hc => isDigit_toDigits hc
  have hne : Nat.toDigits 10 d.digits ≠ [] := Nat.toDigits_ne_nil
  have heq : layout.decimal d =
      if first ≤ d.point ∧ d.point ≤ last then placed (Nat.toDigits 10 d.digits) d.point
      else scientific layout.plusSign (Nat.toDigits 10 d.digits) d.point := by rw [decimal_eq, hp]
  rw [heq]
  split_ifs with h
  · obtain ⟨m, ht, -, hf⟩ := exists_mantissa_placed hd hne d.point
    have hfraction : m.fraction ≠ [] := fun h' => absurd (h.2.trans hl) (hf.mp h').2.not_ge
    rw [← ht, Mantissa.text_of_ne hfraction]
    simp
  · obtain ⟨m, ht, -⟩ := exists_mantissa_scientific hd hne layout.plusSign d.point
    rw [ht]
    simp

namespace Number

/-- Only what has digits reads back; the words for other floats are no numbers. -/
lemma number?_write_layout (x : Binary64) :
    number? (layout.write x) = some x ∨ number? (layout.write x) = none ∧
      x ∈ [.nan, .infinity false, .infinity true] := by
  cases x with
  | nan => exact .inr ⟨by decide +kernel, .head _⟩
  | number negative code =>
    by_cases hc : code.val < Binary64.top
    · exact .inl (Layout.number?_write layout hc)
    · rw [Binary64.eq_infinity hc]
      cases negative with
      | false => exact .inr ⟨by decide +kernel, .tail _ (.head _)⟩
      | true => exact .inr ⟨by decide +kernel, .tail _ (.tail _ (.head _))⟩

lemma write_injective {x y : Binary64} (h : layout.write x = layout.write y) : x = y := by
  rcases number?_write_layout x with hx | ⟨hx, hmx⟩
  · rcases number?_write_layout y with hy | ⟨hy, -⟩
    · rw [h, hy] at hx
      exact (Option.some.inj hx).symm
    · rw [h, hy] at hx
      cases hx
  · rcases number?_write_layout y with hy | ⟨-, hmy⟩
    · rw [h, hy] at hx
      cases hx
    · simp only [List.mem_cons, List.not_mem_nil, or_false] at hmx hmy
      rcases hmx with rfl | rfl | rfl <;> rcases hmy with rfl | rfl | rfl <;>
        first | rfl | exact absurd h (by decide +kernel)

lemma toString_injective {m n : Int} (h : toString m = toString n) : m = n := by
  have hw := congrArg wholeOfChars? (congrArg String.toList h)
  rw [toList_toString, toList_toString, wholeOfChars?_integer, wholeOfChars?_integer] at hw
  exact Option.some.inj hw

/-- A float is told from a whole number by its point or its exponent. -/
lemma mark_mem_write (x : Binary64) :
    '.' ∈ (layout.write x).toList ∨ 'e' ∈ (layout.write x).toList := by
  cases x with
  | nan => exact .inl (by decide)
  | number negative code =>
    by_cases hc : code.val < Binary64.top
    · rw [Layout.write_of_lt hc, List.mem_append, List.mem_append]
      refine (Layout.mark_mem_decimal rfl (by decide) _).imp .inr .inr
    · rw [Binary64.eq_infinity hc]
      cases negative <;> exact .inl (by decide +kernel)

lemma mark_not_mem_integer (n : Int) :
    '.' ∉ (toString n).toList ∧ 'e' ∉ (toString n).toList := by
  have hd : ∀ c : Char, c.isDigit = false → c ∉ Nat.toDigits 10 n.natAbs := fun c hc hm => by
    rw [isDigit_toDigits hm] at hc
    cases hc
  rw [toList_toString, Layout.integer]
  split <;> simp [hd '.' rfl, hd 'e' rfl]

/-- **Numbers of one text are the same.** -/
theorem same_of_text_eq {a b : Number} (h : a.text = b.text) : a.same b := by
  cases a with
  | integer m =>
    cases b with
    | integer n => exact decide_eq_true (toString_injective h)
    | float x =>
      have hm := mark_mem_write x
      obtain ⟨hpoint, hexponent⟩ := mark_not_mem_integer m
      rw [← show (integer m).text = layout.write x from h] at hm
      exact absurd hm (not_or.mpr ⟨hpoint, hexponent⟩)
  | float x =>
    cases b with
    | integer n =>
      have hm := mark_mem_write x
      obtain ⟨hpoint, hexponent⟩ := mark_not_mem_integer n
      rw [show layout.write x = (integer n).text from h] at hm
      exact absurd hm (not_or.mpr ⟨hpoint, hexponent⟩)
    | float y =>
      obtain rfl := write_injective h
      simp [same, Binary64.same]

end Number

lemma Number.text_ne_truth (n : Number) (b : Bool) :
    n.text ≠ if b then "true" else "false" := by
  intro h
  have hs := n.startsNumber_text
  rw [h] at hs
  cases b <;> exact absurd hs (by decide)

/-! ### Keys of one text -/

namespace Tree

/-- A text, and a number or a truth value that is written like it. -/
def Clash (a b : Tree) : Prop := ∃ s, a = text s ∧ b ≠ text s ∧ b.scalarText? = some s

/-- Two sections of a mapping have keys that clash. -/
def HasClash (entries : List (Tree × Tree)) : Prop :=
  ∃ a ∈ entries, ∃ b ∈ entries, a.2.isMapping ∧ b.2.isMapping ∧ Clash a.1 b.1

variable {a b : Tree} {s : String} {entries : List (Tree × Tree)}

/-- Numbers and truth values of one text are the same. -/
lemma same_of_ne_text (ha : a.scalarText? = some s) (hb : b.scalarText? = some s)
    (hna : a ≠ text s) (hnb : b ≠ text s) : same a b := by
  cases a with
  | text _ => cases ha; exact absurd rfl hna
  | number m =>
    cases b with
    | text _ => cases hb; exact absurd rfl hnb
    | number n => exact Number.same_of_text_eq (Option.some.inj (ha.trans hb.symm))
    | bool q => exact absurd (Option.some.inj (ha.trans hb.symm)) (m.text_ne_truth q)
    | _ => cases hb
  | bool p =>
    cases b with
    | text _ => cases hb; exact absurd rfl hnb
    | number n => exact absurd (Option.some.inj (hb.trans ha.symm)) (n.text_ne_truth p)
    | bool q =>
      have htext : (bool p).scalarText? = (bool q).scalarText? := ha.trans hb.symm
      cases p <;> cases q <;> first | rfl | exact absurd htext (by decide)
    | _ => cases hb
  | _ => cases ha

/-- Keys of one text are the same, or one of them is that text and the other is not. -/
lemma same_or_clash (ha : a.scalarText? = some s) (hb : b.scalarText? = some s) :
    same a b ∨ Clash a b ∨ Clash b a := by
  by_cases hna : a = text s
  · by_cases hnb : b = text s
    · left
      rw [hna, hnb, same, decide_eq_true_eq]
    · exact .inr (.inl ⟨s, hna, hnb, hb⟩)
  · by_cases hnb : b = text s
    · exact .inr (.inr ⟨s, hnb, hna, ha⟩)
    · exact .inl (same_of_ne_text ha hb hna hnb)

lemma keys_sections (entries : List (Tree × Tree)) : (sections entries).map (·.1) =
    (entries.filter (·.2.isMapping)).filterMap (·.1.scalarText?) := by
  rw [sections, named]
  induction entries with
  | nil => rfl
  | cons entry rest ih =>
    cases hk : entry.1.scalarText? <;> cases hm : entry.2.isMapping <;> simp [hk, hm, ih]

/-- **The keys of sections differ in their texts unless two of them clash.** -/
theorem nodup_sections_iff (ho : EachOnce entries) :
    ((sections entries).map (·.1)).Nodup ↔ ¬ HasClash entries := by
  rw [keys_sections, List.Nodup, List.pairwise_filterMap]
  constructor
  · rintro hp ⟨a, ha, b, hb, hma, hmb, s, hs, hne, ht⟩
    have hab : a ≠ b := fun h => hne (h ▸ hs)
    have hsymm : Std.Symm fun a b : Tree × Tree =>
        ∀ s, a.1.scalarText? = some s → ∀ t, b.1.scalarText? = some t → s ≠ t :=
      ⟨fun _ _ h s hs t ht => (h t ht s hs).symm⟩
    exact hp.forall (List.mem_filter.mpr ⟨ha, hma⟩) (List.mem_filter.mpr ⟨hb, hmb⟩) hab s
      (by rw [hs]; rfl) s ht rfl
  · intro hno
    have hsections : (entries.filter (·.2.isMapping)).Pairwise fun a b => ¬ same b.1 a.1 :=
      List.Pairwise.sublist List.filter_sublist ho
    refine hsections.imp_of_mem fun {a b} ha hb hsame s hs t ht hst => ?_
    rw [List.mem_filter] at ha hb
    rcases same_or_clash (hst ▸ ht) hs with h | h | h
    · exact hsame h
    · exact hno ⟨b, hb.1, a, ha.1, hb.2, ha.2, h⟩
    · exact hno ⟨a, ha.1, b, hb.1, ha.2, hb.2, h⟩

end Tree

/-! ### Keys of rules -/

/-- The keys that an outline has at a place, repeated ones as often as they are written. -/
def Outline.keysAt : List String → Outline → List String
  | [], .fields entries => entries.map (·.1)
  | key :: keys, .fields entries => ((entries.lookup key).map (keysAt keys)).getD []
  | _, _ => []

/-- Items act as a mapping unless keys clash. Then each key is written once, the lookup of a key
finds the only item that has it, and all items are kept by what is read back. -/
structure ActsAsMapping {α : Type} (clash : Prop) (key : α → String) (items back : List α)
    (written : List String) (lookup : String → Option α) : Prop where
  distinct : (items.map key).Nodup ↔ ¬ clash
  written : written.Nodup ↔ ¬ clash
  kept : back = items ↔ ¬ clash
  found : ¬ clash → ∀ k x, lookup k = some x ↔ x ∈ items ∧ key x = k

lemma actsAsMapping {α : Type} {clash : Prop} {key : α → String} {items : List α}
    (h : (items.map key).Nodup ↔ ¬ clash) :
    ActsAsMapping clash key items (collapsed key items) (items.map key)
      fun k => items.find? (key · = k) where
  distinct := h
  written := h
  kept := collapsed_eq_iff.trans h
  found hc _ _ := find?_eq_some_iff_of_nodup (h.mpr hc)

section
variable {document : Tree} {r : Reading}

/-- Items made from sections have the keys of the sections. -/
lemma map_key_sections {α : Type} (item : String → Node → α) (key : α → String)
    (hkey : ∀ k node, key (item k node) = k) (node : Node) :
    ((Reading.sections node).map fun (k, entry) => item k entry).map key =
      (Tree.sections node.rawEntries).map (·.1) := by
  rw [Node.sections_eq, List.map_map, List.map_map]
  exact List.map_congr_left fun entry _ => hkey _ _

lemma nodup_dimensions_iff (hk : document.keysDiffer) (h : Rules.read document = .ok r) :
    (r.rules.dimensions.map (·.key)).Nodup ↔
      ¬ Tree.HasClash (Place.dimensions document).rawEntries := by
  have ho := eachOnce_rawEntries hk ["dimension_scores", "dimensions"]
  refine Iff.trans ?_ (Tree.nodup_sections_iff ho)
  rcases (Reading.read_eq_ok_iff.mp h).2 with ⟨-, hr⟩ | ⟨-, hr⟩
  · rw [hr.dimensions, map_key_sections _ _ fun _ _ => rfl]
  · rw [hr.dimensions, map_key_sections _ _ fun _ _ => rfl]

lemma nodup_cards_iff (hk : document.keysDiffer) (h : Rules.read document = .ok r) :
    (r.rules.cards.map (·.key)).Nodup ↔
      ¬ (r.dialect = .legacy ∧ Tree.HasClash (Place.cards document).rawEntries) := by
  rcases (Reading.read_eq_ok_iff.mp h).2 with ⟨-, hr⟩ | ⟨-, hr⟩
  · rw [hr.dialect, hr.cards, map_key_completeCards]
    exact iff_of_true ((List.filter_sublist).nodup (by decide)) fun hc => nomatch hc.1
  · have ho := eachOnce_rawEntries hk ["error_distribution", "dimensions"]
    rw [hr.dialect, hr.cards, map_key_sections _ _ fun _ _ => rfl, and_iff_right rfl]
    exact Tree.nodup_sections_iff ho

end

/-- **Rules are mappings unless keys of one text clash.** Where a document has two dimensions, or
in the legacy dialect two cards, one of them under a text and the other under a number or truth
value of the same text, they have one key twice, and one of them is lost by reading back. In
all other documents each key is written once, and found, and kept. -/
theorem keys_distinct_unless_clash {document : Tree} {r : Reading} (hk : document.keysDiffer)
    (h : Rules.read document = .ok r) :
    ∃ b, Rules.read r.rules.outline.toTree = .ok b ∧
      ActsAsMapping (Tree.HasClash (Place.dimensions document).rawEntries) (·.key)
        r.rules.dimensions b.rules.dimensions
        (r.rules.outline.keysAt ["dimension_scores", "dimensions"]) r.rules.dimension? ∧
      ActsAsMapping (r.dialect = .legacy ∧ Tree.HasClash (Place.cards document).rawEntries)
        (·.key) r.rules.cards b.rules.cards
        (r.rules.outline.keysAt ["error_distribution", "dimensions"]) r.rules.card? := by
  refine ⟨_, r.rules.read_settled (ordered_templates h), ?_, ?_⟩
  · have hkeys : r.rules.outline.keysAt ["dimension_scores", "dimensions"] =
        r.rules.dimensions.map (·.key) := List.map_map
    rw [hkeys]
    exact actsAsMapping (nodup_dimensions_iff hk h)
  · have hkeys : r.rules.outline.keysAt ["error_distribution", "dimensions"] =
        r.rules.cards.map (·.key) := List.map_map
    rw [hkeys]
    exact actsAsMapping (nodup_cards_iff hk h)

/-- A legacy document with two dimensions under these keys. -/
def twoKeysDocument (first last : Tree) : Tree :=
  .mapping
    [(.text "dimension_scores", .mapping
       [(.text "thresholds", .mapping
          [(.text "excellent", .mapping [(.text "percentage", .number (.integer 95))]),
           (.text "acceptable", .mapping [(.text "min_percentage", .number (.integer 80))])]),
        (.text "dimensions", .mapping
          [(first, .mapping [(.text "variable", .text "first")]),
           (last, .mapping [(.text "variable", .text "last")])])]),
     (.text "error_distribution", .mapping
       [(.text "thresholds", .mapping
         [(.text "critical", .mapping [(.text "min_count", .number (.integer 3))]),
          (.text "high", .mapping [(.text "min_count", .number (.integer 2))]),
          (.text "medium", .mapping [(.text "min_count", .number (.integer 1))])])])]

/-- One as a whole number and one as a float are different keys also for the rules. -/
theorem keys_distinct_whole_and_float :
    ∃ r, Rules.read (twoKeysDocument (.number (.integer 1)) (.number (.float (.ofInt 1)))) =
        .ok r ∧ r.rules.dimensions.map (·.key) = ["1", "1.0"] ∧
      (r.rules.outline.keysAt ["dimension_scores", "dimensions"]).Nodup ∧
      (r.rules.dimension? "1").map (·.scoreVariable) = some "first" ∧
      ∃ b, Rules.read r.rules.outline.toTree = .ok b ∧
        b.rules.dimensions = r.rules.dimensions := by
  obtain ⟨r, h, hp⟩ := exists_ok_of_any
    (x := Rules.read (twoKeysDocument (.number (.integer 1)) (.number (.float (.ofInt 1)))))
    (p := fun r => r.rules.dimensions.map (·.key) = ["1", "1.0"] ∧
      (r.rules.dimension? "1").map (·.scoreVariable) = some "first") (by decide +kernel)
  obtain ⟨hkeys, hfirst⟩ := of_decide_eq_true hp
  obtain ⟨b, hb, hd, -⟩ := keys_distinct_unless_clash (by decide +kernel) h
  have hclash := hd.distinct.mp (hkeys ▸ by decide)
  exact ⟨r, h, hkeys, hd.written.mpr hclash, hfirst, b, hb, hd.kept.mpr hclash⟩

/-- One as a whole number and the text of it are different keys of a document but one key of
the rules. -/
theorem keys_clash_of_number_and_text :
    (twoKeysDocument (.number (.integer 1)) (.text "1")).keysDiffer ∧
    ∃ r, Rules.read (twoKeysDocument (.number (.integer 1)) (.text "1")) = .ok r ∧
      r.rules.dimensions.map (·.key) = ["1", "1"] ∧ ¬ (r.rules.dimensions.map (·.key)).Nodup ∧
      ∃ b, Rules.read r.rules.outline.toTree = .ok b ∧
        r.rules.dimensions.map (·.scoreVariable) = ["first", "last"] ∧
        b.rules.dimensions.map (·.scoreVariable) = ["last"] := by
  refine ⟨by decide +kernel, ?_⟩
  obtain ⟨r, h, hp⟩ := exists_ok_of_any
    (x := Rules.read (twoKeysDocument (.number (.integer 1)) (.text "1")))
    (p := fun r => r.rules.dimensions.map (·.key) = ["1", "1"] ∧
      r.rules.dimensions.map (·.scoreVariable) = ["first", "last"] ∧
      (collapsed (·.key) r.rules.dimensions).map (·.scoreVariable) = ["last"]) (by decide +kernel)
  obtain ⟨hkeys, hfirst, hlast⟩ := of_decide_eq_true hp
  exact ⟨r, h, hkeys, hkeys ▸ by decide, _, r.rules.read_settled (ordered_templates h), hfirst,
    hlast⟩

end QualityBands
