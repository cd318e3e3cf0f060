import QualityBands.Proofs.Pieces

/-!
Filling a template is replacing all its references at once.

Filling runs over the text once for each name. In a well-separated template with clean values
no pass finds anything but the references to its own name: a hit would have to begin at two at
signs, and these stand only around names, of which the pass can match none but its own.
-/

namespace QualityBands.Text

lemma replaced_cons_of_miss {pattern : List Char} {c : Char} {rest : List Char}
    (h : ¬ pattern <+: c :: rest) (value : List Char) :
    replaced pattern value (c :: rest) = c :: replaced pattern value rest := by
  have hp : pattern.isPrefixOf (c :: rest) = false := by
    rwa [← Bool.not_eq_true, List.isPrefixOf_iff_prefix]
  simp [replaced, replaceFrom, hp]

lemma replaced_pattern_append {pattern : List Char} (h : pattern ≠ []) (value rest : List Char) :
    replaced pattern value (pattern ++ rest) = value ++ replaced pattern value rest := by
  obtain ⟨c, cs, rfl⟩ := List.exists_cons_of_ne_nil h
  have hp : (c :: cs).isPrefixOf (c :: (cs ++ rest)) = true :=
    List.isPrefixOf_iff_prefix.mpr (List.prefix_append (c :: cs) rest)
  rw [replaced, List.cons_append, replaceFrom, if_pos hp, replaceFrom_eq_drop]
  simp

/-- A text in which no occurrence begins is passed over. -/
lemma replaced_append {pattern text rest : List Char}
    (h : ∀ u v, u ++ v = text → v ≠ [] → ¬ pattern <+: v ++ rest) (value : List Char) :
    replaced pattern value (text ++ rest) = text ++ replaced pattern value rest := by
  induction text with
  | nil => rfl
  | cons c text ih =>
    have hc : ¬ pattern <+: c :: (text ++ rest) := h [] (c :: text) rfl (by simp)
    rw [List.cons_append, replaced_cons_of_miss hc, ih, List.cons_append]
    intro u v huv hv
    exact h (c :: u) v (by rw [List.cons_append, huv]) hv

end QualityBands.Text

namespace QualityBands.Template

open Text

variable {names : List String} {pieces : List Piece} {P Q : List (String × String)}

/-! ### What stands behind a reference -/

/-- A text that makes no token together with two at signs before it. -/
structure Closed (names : List String) (rest : List Char) : Prop where
  head : ∀ r, rest ≠ '@' :: r
  noName : ∀ name ∈ names, ¬ name.toList ++ ['@', '@'] <+: rest

lemma closed_of_not_mem {rest : List Char} (h : '@' ∉ rest) : Closed names rest where
  head r hr := h (by simp [hr])
  noName name _ hp := h (hp.subset (by simp))

lemma closed_append {run rest : List Char} {c : Char} (ha : '@' ∉ run) (hc : c ∈ run)
    (hn : ∀ name ∈ names, c ∉ name.toList) : Closed names (run ++ rest) := by
  refine ⟨fun r h => ?_, fun name hm h => ?_⟩
  · obtain ⟨a, run, rfl⟩ := List.exists_cons_of_ne_nil (List.ne_nil_of_mem hc)
    rw [List.cons_append, List.cons.injEq] at h
    exact ha (h.1 ▸ List.mem_cons_self)
  · rcases List.prefix_or_prefix_of_prefix h (List.prefix_append run rest) with h1 | h1
    · exact ha (h1.subset (by simp))
    · rcases List.mem_append.mp (h1.subset hc) with h2 | h2
      · exact hn name hm h2
      · obtain rfl : c = '@' := by simpa using h2
        exact ha hc

/-- A filled template as characters. -/
def chars (value? : String → Option String) (pieces : List Piece) : List Char :=
  pieces.flatMap fun piece => (piece.filled value?).toList

lemma toList_filled {value? : String → Option String} :
    (filled value? pieces).toList = chars value? pieces := by
  simp [filled, chars, List.flatMap_map]

lemma not_mem_chars {value? : String → Option String} (hl : ∀ piece ∈ pieces, piece.isLiteral)
    (h : ∀ piece ∈ pieces, piece.WellFormed) :
    '@' ∉ chars value? pieces := by
  intro hm
  obtain ⟨piece, hp, hc⟩ := List.mem_flatMap.mp hm
  cases piece with
  | literal text => exact h _ hp hc
  | reference name => cases hl _ hp

lemma WellSeparated.closed {name : String} (h : WellSeparated names (.reference name :: pieces))
    {value? : String → Option String} : Closed names (chars value? pieces) := by
  rcases exists_first_reference pieces with hl | ⟨between, second, after, rfl, hl⟩
  · exact closed_of_not_mem (not_mem_chars hl h.tail.wellFormed)
  · obtain ⟨piece, hp, hf⟩ := h.apart [] name between second after rfl hl
    cases piece with
    | reference other => exact hf.elim
    | literal text =>
      obtain ⟨c, hc, hn⟩ := hf
      have hw : ∀ piece ∈ between, piece.WellFormed := fun piece hp =>
        h.tail.wellFormed piece (List.mem_append_left _ hp)
      rw [chars, List.flatMap_append]
      exact closed_append (not_mem_chars hl hw) (List.mem_flatMap.mpr ⟨_, hp, hc⟩) hn

/-! ### One pass -/

section
variable {name other : String} {text rest : List Char}

/-- A text without at signs is passed over. -/
lemma replaced_literal (h : '@' ∉ text) (value : List Char) :
    replaced (token name).toList value (text ++ rest) =
      text ++ replaced (token name).toList value rest := by
  refine replaced_append (fun u v huv hne hp => h ?_) value
  obtain ⟨a, v, rfl⟩ := List.exists_cons_of_ne_nil hne
  rw [toList_token, List.cons_append, List.cons_prefix_cons] at hp
  rw [← huv, hp.1]
  simp

/-- A value without two at signs in a row is passed over when no at sign follows it. -/
lemma replaced_value (hv : ¬ ['@', '@'] <:+: text) (hr : ∀ r, rest ≠ '@' :: r)
    (value : List Char) :
    replaced (token name).toList value (text ++ rest) =
      text ++ replaced (token name).toList value rest := by
  refine replaced_append (fun u v huv hne h => ?_) value
  rw [toList_token] at h
  obtain ⟨a, v, rfl⟩ := List.exists_cons_of_ne_nil hne
  rw [List.cons_append, List.cons_prefix_cons] at h
  obtain ⟨rfl, h⟩ := h
  cases v with
  | nil =>
    obtain ⟨t, ht⟩ := h
    exact hr _ ht.symm
  | cons b v =>
    rw [List.cons_append, List.cons_prefix_cons] at h
    obtain ⟨rfl, -⟩ := h
    exact hv ⟨u, v, by simpa using huv⟩

/-- A token of another name is passed over when what follows cannot go on a token. -/
lemma replaced_token_of_ne (hn : IsName name) (ho : IsName other) (hne : other ≠ name)
    (hname : name ∈ names) (hc : Closed names rest) (value : List Char) :
    replaced (token name).toList value ((token other).toList ++ rest) =
      (token other).toList ++ replaced (token name).toList value rest := by
  have opening : ¬ (token name).toList <+: (token other).toList ++ rest := by
    simp only [toList_token, List.cons_append, List.cons_prefix_cons, true_and]
    rintro ⟨t, ht⟩
    have h := congrArg (List.takeWhile (· ≠ '@')) ht
    simp only [List.append_assoc, List.cons_append, takeWhile_ne hn.2,
      takeWhile_ne ho.2] at h
    exact hne (String.toList_inj.mp h.symm)
  have inside : ¬ (token name).toList <+: '@' :: (other.toList ++ '@' :: '@' :: rest) := by
    obtain ⟨c, cs, hcs⟩ := List.exists_cons_of_ne_nil (mt String.toList_eq_nil_iff.mp ho.1)
    rw [toList_token, hcs, List.cons_prefix_cons, List.cons_append, List.cons_prefix_cons]
    rintro ⟨-, rfl, -⟩
    exact ho.2 (by simp [hcs])
  have closing : ¬ (token name).toList <+: '@' :: '@' :: rest := by
    rw [toList_token, List.cons_prefix_cons, List.cons_prefix_cons]
    exact fun h => hc.noName name hname h.2.2
  have last : ¬ (token name).toList <+: '@' :: rest := by
    rw [toList_token, List.cons_prefix_cons]
    rintro ⟨-, t, ht⟩
    exact hc.head _ ht.symm
  rw [toList_token other] at opening ⊢
  simp only [List.cons_append, List.append_assoc, List.nil_append] at opening ⊢
  rw [replaced_cons_of_miss opening, replaced_cons_of_miss inside,
    replaced_literal ho.2, replaced_cons_of_miss closing, replaced_cons_of_miss last]

end

/-- The values of the references of a template have no delimiter in them. -/
def CleanValues (P : List (String × String)) (pieces : List Piece) : Prop :=
  ∀ name value, .reference name ∈ pieces → P.lookup name = some value →
    ¬ Occurs delimiter value

lemma filled_reference_append (r : String × String) (other : String) :
    Piece.filled (List.lookup · (P ++ [r])) (.reference other) =
      (P.lookup other).getD (if other = r.1 then r.2 else token other) := by
  obtain ⟨name, value⟩ := r
  rw [Piece.filled, List.lookup_append, List.lookup_singleton]
  cases P.lookup other <;> simp [apply_ite (Option.getD · (token other))]

/-- One pass replaces the references to one name and nothing else. -/
lemma replaced_chars {r : String × String} (hr : IsName r.1) (hmem : r.1 ∈ names)
    (hv : CleanValues P pieces) (h : WellSeparated names pieces) :
    replaced (token r.1).toList r.2.toList (chars (List.lookup · P) pieces) =
      chars (List.lookup · (P ++ [r])) pieces := by
  induction pieces with
  | nil => rfl
  | cons piece pieces ih =>
    have ih := ih (fun name value hn => hv name value (List.mem_cons_of_mem _ hn)) h.tail
    simp only [chars, List.flatMap_cons] at ih ⊢
    cases piece with
    | literal text =>
      have hw : '@' ∉ text.toList := h.wellFormed _ List.mem_cons_self
      rw [Piece.filled, replaced_literal hw, ih, Piece.filled]
    | reference other =>
      have hc : Closed names (chars (List.lookup · P) pieces) := h.closed
      have ho : IsName other := h.wellFormed _ List.mem_cons_self
      rw [filled_reference_append, ← ih, Piece.filled]
      cases hl : P.lookup other with
      | some value => exact replaced_value (hv other value (by simp) hl) hc.head _
      | none =>
        by_cases hne : other = r.1
        · subst hne
          simp only [Option.getD_none, if_true]
          exact replaced_pattern_append (by simp) _ _
        · simp only [Option.getD_none, if_neg hne]
          exact replaced_token_of_ne hr ho hne hmem hc _

/-! ### All passes -/

/-- The text between two passes is the template filled from the pairs used so far. -/
lemma foldl_replace (hQ : ∀ r ∈ Q, IsName r.1 ∧ r.1 ∈ names) (hv : CleanValues (P ++ Q) pieces)
    (h : WellSeparated names pieces) :
    Q.foldl (fun text r => Text.replace (token r.1) r.2 text) (filled (List.lookup · P) pieces) =
      filled (List.lookup · (P ++ Q)) pieces := by
  -- the pairs used so far grow at their end, as the first of a name is the one that counts
  induction Q generalizing P with
  | nil => simp
  | cons r Q ih =>
    obtain ⟨hr, hmem⟩ := hQ r (by simp)
    have hP : CleanValues P pieces := fun name value hn hl =>
      hv name value hn (by rw [List.lookup_append, hl, Option.some_or])
    have hstep : Text.replace (token r.1) r.2 (filled (List.lookup · P) pieces) =
        filled (List.lookup · (P ++ [r])) pieces := by
      rw [← String.toList_inj, toList_replace, toList_filled, toList_filled]
      exact replaced_chars hr hmem hP h
    rw [List.append_cons] at hv ⊢
    rw [List.foldl_cons, hstep, ih (fun r hm => hQ r (List.mem_cons_of_mem _ hm)) hv]

/-! ### The order of the passes -/

lemma longer_trans (a b c : String × String) (hab : decide (b.1.utf8ByteSize ≤ a.1.utf8ByteSize))
    (hbc : decide (c.1.utf8ByteSize ≤ b.1.utf8ByteSize)) :
    decide (c.1.utf8ByteSize ≤ a.1.utf8ByteSize) := by
  simp only [decide_eq_true_eq] at hab hbc ⊢
  omega

lemma longer_total (a b : String × String) : decide (b.1.utf8ByteSize ≤ a.1.utf8ByteSize) ||
    decide (a.1.utf8ByteSize ≤ b.1.utf8ByteSize) := by
  simp only [Bool.or_eq_true, decide_eq_true_eq]
  omega

/-- Sorting by length leaves the pairs of one name in their order. -/
lemma filter_longestFirst (replacements : List (String × String)) (name : String) :
    (longestFirst replacements).filter (·.1 = name) = replacements.filter (·.1 = name) := by
  have hp : (replacements.filter (·.1 = name)).Pairwise
      fun a b => decide (b.1.utf8ByteSize ≤ a.1.utf8ByteSize) := by
    refine List.pairwise_of_forall_mem_list fun a ha b hb => ?_
    simp_all
  have hs : (replacements.filter (·.1 = name)).Sublist (longestFirst replacements) :=
    List.sublist_mergeSort longer_trans longer_total hp List.filter_sublist
  have hperm := (List.mergeSort_perm replacements
    fun a b => b.1.utf8ByteSize ≤ a.1.utf8ByteSize).filter (·.1 = name)
  have hsub : (replacements.filter (·.1 = name)).Sublist
      ((longestFirst replacements).filter (·.1 = name)) := by
    simpa using hs.filter (·.1 = name)
  exact (hsub.eq_of_length hperm.length_eq.symm).symm

lemma lookup_eq_head?_filter (replacements : List (String × String)) (name : String) :
    replacements.lookup name = ((replacements.filter (·.1 = name)).head?).map (·.2) := by
  induction replacements with
  | nil => rfl
  | cons r replacements ih =>
    rw [List.lookup_cons, ih, List.filter_cons]
    by_cases h : r.1 = name
    · simp [h]
    · rw [beq_false_of_ne (Ne.symm h), if_neg (by simpa using h)]

lemma lookup_congr {name : String}
    (h : P.filter (·.1 = name) = Q.filter (·.1 = name)) : P.lookup name = Q.lookup name := by
  rw [lookup_eq_head?_filter, h, ← lookup_eq_head?_filter]

lemma source_eq_filled (pieces : List Piece) : source pieces = filled (List.lookup · []) pieces :=
  congrArg String.join <| List.map_congr_left fun piece _ => by cases piece <;> rfl

/-- A well-separated template is filled as a whole, if the values that go into it are clean. -/
lemma fill_source {replacements : List (String × String)}
    (hn : ∀ r ∈ replacements, IsName r.1) (hv : CleanValues replacements pieces)
    (h : WellSeparated (replacements.map (·.1)) pieces) :
    fill (source pieces) replacements = filled (List.lookup · replacements) pieces := by
  have hl : (List.lookup · (longestFirst replacements)) = (List.lookup · replacements) :=
    funext fun name => lookup_congr (filter_longestFirst replacements name)
  have hmem : ∀ r ∈ longestFirst replacements, r ∈ replacements := fun r hr =>
    List.mem_mergeSort.mp hr
  have hfold := foldl_replace (P := []) (Q := longestFirst replacements)
    (fun r hr => ⟨hn r (hmem r hr), List.mem_map_of_mem (hmem r hr)⟩)
    (fun name value hr hs => hv name value hr ((congrFun hl name).symm.trans hs)) h
  rw [fill, source_eq_filled, ← hl]
  exact hfold

/-- A template that is one token gives the value of its name. -/
lemma fill_token {replacements : List (String × String)} {name value : String}
    (hn : ∀ r ∈ replacements, IsName r.1) (hl : replacements.lookup name = some value)
    (hv : ¬ Occurs delimiter value) : fill (token name) replacements = value := by
  have hname : IsName name := by
    obtain ⟨front, back, rfl, -⟩ := List.lookup_eq_some_iff.mp hl
    exact hn (name, value) (by simp)
  have hclean : CleanValues replacements [.reference name] := by
    rintro other v hm hs
    obtain rfl : other = name := by simpa using hm
    rw [hl] at hs
    cases hs
    exact hv
  have hsep : WellSeparated (replacements.map (·.1)) [.reference name] :=
    wellSeparated_of_fenced (List.forall_mem_singleton.mpr hname) (by simp [fenced])
  have h := fill_source hn hclean hsep
  simpa [source, filled, Piece.source, Piece.filled, hl] using h

/-- **Filling is simultaneous.** Each reference of a well-separated template gives way to the
first value of its name, and nothing else changes; pairs of different names can come in any
order. -/
theorem fill_simultaneous {replacements : List (String × String)}
    (hn : ∀ r ∈ replacements, IsName r.1) (hv : ∀ r ∈ replacements, ¬ Occurs delimiter r.2)
    (h : WellSeparated (replacements.map (·.1)) pieces) :
    fill (source pieces) replacements = filled (List.lookup · replacements) pieces ∧
      ∀ others : List (String × String),
        (∀ name, others.filter (·.1 = name) = replacements.filter (·.1 = name)) →
        fill (source pieces) others = fill (source pieces) replacements := by
  have hclean : CleanValues replacements pieces := fun name value _ hl => by
    obtain ⟨front, back, rfl, -⟩ := List.lookup_eq_some_iff.mp hl
    exact hv (name, value) (by simp)
  refine ⟨fill_source hn hclean h, fun others ho => ?_⟩
  have hmem : ∀ r ∈ others, r ∈ replacements := fun r hr => by
    have : r ∈ replacements.filter (·.1 = r.1) := by simp [← ho, hr]
    exact List.mem_of_mem_filter this
  have hl : (List.lookup · others) = (List.lookup · replacements) :=
    funext fun name => lookup_congr (ho name)
  rw [fill_source hn hclean h, ← hl]
  refine fill_source (fun r hr => hn r (hmem r hr)) (fun name value hr hs => ?_) (h.mono ?_)
  · exact hclean name value hr ((congrFun hl name).symm.trans hs)
  · intro name hname
    obtain ⟨r, hr, rfl⟩ := List.mem_map.mp hname
    exact List.mem_map_of_mem (hmem r hr)

/-- Values with an at sign or the name of a token, a name given twice and one given nowhere. -/
theorem fill_simultaneous_sample :
    let replacements := [("A", "<@BC@>"), ("BC", "A"), ("A", "twice")]
    let pieces : List Piece :=
      [.reference "A", .literal " - ", .reference "X", .literal "", .literal "; ",
       .reference "BC"]
    (∀ r ∈ replacements, IsName r.1) ∧ (∀ r ∈ replacements, ¬ Occurs delimiter r.2) ∧
      WellSeparated (replacements.map (·.1)) pieces ∧
      source pieces = "@@A@@ - @@X@@; @@BC@@" ∧
      fill (source pieces) replacements = "<@BC@> - @@X@@; A" := by
  have hn : ∀ r ∈ [("A", "<@BC@>"), ("BC", "A"), ("A", "twice")], IsName r.1 := by
    decide +kernel
  have hv : ∀ r ∈ [("A", "<@BC@>"), ("BC", "A"), ("A", "twice")], ¬ Occurs delimiter r.2 := by
    decide +kernel
  have h : WellSeparated ["A", "BC", "A"]
      [.reference "A", .literal " - ", .reference "X", .literal "", .literal "; ",
       .reference "BC"] := wellSeparated_of_fenced (by decide +kernel) (by decide +kernel)
  exact ⟨hn, hv, h, by decide +kernel, (fill_simultaneous hn hv h).1.trans (by decide +kernel)⟩

end QualityBands.Template
