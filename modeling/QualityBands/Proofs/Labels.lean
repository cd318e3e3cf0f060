import QualityBands.Proofs.Pieces
import QualityBands.Proofs.ReportCards

/-!
Labels without their gloss.

A label may end in a gloss, which begins at its first parenthesis. Cleaning takes off the blanks
around a label, and then the gloss with the blanks before it. What is left is the front of the
label and has no gloss, so cleaning finds nothing more to take off.
-/

namespace QualityBands

open Text

/-! ### Glosses -/

/-- A text that has an opening parenthesis and ends with a closing one. -/
structure EndsInGloss (cs : List Char) : Prop where
  opening : '(' ∈ cs
  closing : cs.getLast? = some ')'

instance (cs : List Char) : Decidable (EndsInGloss cs) :=
  decidable_of_iff ('(' ∈ cs ∧ cs.getLast? = some ')')
    ⟨fun ⟨ho, hc⟩ => ⟨ho, hc⟩, fun h => ⟨h.opening, h.closing⟩⟩

/-- What is left of a text when its gloss is taken off, which is all of it if there is none. -/
structure Unglossed (text left : List Char) : Prop where
  trimmed : IsTrimmed left
  front : left <+: text
  gloss : EndsInGloss text → ∃ blanks gloss, text = left ++ blanks ++ '(' :: gloss ∧
    AllBlank blanks ∧ '(' ∉ left ++ blanks
  plain : ¬ EndsInGloss text → left = text

variable {cs text left other : List Char}

lemma Unglossed.not_endsInGloss (h : Unglossed text left) : ¬ EndsInGloss left := by
  intro hl
  by_cases hg : EndsInGloss text
  · obtain ⟨blanks, gloss, -, -, hnone⟩ := h.gloss hg
    exact hnone (List.mem_append_left _ hl.opening)
  · rw [h.plain hg] at hl
    exact hg hl

/-- What is left when there is a gloss is the trimmed part in front of it. -/
lemma Unglossed.eq_of_gloss (h : Unglossed text left) (hg : EndsInGloss text) :
    left = Text.trimmed (text.takeWhile (· ≠ '(')) := by
  obtain ⟨blanks, gloss, heq, hb, hnone⟩ := h.gloss hg
  rw [heq, takeWhile_ne hnone]
  exact (h.trimmed.trimmed_eq ⟨[], blanks, rfl, by decide, hb⟩).symm

/-- There is one way to take the gloss off. -/
lemma Unglossed.unique (h : Unglossed text left) (h' : Unglossed text other) : left = other := by
  by_cases hg : EndsInGloss text
  · rw [h.eq_of_gloss hg, h'.eq_of_gloss hg]
  · rw [h.plain hg, h'.plain hg]

/-- The trimmed part in front of the first parenthesis is what is left of a text with a gloss. -/
lemma unglossed_of_gloss (ht : IsTrimmed text) (hg : EndsInGloss text) :
    Unglossed text (trimmed (text.takeWhile (· ≠ '('))) := by
  obtain ⟨front, gloss, heq, hnone⟩ := List.eq_append_cons_of_mem hg.opening
  have hhead : ∀ c, front.head? = some c → isBlank c = false := by
    intro c hc
    refine ht.head c ?_
    rw [heq, List.head?_append, hc, Option.some_or]
  obtain ⟨blanks, hfront, hb⟩ := exists_blanks hhead
  have hstart : trimmed front <+: front := ⟨blanks, hfront.symm⟩
  rw [heq, takeWhile_ne hnone]
  refine ⟨isTrimmed_trimmed front, ?_, fun _ => ⟨blanks, gloss, ?_, hb, ?_⟩, fun hplain => ?_⟩
  · exact hstart.trans (List.prefix_append _ _)
  · rw [← hfront]
  · rwa [← hfront]
  · exact absurd (heq ▸ hg) hplain

/-! ### Cleaning -/

namespace Reading

lemma cleanLabelChars_of_gloss (h : EndsInGloss (trimmed cs)) :
    cleanLabelChars cs = trimmed ((trimmed cs).takeWhile (· ≠ '(')) := by
  simp [cleanLabelChars, h.opening, h.closing]

lemma cleanLabelChars_of_plain (h : ¬ EndsInGloss (trimmed cs)) :
    cleanLabelChars cs = trimmed cs := by
  simp only [cleanLabelChars]
  refine if_neg fun hc => h ?_
  rw [Bool.and_eq_true, List.contains_iff_mem, beq_iff_eq] at hc
  exact ⟨hc.1, hc.2⟩

lemma cleanLabelChars_congr (h : trimmed cs = trimmed other) :
    cleanLabelChars cs = cleanLabelChars other := by
  simp only [cleanLabelChars, h]

lemma unglossed_cleanLabelChars (cs : List Char) :
    Unglossed (trimmed cs) (cleanLabelChars cs) := by
  by_cases hg : EndsInGloss (trimmed cs)
  · rw [cleanLabelChars_of_gloss hg]
    exact unglossed_of_gloss (isTrimmed_trimmed cs) hg
  · rw [cleanLabelChars_of_plain hg]
    exact ⟨isTrimmed_trimmed cs, List.prefix_rfl, fun h => absurd h hg, fun _ => rfl⟩

/-- A text without blanks around it that has no gloss is clean. -/
lemma cleanLabelChars_eq_self (ht : IsTrimmed cs) (hg : ¬ EndsInGloss cs) :
    cleanLabelChars cs = cs := by
  have htrim : trimmed cs = cs := trimmed_eq_iff.mpr ⟨ht, [], [], by simp, by decide, by decide⟩
  rw [cleanLabelChars_of_plain (by rwa [htrim]), htrim]

lemma toList_cleanLabel (label : String) :
    (cleanLabel label).toList = cleanLabelChars label.toList :=
  String.toList_ofList

lemma cleanLabel_eq_iff {label cleaned : String} : cleanLabel label = cleaned ↔
    ∃ text, IsTrimmed text ∧ Pads text label.toList ∧ Unglossed text cleaned.toList := by
  constructor
  · rintro rfl
    refine ⟨_, isTrimmed_trimmed label.toList, pads_trimmed label.toList, ?_⟩
    rw [toList_cleanLabel]
    exact unglossed_cleanLabelChars label.toList
  · rintro ⟨text, ht, hp, hu⟩
    obtain rfl := ht.trimmed_eq hp
    rw [← String.toList_inj, toList_cleanLabel]
    exact (unglossed_cleanLabelChars label.toList).unique hu

lemma cleanLabel_cleanLabel (label : String) : cleanLabel (cleanLabel label) = cleanLabel label := by
  have hu := unglossed_cleanLabelChars label.toList
  rw [← String.toList_inj, toList_cleanLabel, toList_cleanLabel]
  exact cleanLabelChars_eq_self hu.trimmed hu.not_endsInGloss

lemma cleanLabel_of_pads {label padded : String} (h : Pads label.toList padded.toList) :
    cleanLabel padded = cleanLabel label := by
  rw [← String.toList_inj, toList_cleanLabel, toList_cleanLabel]
  exact cleanLabelChars_congr h.trimmed_eq

/-- The labels of a complete document are clean once they are read. -/
lemma IsComplete.cleanLabel_eq {document : Tree} {r : Reading} {d : Dimension}
    (h : IsComplete document r) (hd : d ∈ r.rules.dimensions) :
    cleanLabel d.labelIt = d.labelIt := by
  rw [h.dimensions] at hd
  obtain ⟨⟨key, node⟩, -, rfl⟩ := List.mem_map.mp hd
  exact cleanLabel_cleanLabel _

/-- **Cleaning a label is a projection.** It gives the one text that is left of the label without
the blanks around it and without its gloss. Done again it changes nothing, blanks around a label
make no difference to it, and labels that were read from a complete document stay as they are. -/
theorem cleanLabel_projects :
    (∀ label cleaned : String, cleanLabel label = cleaned ↔
      ∃ text, IsTrimmed text ∧ Pads text label.toList ∧ Unglossed text cleaned.toList) ∧
    (∀ label : String, cleanLabel (cleanLabel label) = cleanLabel label) ∧
    (∀ label padded : String, Pads label.toList padded.toList →
      cleanLabel padded = cleanLabel label) ∧
    ∀ (document : Tree) (r : Reading), Rules.read document = .ok r → r.dialect = .complete →
      ∀ d ∈ r.rules.dimensions, cleanLabel d.labelIt = d.labelIt := by
  refine ⟨fun _ _ => cleanLabel_eq_iff, cleanLabel_cleanLabel, fun _ _ => cleanLabel_of_pads, ?_⟩
  intro document r h hc d hd
  exact (isComplete_of_read h hc).cleanLabel_eq hd

/-- Dimensions with a label that has two glosses, one that is nothing else, and one that has none
at its end. -/
def glossedDimensions : List (Tree × Tree) :=
  [(.text "nested", .mapping [(.text "label_it", .text "\u2003Qualità \u3000(a) (b (c))\n")]),
   (.text "only", .mapping [(.text "label_it", .text " (a) ")]),
   (.text "within", .mapping [(.text "label_it", .text "A (b) c")])]

theorem cleanLabel_projects_nested :
    cleanLabel "Qualità \u3000(a) (b (c))" = "Qualità" ∧
      cleanLabel "\u2003Qualità \u3000(a) (b (c))\n" = "Qualità" ∧
      ∃ r, Rules.read (dimensionsDocument glossedDimensions) = .ok r ∧ r.dialect = .complete ∧
        r.rules.dimensions.map (·.labelIt) = ["Qualità", "", "A (b) c"] ∧
        ∀ d ∈ r.rules.dimensions, cleanLabel d.labelIt = d.labelIt := by
  obtain ⟨hleft, -, hblanks, hread⟩ := cleanLabel_projects
  have hclean : cleanLabel "Qualità \u3000(a) (b (c))" = "Qualità" := by
    refine (hleft _ _).mpr ⟨"Qualità \u3000(a) (b (c))".toList, by decide,
      ⟨[], [], by decide, by decide, by decide⟩, by decide, by decide, fun _ => ?_, fun h => ?_⟩
    · exact ⟨[' ', '\u3000'], "a) (b (c))".toList, by decide, by decide, by decide⟩
    · exact absurd (by decide) h
  have hpads : Pads "Qualità \u3000(a) (b (c))".toList
      "\u2003Qualità \u3000(a) (b (c))\n".toList :=
    ⟨['\u2003'], ['\n'], by decide, by decide, by decide⟩
  obtain ⟨r, h, hd, hlabels⟩ : ∃ r, Rules.read (dimensionsDocument glossedDimensions) = .ok r ∧
      r.dialect = .complete ∧
        r.rules.dimensions.map (·.labelIt) = ["Qualità", "", "A (b) c"] := ⟨_, rfl, rfl, rfl⟩
  exact ⟨hclean, (hblanks _ _ hpads).trans hclean, r, h, hd, hlabels, hread _ r h hd⟩

end Reading

end QualityBands
