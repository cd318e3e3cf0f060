import Mathlib.Data.List.Infix
import QualityBands.Proofs.Trimming
import QualityBands.Snippets

/-!
Sections and the document of fragments hold the same texts.

A section is its pieces with blank lines between them, and only blanks at its two ends are taken
off. The document has the text of each section file between parts that are always the same, so
the files can be found in it again where the part between them is there once.
-/

namespace QualityBands

open Text

/-! ### Where a pattern stands -/

namespace Text

/-- At how many places of a text a pattern begins. -/
def occurrences (pattern text : List Char) : Nat := text.tails.countP (pattern.isPrefixOf ·)

variable {pattern text front back front' back' : List Char}

lemma occurrences_cons (c : Char) : occurrences pattern (c :: text) =
    occurrences pattern text + if pattern.isPrefixOf (c :: text) then 1 else 0 := by
  rw [occurrences, List.tails_cons, List.countP_cons, ← occurrences]

lemma occurrences_pos (front pattern back : List Char) :
    0 < occurrences pattern (front ++ pattern ++ back) := by
  rw [occurrences, List.countP_pos_iff]
  refine ⟨pattern ++ back, ?_, ?_⟩
  · rw [List.mem_tails, List.append_assoc]
    exact List.suffix_append _ _
  · exact List.isPrefixOf_iff_prefix.mpr (List.prefix_append _ _)

/-- A pattern that stands at the beginning and once more stands at two places. -/
lemma two_le_occurrences {c : Char} (h : pattern <+: c :: (front ++ pattern ++ back)) :
    2 ≤ occurrences pattern (c :: (front ++ pattern ++ back)) := by
  have hpos := occurrences_pos front pattern back
  rw [occurrences_cons, if_pos (List.isPrefixOf_iff_prefix.mpr h)]
  omega

/-- Around a pattern that stands at one place, a text is split in one way. -/
lemma split_unique (h : front ++ pattern ++ back = front' ++ pattern ++ back')
    (honce : occurrences pattern (front ++ pattern ++ back) = 1) :
    front = front' ∧ back = back' := by
  induction front generalizing front' with
  | nil =>
    cases front' with
    | nil => exact ⟨rfl, List.append_cancel_left h⟩
    | cons c front' =>
      have hpre : pattern <+: c :: (front' ++ pattern ++ back') := ⟨back, h⟩
      have htwo := two_le_occurrences hpre
      rw [h] at honce
      exact absurd (htwo.trans_eq honce) (by decide)
  | cons c front ih =>
    cases front' with
    | nil =>
      have hpre : pattern <+: c :: (front ++ pattern ++ back) := ⟨back', h.symm⟩
      have htwo := two_le_occurrences hpre
      exact absurd (htwo.trans_eq honce) (by decide)
    | cons d front' =>
      simp only [List.cons_append, List.cons.injEq] at h honce
      obtain ⟨rfl, h⟩ := h
      have hpos := occurrences_pos front pattern back
      rw [occurrences_cons] at honce
      obtain ⟨rfl, rfl⟩ := ih h (by omega)
      exact ⟨rfl, rfl⟩

end Text

/-! ### Pieces -/

namespace Snippets

variable {front pieces back : List String}

/-- Between two lists of pieces there are blanks or nothing. -/
lemma exists_gap (front back : List String) : ∃ gap : List Char, AllBlank gap ∧
    ("\n\n".intercalate (front ++ back)).toList =
      ("\n\n".intercalate front).toList ++ gap ++ ("\n\n".intercalate back).toList := by
  induction front with
  | nil => exact ⟨[], by decide, rfl⟩
  | cons s front ih =>
    cases front with
    | nil =>
      cases back with
      | nil => exact ⟨[], by decide, by simp⟩
      | cons t back => exact ⟨['\n', '\n'], by decide, by simp [String.intercalate_cons_cons]⟩
    | cons t front =>
      obtain ⟨gap, hgap, h⟩ := ih
      refine ⟨gap, hgap, ?_⟩
      rw [List.cons_append] at h
      simp only [List.cons_append, String.intercalate_cons_cons, String.toList_append, h,
        List.append_assoc]

lemma allBlank_intercalate (h : ∀ s ∈ pieces, AllBlank s.toList) :
    AllBlank ("\n\n".intercalate pieces).toList := by
  induction pieces with
  | nil => decide
  | cons s pieces ih =>
    obtain ⟨hs, hrest⟩ := List.forall_mem_cons.mp h
    obtain ⟨gap, hgap, heq⟩ := exists_gap [s] pieces
    rw [List.singleton_append] at heq
    rw [heq, allBlank_append, allBlank_append]
    exact ⟨⟨by simpa using hs, hgap⟩, ih hrest⟩

/-- Pieces of blanks at the ends only put blanks around the others. -/
lemma pads_intercalate (hf : ∀ s ∈ front, AllBlank s.toList) (hb : ∀ s ∈ back, AllBlank s.toList) :
    Pads ("\n\n".intercalate pieces).toList
      ("\n\n".intercalate (front ++ pieces ++ back)).toList := by
  obtain ⟨gap, hgap, heq⟩ := exists_gap front pieces
  obtain ⟨gap', hgap', heq'⟩ := exists_gap (front ++ pieces) back
  refine ⟨("\n\n".intercalate front).toList ++ gap, gap' ++ ("\n\n".intercalate back).toList, ?_,
    ?_, ?_⟩
  · rw [heq', heq]
    simp only [List.append_assoc]
  · exact allBlank_append.mpr ⟨allBlank_intercalate hf, hgap⟩
  · exact allBlank_append.mpr ⟨hgap', allBlank_intercalate hb⟩

lemma toList_joined (pieces : List String) :
    (joined pieces).toList = trimmed ("\n\n".intercalate pieces).toList := toList_trim _

lemma sectionText_eq_of_pads
    (h : Pads ("\n\n".intercalate pieces).toList ("\n\n".intercalate back).toList) :
    sectionText back = sectionText pieces := by
  have hjoined : joined back = joined pieces := by
    rw [← String.toList_inj, toList_joined, toList_joined, h.trimmed_eq]
  rw [sectionText, sectionText, hjoined]

/-- Made into one piece, a section is the same section. -/
lemma sectionText_sectionText (pieces : List String) :
    sectionText [sectionText pieces] = sectionText pieces := by
  have hpads : Pads (joined pieces).toList (sectionText pieces).toList :=
    ⟨[], ['\n'], by simp [sectionText], by decide, by decide⟩
  have htrimmed : IsTrimmed (joined pieces).toList := by
    rw [toList_joined]
    exact isTrimmed_trimmed _
  have hjoined : joined [sectionText pieces] = joined pieces := by
    rw [← String.toList_inj, toList_joined, String.intercalate_singleton]
    exact htrimmed.trimmed_eq hpads
  rw [sectionText, hjoined, ← sectionText]

/-! ### The document of fragments -/

/-- What stands in front of the dimensions. -/
def documentHead : String :=
  "<!DOCTYPE html>\n" ++
  "<html xmlns:th=\"http://www.thymeleaf.org\">\n" ++
  "  <body>\n" ++
  "    <th:block th:fragment=\"" ++ dimensionFragment ++ "\">\n"

/-- What stands between the dimensions and the cards. -/
def documentMiddle : String :=
  "    </th:block>\n" ++
  "\n" ++
  "    <th:block th:fragment=\"" ++ errorFragment ++ "\">\n"

/-- What stands behind the cards. -/
def documentTail : String :=
  "    </th:block>\n" ++
  "  </body>\n" ++
  "</html>\n"

variable {a b : Snippets}

/-- The line feeds that the page brings are those at the ends of the sections. -/
lemma fragmentsDocument_eq (snippets : Snippets) : snippets.fragmentsDocument =
    documentHead ++ snippets.dimensionSection ++ documentMiddle ++ snippets.errorSection ++
      documentTail := by
  unfold fragmentsDocument dimensionSection errorSection sectionText documentHead documentMiddle
    documentTail
  simp only [-String.reduceAppend, String.append_assoc]

lemma toList_fragmentsDocument (snippets : Snippets) : snippets.fragmentsDocument.toList =
    (documentHead.toList ++ snippets.dimensionSection.toList) ++ documentMiddle.toList ++
      (snippets.errorSection.toList ++ documentTail.toList) := by
  simp only [fragmentsDocument_eq, String.toList_append, List.append_assoc]

/-- Section files are told by the document where the part between them is there once. -/
lemma sections_eq_of_document (h : a.fragmentsDocument = b.fragmentsDocument)
    (honce : occurrences documentMiddle.toList a.fragmentsDocument.toList = 1) :
    a.dimensionSection = b.dimensionSection ∧ a.errorSection = b.errorSection := by
  have heq := congrArg String.toList h
  rw [toList_fragmentsDocument, toList_fragmentsDocument] at heq
  rw [toList_fragmentsDocument] at honce
  obtain ⟨hfront, hback⟩ := split_unique heq honce
  constructor
  · exact String.toList_inj.mp (List.append_cancel_left hfront)
  · exact String.toList_inj.mp (List.append_cancel_right hback)

/-- **Sections lose nothing but blanks at their ends, and the document holds the same texts.** -/
theorem sections_assembled :
    (∀ pieces : List String, ∃ s : String, sectionText pieces = s ++ "\n" ∧ IsTrimmed s.toList ∧
      Pads s.toList ("\n\n".intercalate pieces).toList) ∧
    (∀ front pieces back : List String, (∀ s ∈ front, AllBlank s.toList) →
      (∀ s ∈ back, AllBlank s.toList) →
      sectionText (front ++ pieces ++ back) = sectionText pieces) ∧
    (∀ pieces : List String, sectionText [sectionText pieces] = sectionText pieces) ∧
    (∀ snippets : Snippets, snippets.dimensionSection = sectionText snippets.dimensionBlocks ∧
      snippets.errorSection = sectionText snippets.errorCards) ∧
    (∀ snippets : Snippets, snippets.fragmentsDocument =
      documentHead ++ snippets.dimensionSection ++ documentMiddle ++ snippets.errorSection ++
        documentTail) ∧
    ∀ a b : Snippets, a.fragmentsDocument = b.fragmentsDocument →
      occurrences documentMiddle.toList a.fragmentsDocument.toList = 1 →
      a.dimensionSection = b.dimensionSection ∧ a.errorSection = b.errorSection := by
  refine ⟨fun pieces => ⟨joined pieces, rfl, ?_⟩, ?_, sectionText_sectionText,
    fun _ => ⟨rfl, rfl⟩, fragmentsDocument_eq, ?_⟩
  · exact trimmed_eq_iff.mp (toList_joined pieces).symm
  · intro front pieces back hf hb
    exact sectionText_eq_of_pads (pads_intercalate hf hb)
  · intro a b h honce
    exact sections_eq_of_document h honce

/-- Two reports with one document, of which one has pieces of blanks. -/
def sampleSnippets : Snippets × Snippets :=
  (⟨["<p/>\n"], []⟩, ⟨[" \t", "", "<p/>", "\u3000"], ["\n"]⟩)

theorem sections_assembled_sample :
    sampleSnippets.1.fragmentsDocument = sampleSnippets.2.fragmentsDocument ∧
      occurrences documentMiddle.toList sampleSnippets.1.fragmentsDocument.toList = 1 ∧
      sampleSnippets.1.dimensionSection = sampleSnippets.2.dimensionSection ∧
      sampleSnippets.1.errorSection = sampleSnippets.2.errorSection ∧
      sectionText [" \t", "", "<p/>", "\u3000"] = sectionText ["<p/>"] := by
  obtain ⟨-, hblank, -, -, -, htold⟩ := sections_assembled
  have heq : sampleSnippets.1.fragmentsDocument = sampleSnippets.2.fragmentsDocument := by
    decide +kernel
  have honce : occurrences documentMiddle.toList
      sampleSnippets.1.fragmentsDocument.toList = 1 := by
    rw [toList_fragmentsDocument]
    decide +kernel
  obtain ⟨hd, he⟩ := htold _ _ heq honce
  exact ⟨heq, honce, hd, he, hblank [" \t", ""] ["<p/>"] ["\u3000"] (by decide) (by decide)⟩

end Snippets

end QualityBands
