import Mathlib.Data.List.DropRight
import Mathlib.Tactic.Lemma
import QualityBands.Source.Fault
import QualityBands.Yaml.Cursor

/-!
Positions in a text by their lines and columns.

The line and the column of a character lead back to its offset, whatever number of bytes the
characters in front of it take. The end of a text lies behind the last column of its last line,
where there is no character to be found; it is placed by the number of characters in that line,
which need not be an offset of any character.
-/

namespace QualityBands

open Yaml (byteCount)

namespace Yaml

lemma byteCount_cons (c : Char) (cs : List Char) :
    byteCount (c :: cs) = c.utf8Size + byteCount cs := rfl

lemma byteCount_append (cs ds : List Char) :
    byteCount (cs ++ ds) = byteCount cs + byteCount ds := by
  induction cs with
  | nil => simp [byteCount]
  | cons c cs ih => rw [List.cons_append, byteCount_cons, byteCount_cons, ih, Nat.add_assoc]

lemma byteCount_ofList (cs : List Char) : byteCount cs = (String.ofList cs).utf8ByteSize := by
  induction cs with
  | nil => rfl
  | cons c cs ih =>
    have h : String.ofList (c :: cs) = String.singleton c ++ String.ofList cs := by
      apply String.toList_inj.mp
      simp
    rw [byteCount_cons, ih, h, String.utf8ByteSize_append, String.utf8ByteSize_singleton]

lemma byteCount_toList (s : String) : byteCount s.toList = s.utf8ByteSize := by
  rw [byteCount_ofList, String.ofList_toList]

lemma length_le_byteCount (cs : List Char) : cs.length ≤ byteCount cs := by
  induction cs with
  | nil => exact Nat.le_refl 0
  | cons c cs ih =>
    have hpos := c.utf8Size_pos
    rw [List.length_cons, byteCount_cons]
    omega

end Yaml

namespace Source

open Yaml

variable {source : String} {lines head rest cs : List Char} {here offset column last : Nat}

/-! ### Lines and columns -/

/-- The text in front of a position. -/
def front (p : source.Pos) : List Char := (source.sliceTo p).copy.toList

/-- The part of a text up to its last line break. -/
def wholeLines (cs : List Char) : List Char := cs.rdropWhile (· ≠ '\n')

/-- The part of a text behind its last line break. -/
def lastLine (cs : List Char) : List Char := cs.rtakeWhile (· ≠ '\n')

/-- The line of a position, counted from one. -/
def lineOf (p : source.Pos) : Nat := (front p).count '\n' + 1

/-- The column of a position, counted from one in characters. -/
def columnOf (p : source.Pos) : Nat := (lastLine (front p)).length + 1

lemma wholeLines_append_lastLine (cs : List Char) : wholeLines cs ++ lastLine cs = cs := by
  rw [wholeLines, lastLine, List.rdropWhile, List.rtakeWhile, ← List.reverse_append,
    List.takeWhile_append_dropWhile, List.reverse_reverse]

lemma not_mem_lastLine (cs : List Char) : '\n' ∉ lastLine cs := by
  intro h
  simpa using List.mem_rtakeWhile_imp h

/-- Nothing, or a text that a line break ends. -/
def EndsLine (lines : List Char) : Prop := ∀ c, lines.getLast? = some c → c = '\n'

lemma endsLine_wholeLines (cs : List Char) : EndsLine (wholeLines cs) := by
  intro c hc
  have hne : wholeLines cs ≠ [] := fun h => by simp [h] at hc
  have hbreak : (wholeLines cs).getLast hne = '\n' := by
    have h := List.rdropWhile_last_not (· ≠ '\n') cs hne
    rwa [decide_eq_true_iff, not_not] at h
  rw [List.getLast?_eq_some_getLast hne, hbreak] at hc
  exact (Option.some.inj hc).symm

lemma EndsLine.eq_nil_or (h : EndsLine lines) : lines = [] ∨ ∃ init, lines = init ++ ['\n'] := by
  rcases List.eq_nil_or_concat' lines with hnil | ⟨init, c, hinit⟩
  · exact Or.inl hnil
  · have hc : c = '\n' := h c (by rw [hinit, List.getLast?_concat])
    exact Or.inr ⟨init, hc ▸ hinit⟩

lemma EndsLine.tail {d : Char} (h : EndsLine (d :: lines)) : EndsLine lines := by
  intro c hc
  apply h
  rw [List.getLast?_cons, hc, Option.getD_some]

lemma EndsLine.count_pos {d : Char} (h : EndsLine (d :: lines)) :
    0 < (d :: lines).count '\n' := by
  have hmem := List.getLast_mem (List.cons_ne_nil d lines)
  rw [h _ (List.getLast?_eq_some_getLast _)] at hmem
  exact List.count_pos_iff.mpr hmem

lemma count_wholeLines (cs : List Char) : (wholeLines cs).count '\n' = cs.count '\n' := by
  have h := congrArg (List.count '\n') (wholeLines_append_lastLine cs)
  rwa [List.count_append, List.count_eq_zero.mpr (not_mem_lastLine cs)] at h

lemma splits_front (p : source.Pos) : ∃ back, source.toList = front p ++ back ∧
    p.offset.byteIdx = byteCount (front p) ∧ (p ≠ source.endPos ↔ back ≠ []) := by
  have hs := p.splits
  refine ⟨(source.sliceFrom p).copy.toList, ?_, ?_, ?_⟩
  · have h := congrArg String.toList hs.eq_append
    rwa [String.toList_append] at h
  · rw [front, byteCount_toList, hs.offset_eq_rawEndPos, String.byteIdx_rawEndPos]
  · rw [Ne, Ne, hs.eq_endPos_iff, ← String.toList_inj, String.toList_empty]

/-! ### In a line -/

/-- The search passes over the characters in front of the column. -/
lemma offsetInLine_append (start here offset : Nat) (h : '\n' ∉ head) (rest : List Char) :
    offsetInLine start (here + head.length) here offset (head ++ rest) =
      offsetInLine start (here + head.length) (here + head.length) (offset + byteCount head)
        rest := by
  induction head generalizing here offset with
  | nil => rfl
  | cons d head ih =>
    rw [List.mem_cons, not_or] at h
    have hne : here ≠ here + (d :: head).length := by simp
    have hlen : here + (d :: head).length = here + 1 + head.length := by
      rw [List.length_cons]
      omega
    rw [List.cons_append, offsetInLine, if_neg hne, if_neg (Ne.symm h.1), hlen, ih _ _ h.2,
      byteCount_cons, Nat.add_assoc offset]

lemma offsetInLine_append_cons (start : Nat) (h : '\n' ∉ head) (c : Char) (rest : List Char) :
    offsetInLine start (here + head.length) here offset (head ++ c :: rest) =
      offset + byteCount head := by
  rw [offsetInLine_append _ _ _ h, offsetInLine, if_pos rfl]

/-- Behind the last character of the text, characters are counted as bytes. -/
lemma offsetInLine_end (start : Nat) (h : '\n' ∉ head) :
    offsetInLine start (here + head.length) here offset head =
      start + (here + head.length - 1) := by
  have hend := offsetInLine_append start here offset h []
  rwa [List.append_nil, offsetInLine] at hend

/-! ### From line to line -/

/-- The line that a character leads to. -/
lemma add_count_cons (c : Char) (cs : List Char) : here + (c :: cs).count '\n' =
    (if c = '\n' then here + 1 else here) + cs.count '\n' := by
  rw [List.count_cons]
  by_cases h : c = '\n'
  · simp [h]
    omega
  · simp [h]

/-- The search passes over the lines in front. -/
lemma offsetFrom_append (here column offset last : Nat) (h : EndsLine lines) (hrest : rest ≠ []) :
    offsetFrom (here + lines.count '\n') column here offset last (lines ++ rest) =
      offsetInLine (offset + byteCount lines) column 1 (offset + byteCount lines) rest := by
  induction lines generalizing here offset last with
  | nil =>
    obtain ⟨c, rest, rfl⟩ := List.exists_cons_of_ne_nil hrest
    simp [offsetFrom, byteCount]
  | cons d lines ih =>
    have hpos := h.count_pos
    have hne : here ≠ here + (d :: lines).count '\n' := by omega
    rw [List.cons_append, offsetFrom, if_neg hne, add_count_cons, ih _ _ _ h.tail, byteCount_cons,
      Nat.add_assoc]

/-- Behind the last line break of the text, the search ends at that line break. -/
lemma offsetFrom_lineBreak (init : List Char) :
    offsetFrom (here + (init ++ ['\n']).count '\n') column here offset last (init ++ ['\n']) =
      offset + byteCount init := by
  induction init generalizing here offset last with
  | nil => simp [offsetFrom, byteCount]
  | cons d init ih =>
    have hne : here ≠ here + (d :: (init ++ ['\n'])).count '\n' := by
      rw [List.count_cons, List.count_append, List.count_singleton_self]
      omega
    rw [List.cons_append, offsetFrom, if_neg hne, add_count_cons, ih, byteCount_cons,
      Nat.add_assoc]

/-! ### Characters -/

lemma offsetOf_of_ne_end {p : source.Pos} (h : p ≠ source.endPos) :
    offsetOf source (lineOf p) (columnOf p) = p.offset.byteIdx := by
  obtain ⟨back, hsource, hoffset, hback⟩ := splits_front p
  obtain ⟨c, rest, rfl⟩ := List.exists_cons_of_ne_nil (hback.mp h)
  have hfront := wholeLines_append_lastLine (front p)
  have htext : source.toList =
      wholeLines (front p) ++ (lastLine (front p) ++ c :: rest) := by
    rw [← List.append_assoc, hfront, hsource]
  have hline : lineOf p = 1 + (wholeLines (front p)).count '\n' := by
    rw [count_wholeLines, Nat.add_comm, lineOf]
  have hcolumn : columnOf p = 1 + (lastLine (front p)).length := Nat.add_comm _ _
  have hne : lastLine (front p) ++ c :: rest ≠ [] := by simp
  calc offsetOf source (lineOf p) (columnOf p)
      = offsetInLine (0 + byteCount (wholeLines (front p))) (columnOf p) 1
          (0 + byteCount (wholeLines (front p))) (lastLine (front p) ++ c :: rest) := by
        rw [offsetOf, htext, hline]
        exact offsetFrom_append _ _ _ _ (endsLine_wholeLines _) hne
    _ = byteCount (wholeLines (front p)) + byteCount (lastLine (front p)) := by
        rw [hcolumn, offsetInLine_append_cons _ (not_mem_lastLine _), Nat.zero_add]
    _ = p.offset.byteIdx := by rw [← byteCount_append, hfront, hoffset]

/-- **The line and the column of a character lead back to it.** So characters are told apart by
their offsets, and what is told about a fault at a character begins there. -/
theorem offset_of_character {source : String} (p : source.Pos) (h : p ≠ source.endPos) :
    offsetOf source (lineOf p) (columnOf p) = p.offset.byteIdx ∧
    (∀ q : source.Pos, q ≠ source.endPos →
      offsetOf source (lineOf q) (columnOf q) = offsetOf source (lineOf p) (columnOf p) → q = p) ∧
    ∀ message, (Fault.locate source message (lineOf p) (columnOf p)).report.span =
      some (p.offset.byteIdx, 1) := by
  have hp := offsetOf_of_ne_end h
  refine ⟨hp, fun q hq heq => ?_, fun message => ?_⟩
  · apply String.Pos.ext
    apply String.Pos.Raw.ext
    rw [← offsetOf_of_ne_end hq, heq, hp]
  · rw [← hp]
    rfl

/-- The text of `offset_of_character_wide`: two line breaks between characters of two bytes. -/
def wideText : String := "è\n\nàb"

theorem offset_of_character_wide :
    ∃ p q : wideText.Pos, p ≠ wideText.endPos ∧ q ≠ wideText.endPos ∧
      (lineOf p, columnOf p) = (3, 2) ∧ offsetOf wideText 3 2 = 6 ∧
      (lineOf q, columnOf q) = (2, 1) ∧ offsetOf wideText 2 1 ≠ offsetOf wideText 3 2 ∧
      (Fault.locate wideText "found a tab character" 3 2).report.span = some (6, 1) := by
  let p : wideText.Pos := ⟨⟨6⟩, by decide +kernel⟩
  let q : wideText.Pos := ⟨⟨3⟩, by decide +kernel⟩
  have hp : p ≠ wideText.endPos := by decide +kernel
  have hq : q ≠ wideText.endPos := by decide +kernel
  have hpplace : lineOf p = 3 ∧ columnOf p = 2 := by decide +kernel
  have hqplace : lineOf q = 2 ∧ columnOf q = 1 := by decide +kernel
  obtain ⟨hoffset, hinj, hspan⟩ := offset_of_character p hp
  have hne : q ≠ p := by decide +kernel
  have hapart := mt (hinj q hq) hne
  have hreport := hspan "found a tab character"
  rw [hpplace.1, hpplace.2] at hoffset hapart hreport
  rw [hqplace.1, hqplace.2] at hapart
  exact ⟨p, q, hp, hq, by rw [hpplace.1, hpplace.2], hoffset, by rw [hqplace.1, hqplace.2], hapart,
    hreport⟩

/-! ### The end of the text -/

lemma isValid_iff {n : Nat} : String.Pos.Raw.IsValid source ⟨n⟩ ↔
    ∃ before, before <+: source.toList ∧ byteCount before = n := by
  rw [String.Pos.Raw.isValid_iff_exists_append]
  constructor
  · rintro ⟨s, t, rfl, hn⟩
    refine ⟨s.toList, ?_, ?_⟩
    · rw [String.toList_append]
      exact List.prefix_append _ _
    · rw [byteCount_toList, ← String.byteIdx_rawEndPos, ← hn]
  · rintro ⟨before, ⟨after, htext⟩, hn⟩
    refine ⟨String.ofList before, String.ofList after, ?_, ?_⟩
    · rw [← String.ofList_append, htext, String.ofList_toList]
    · apply String.Pos.Raw.ext
      rw [String.byteIdx_rawEndPos, ← byteCount_ofList, hn]

/-- Behind whole lines, the offsets in a text are those in what follows. -/
lemma exists_prefix_append (lines rest : List Char) (n : Nat) :
    (∃ before, before <+: lines ++ rest ∧ byteCount before = byteCount lines + n) ↔
      ∃ head, head <+: rest ∧ byteCount head = n := by
  constructor
  · rintro ⟨before, hpart, hn⟩
    rcases List.prefix_or_prefix_of_prefix hpart (List.prefix_append lines rest) with h | h
    · obtain ⟨between, rfl⟩ := h
      rw [byteCount_append] at hn
      exact ⟨[], List.nil_prefix, by simp [byteCount]; omega⟩
    · obtain ⟨head, rfl⟩ := h
      rw [byteCount_append] at hn
      exact ⟨head, (List.prefix_append_right_inj lines).mp hpart, by omega⟩
  · rintro ⟨head, hpart, rfl⟩
    exact ⟨lines ++ head, (List.prefix_append_right_inj lines).mpr hpart, byteCount_append _ _⟩

lemma front_endPos (source : String) : front source.endPos = source.toList := by
  obtain ⟨back, hsource, -, hback⟩ := splits_front source.endPos
  have hnil : back = [] := by_contra fun h => hback.mpr h rfl
  rw [hsource, hnil, List.append_nil]

/-- The end of a last line is placed by the number of its characters. -/
lemma offsetOf_endPos (h : lastLine source.toList ≠ []) :
    offsetOf source (lineOf source.endPos) (columnOf source.endPos) =
      byteCount (wholeLines source.toList) + (lastLine source.toList).length := by
  have hline : lineOf source.endPos = 1 + (wholeLines source.toList).count '\n' := by
    rw [count_wholeLines, Nat.add_comm, lineOf, front_endPos]
  have hcolumn : columnOf source.endPos = 1 + (lastLine source.toList).length := by
    rw [columnOf, front_endPos, Nat.add_comm]
  have hsearch := offsetFrom_append 1 (columnOf source.endPos) 0 0
    (endsLine_wholeLines source.toList) h
  rw [wholeLines_append_lastLine, ← hline] at hsearch
  rw [offsetOf, hsearch, hcolumn, offsetInLine_end _ (not_mem_lastLine _)]
  omega

/-- Behind a last line break, the end is placed at that line break. -/
lemma offsetOf_endPos_of_lineBreak (h : lastLine source.toList = []) :
    ∃ before, before <+: source.toList ∧
      byteCount before = offsetOf source (lineOf source.endPos) (columnOf source.endPos) := by
  have hlines : EndsLine source.toList := by
    have hwhole := wholeLines_append_lastLine source.toList
    rw [h, List.append_nil] at hwhole
    exact hwhole ▸ endsLine_wholeLines source.toList
  rw [offsetOf, lineOf, front_endPos]
  rcases hlines.eq_nil_or with hnil | ⟨init, hinit⟩
  · exact ⟨[], List.nil_prefix, by rw [hnil]; rfl⟩
  · refine ⟨init, hinit ▸ List.prefix_append _ _, ?_⟩
    rw [hinit, Nat.add_comm, offsetFrom_lineBreak, Nat.zero_add]

/-- The end of a text is placed at a boundary only by chance: where the last line has a part from
its beginning with as many bytes as the whole line has characters. -/
lemma isValid_endPos_iff : String.Pos.Raw.IsValid source
      ⟨offsetOf source (lineOf source.endPos) (columnOf source.endPos)⟩ ↔
    ∃ head, head <+: lastLine source.toList ∧
      byteCount head = (lastLine source.toList).length := by
  rw [isValid_iff]
  by_cases h : lastLine source.toList = []
  · rw [h]
    exact iff_of_true (offsetOf_endPos_of_lineBreak h) ⟨[], List.nil_prefix, rfl⟩
  · have hparts := exists_prefix_append (wholeLines source.toList) (lastLine source.toList)
      (lastLine source.toList).length
    rw [wholeLines_append_lastLine] at hparts
    rw [offsetOf_endPos h]
    exact hparts

/-- **Every position is placed within the text, and every character at a boundary.** The end is
placed at a boundary exactly where the last line has a part from its beginning with as many bytes
as the whole line has characters, as it has if each of them takes one byte. -/
theorem offset_within_text (source : String) (p : source.Pos) :
    offsetOf source (lineOf p) (columnOf p) ≤ source.utf8ByteSize ∧
    (String.Pos.Raw.IsValid source ⟨offsetOf source (lineOf p) (columnOf p)⟩ ↔
      p ≠ source.endPos ∨ ∃ head, head <+: lastLine source.toList ∧
        byteCount head = (lastLine source.toList).length) := by
  by_cases h : p = source.endPos
  · subst h
    refine ⟨?_, by rw [isValid_endPos_iff]; simp⟩
    rw [← byteCount_toList]
    by_cases hlast : lastLine source.toList = []
    · obtain ⟨before, ⟨after, htext⟩, hoffset⟩ := offsetOf_endPos_of_lineBreak hlast
      rw [← hoffset, ← htext, byteCount_append]
      omega
    · have hsize := congrArg byteCount (wholeLines_append_lastLine source.toList)
      have hlength := length_le_byteCount (lastLine source.toList)
      rw [byteCount_append] at hsize
      rw [offsetOf_endPos hlast]
      omega
  · rw [offsetOf_of_ne_end h]
    have hle := p.isValid.le_rawEndPos
    exact ⟨hle, iff_of_true p.isValid (Or.inl h)⟩

/-- A quoted text without its end, of one byte more than it has characters. -/
def openQuote : String := "k: \"è"

/-- The end of this text is placed between the two bytes of its last character. -/
theorem offset_inside_character :
    (lineOf openQuote.endPos, columnOf openQuote.endPos) = (1, 6) ∧
      offsetOf openQuote 1 6 = 5 ∧ openQuote.utf8ByteSize = 6 ∧
      ¬ String.Pos.Raw.IsValid openQuote ⟨offsetOf openQuote 1 6⟩ := by
  decide +kernel

end Source

end QualityBands
