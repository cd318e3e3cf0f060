import QualityBands.Proofs.BuiltinTemplates

/-!
The colour rule of a block.

A block asks whether a score is at least the percentage of green and then that of amber, and
takes red when it is neither. The built-in template states this rule three times, each time with
other classes for the colours.
-/

namespace QualityBands

open Text Template

/-! ### Comparison of scores -/

namespace Binary64

variable {x y : Binary64}

/-- At least as great; NaN is so for no number, and no number for NaN. -/
def atLeast (x y : Binary64) : Bool :=
  match x.rank, y.rank with
  | some a, some b => b ≤ a
  | _, _ => false

lemma atLeast_iff : x.atLeast y ↔ ∃ a b, x.rank = some a ∧ y.rank = some b ∧ b ≤ a := by
  unfold atLeast
  cases x.rank <;> cases y.rank <;> simp

lemma less_iff : x.less y ↔ ∃ a b, x.rank = some a ∧ y.rank = some b ∧ a < b := by
  unfold less
  cases x.rank <;> cases y.rank <;> simp

end Binary64

/-! ### Colours -/

inductive Colour where
  | green
  | amber
  | red
  deriving DecidableEq

/-- The texts between the bounds of a colour rule, from the one that names the green class on. -/
structure ColourRule where
  green : String
  indent : String
  amber : String
  red : String

namespace ColourRule

/-- The rules of a block: for the score itself, for the words below it and for its bar. -/
def all : List ColourRule :=
  [⟨" ? 'text-green-600' :", "                                  ", " ? 'text-amber-600' :",
    "                                  'text-red-600'"⟩,
   ⟨" ? 'text-green-600' :", "                               ", " ? 'text-amber-600' :",
    "                               'text-red-600'"⟩,
   ⟨" ? 'bg-green-600' :", "                             ", " ? 'bg-amber-500' :",
    "                             'bg-red-600'"⟩]

/-- A rule as a nested conditional on a variable of the report, over three lines. -/
def text (rule : ColourRule) (score excellent acceptable : String) : String :=
  score ++ " != null && " ++ score ++ " >= " ++ excellent ++ rule.green ++ "\n" ++
    rule.indent ++ score ++ " != null && " ++ score ++ " >= " ++ acceptable ++ rule.amber ++ "\n" ++
    rule.red

end ColourRule

/-- The colour that a block gives to a score. -/
def ScoreBands.colour (bands : ScoreBands) (score : Binary64) : Colour :=
  if score.atLeast bands.excellent then .green
  else if score.atLeast bands.acceptable then .amber
  else .red

namespace ScoreBands

variable {bands : ScoreBands} {score : Binary64}

lemma colour_eq_green_iff : bands.colour score = .green ↔ score.atLeast bands.excellent := by
  unfold colour
  split_ifs with he ha <;> simp [he]

lemma colour_eq_amber_iff : bands.colour score = .amber ↔
    ¬ score.atLeast bands.excellent ∧ score.atLeast bands.acceptable := by
  unfold colour
  split_ifs with he ha
  · simp [he]
  · simp [he, ha]
  · simp [ha]

end ScoreBands

/-! ### The rules in the template -/

namespace Template

variable {rule : ColourRule} {value? : String → Option String}

lemma occurs_filled {part whole : List Piece} (h : part <:+: whole) :
    Occurs (filled value? part) (filled value? whole) := by
  obtain ⟨before, after, rfl⟩ := h
  refine ⟨(filled value? before).toList, (filled value? after).toList, ?_⟩
  simp [filled_append]

lemma linePieces_between (lines : List String) (first count : Nat) :
    linePieces ((lines.drop first).take count) <:+: linePieces lines := by
  have hlines : lines.take first ++ (lines.drop first).take count ++
      (lines.drop first).drop count = lines := by
    rw [List.append_assoc, List.take_append_drop, List.take_append_drop]
  refine ⟨linePieces (lines.take first), linePieces ((lines.drop first).drop count), ?_⟩
  rw [linePieces, linePieces, linePieces, ← List.flatMap_append, ← List.flatMap_append, hlines,
    linePieces]

/-- The parts of a line that asks for a percentage. -/
def questionPieces (front bound back : String) : List Piece :=
  [.literal front, .reference "VAR", .literal " != null && ", .reference "VAR", .literal " >= ",
   .reference bound, .literal back]

/-- Three lines of the template that state a rule, with the texts around it. -/
structure States (rule : ColourRule) (front back : String) (lines : List Piece) : Prop where
  lines : ∃ rest, lines = questionPieces front "THRESH_EXCELLENT" rule.green ++
    .literal "\n" :: questionPieces rule.indent "THRESH_ACCEPTABLE" rule.amber ++
    .literal "\n" :: .literal back :: rest
  red : rule.red.toList <+: back.toList

lemma states_of_lines {front back first second third : String} {rest : List Piece}
    (h1 : piecesOf first = questionPieces front "THRESH_EXCELLENT" rule.green)
    (h2 : piecesOf second = questionPieces rule.indent "THRESH_ACCEPTABLE" rule.amber)
    (h3 : piecesOf third = .literal back :: rest) (hr : rule.red.toList <+: back.toList) :
    States rule front back (linePieces [first, second, third]) where
  lines := by
    refine ⟨rest ++ [.literal "\n"], ?_⟩
    simp only [linePieces, List.flatMap_cons, List.flatMap_nil, h1, h2, h3]
    simp
  red := hr

/-- Where a block states its rule, three lines of the template are the parts of the rule. -/
lemma exists_states (h : rule ∈ ColourRule.all) : ∃ first front back,
    States rule front back (linePieces ((dimensionScoreLines.drop first).take 3)) := by
  simp only [ColourRule.all, List.mem_cons, List.not_mem_nil, or_false] at h
  rcases h with rfl | rfl | rfl
  · exact ⟨9, "                  th:classappend=\"$\x7b",
      "                                  'text-red-600'\x7d\"", states_of_lines
      (piecesOf_of_chars [_, _, _, _, _, _, _] rfl rfl (by decide +kernel))
      (piecesOf_of_chars [_, _, _, _, _, _, _] rfl rfl (by decide +kernel))
      (piecesOf_of_chars [_] rfl rfl (by decide +kernel)) (by decide +kernel)⟩
  · exact ⟨14, "               th:classappend=\"$\x7b",
      "                               'text-red-600'\x7d\"><span th:text=\"$\x7b", states_of_lines
      (piecesOf_of_chars [_, _, _, _, _, _, _] rfl rfl (by decide +kernel))
      (piecesOf_of_chars [_, _, _, _, _, _, _] rfl rfl (by decide +kernel))
      (show piecesOf _ = [.literal _, .reference "ERROR_VAR", .literal "\x7d\">0</span> ",
          .reference "ERROR_LABEL_IT", .literal "</p>"] from
        piecesOf_of_chars [_, _, _, _, _] rfl rfl (by decide +kernel)) (by decide +kernel)⟩
  · exact ⟨22, "             th:classappend=\"$\x7b",
      "                             'bg-red-600'\x7d\"></div>", states_of_lines
      (piecesOf_of_chars [_, _, _, _, _, _, _] rfl rfl (by decide +kernel))
      (piecesOf_of_chars [_, _, _, _, _, _, _] rfl rfl (by decide +kernel))
      (piecesOf_of_chars [_] rfl rfl (by decide +kernel)) (by decide +kernel)⟩

lemma States.filled_eq {front back : String} {lines : List Piece}
    (h : States rule front back lines) (value? : String → Option String) :
    ∃ rest, filled value? lines = front ++ (rule.text ((Piece.reference "VAR").filled value?)
      ((Piece.reference "THRESH_EXCELLENT").filled value?)
      ((Piece.reference "THRESH_ACCEPTABLE").filled value?) ++ rest) := by
  obtain ⟨rest, rfl⟩ := h.lines
  obtain ⟨tail, ht⟩ := h.red
  refine ⟨String.ofList tail ++ filled value? rest, ?_⟩
  have hback : back = rule.red ++ String.ofList tail := by
    rw [← String.toList_inj, String.toList_append, String.toList_ofList, ht]
  unfold ColourRule.text questionPieces
  simp only [List.cons_append, List.nil_append, filled_cons, Piece.filled, hback,
    String.append_assoc]

/-- A block states its rules with whatever the tokens stand for. -/
lemma occurs_rule (h : rule ∈ ColourRule.all) (value? : String → Option String) :
    Occurs
      (rule.text ((Piece.reference "VAR").filled value?)
        ((Piece.reference "THRESH_EXCELLENT").filled value?)
        ((Piece.reference "THRESH_ACCEPTABLE").filled value?))
      (filled value? dimensionPieces) := by
  obtain ⟨first, front, back, hs⟩ := exists_states h
  obtain ⟨rest, hf⟩ := hs.filled_eq value?
  have ho : Occurs (filled value? (linePieces ((dimensionScoreLines.drop first).take 3)))
      (filled value? dimensionPieces) := occurs_filled (linePieces_between _ _ _)
  rw [hf, Occurs, String.toList_append, String.toList_append] at ho
  refine List.IsInfix.trans ?_ ho
  exact (List.prefix_append _ _).isInfix.trans (List.suffix_append _ _).isInfix

end Template

/-- The built-in template states the rules with the tokens. -/
lemma occurs_rule_builtin {rule : ColourRule} (h : rule ∈ ColourRule.all) :
    Occurs (rule.text (token "VAR") (token "THRESH_EXCELLENT") (token "THRESH_ACCEPTABLE"))
      builtinDimensionScore := by
  have ho := occurs_rule h (List.lookup · [])
  rw [← source_eq_filled, source_dimensionPieces] at ho
  exact ho

/-- A rendered block states the rules with the percentages that it prints. -/
lemma Dimension.occurs_rule_render {dimension : Dimension} {bands : ScoreBands}
    {rule : ColourRule} (h : rule ∈ ColourRule.all)
    (hc : CleanFields (dimension.field bands)) :
    Occurs (rule.text dimension.scoreVariable (percentage bands.excellent)
      (percentage bands.acceptable)) (dimension.render bands builtinDimensionScore) := by
  have ho := occurs_rule h (dimension.field bands)
  rw [← Dimension.render_builtin hc] at ho
  exact ho

end QualityBands
