import Mathlib.Data.List.Basic
import QualityBands.Proofs.Pieces
import QualityBands.Template.Builtin

/-!
Templates that are given by their lines.

A line is regular when it is cut into texts and tokens in turn and the text between two tokens
is marked by a character that no name has. Templates of regular lines are well separated.
-/

namespace QualityBands.Template

open Text

/-- The parts of a template that is given by its lines. -/
def linePieces (lines : List String) : List Piece :=
  lines.flatMap fun line => piecesOf line ++ [.literal "\n"]

lemma source_linePieces (lines : List String) : source (linePieces lines) = ofLines lines := by
  induction lines with
  | nil => rfl
  | cons line lines ih =>
    rw [linePieces, List.flatMap_cons, source_append, source_append, source_piecesOf, ← linePieces,
      ih]
    simp [source, Piece.source, ofLines]

section
variable {lines : List String} {line : String}

lemma mem_linePieces {piece : Piece} {cs : List Char} (hm : line ∈ lines)
    (hl : line = String.ofList cs) (hp : piece ∈ alternate (cut cs)) :
    piece ∈ linePieces lines := by
  refine List.mem_flatMap.mpr ⟨line, hm, List.mem_append_left _ ?_⟩
  rwa [piecesOf, hl, String.toList_ofList]

lemma occurs_line (value? : String → Option String) (hl : line ∈ lines) :
    Occurs (filled value? (piecesOf line)) (filled value? (linePieces lines)) := by
  obtain ⟨front, back, rfl⟩ := List.append_of_mem hl
  rw [linePieces, List.flatMap_append, List.flatMap_cons, ← linePieces, ← linePieces]
  exact ⟨(filled value? (linePieces front)).toList,
    '\n' :: (filled value? (linePieces back)).toList, by simp [filled_append, filled_cons, Piece.filled]⟩

/-- The parts of a line as they come out of its characters. -/
lemma piecesOf_of_chars {cs : List Char} {pieces : List Piece} (parts : List (List Char))
    (hl : line = String.ofList cs) (hp : pieces = alternate parts) (hc : cut cs = parts) :
    piecesOf line = pieces := by
  rw [piecesOf, hl, String.toList_ofList, hc, hp]

end

/-- The characters of the names of tokens. -/
def isNameChar (c : Char) : Bool := c.isUpper || c = '_'

/-- Whether the first part is the last one or holds a character of no name. -/
def marked : List (List Char) → Bool
  | [] => false
  | [_] => true
  | text :: _ => text.any (!isNameChar ·)

/-- Whether the parts of a line are texts and tokens in turn, with a marked text behind each
token. -/
def regular (tokens : List String) : List (List Char) → Bool
  | [] => false
  | [text] => '@' ∉ text
  | text :: name :: rest =>
    '@' ∉ text && String.ofList name ∈ tokens && marked rest && regular tokens rest

variable {tokens : List String} {parts : List (List Char)} {more : List Piece}

/-- Names of tokens as they are written. -/
def AreNames (tokens : List String) : Prop :=
  ∀ name ∈ tokens, IsName name ∧ ∀ c ∈ name.toList, isNameChar c

lemma fences_newline (ht : AreNames tokens) : (Piece.literal "\n").Fences tokens :=
  ⟨'\n', by decide, fun name hn hc => absurd ((ht name hn).2 _ hc) (by decide)⟩

lemma fenced_of_marked (ht : AreNames tokens) (hm : marked parts) (hr : regular tokens parts)
    (h : fenced tokens false (alternate parts ++ .literal "\n" :: more)) :
    fenced tokens true (alternate parts ++ .literal "\n" :: more) := by
  match parts, hm, hr, h with
  | [text], _, _, h =>
    simpa [alternate, fenced, fences_newline ht] using h
  | [text, name], _, hr, _ => simp [regular] at hr
  | text :: name :: rest :: parts, hm, _, h =>
    have hf : (Piece.literal (String.ofList text)).Fences tokens := by
      obtain ⟨c, hc, hn⟩ := List.any_eq_true.mp hm
      refine ⟨c, by simpa using hc, fun name hname hmem => ?_⟩
      simp [(ht name hname).2 c hmem] at hn
    simpa [alternate, fenced, hf] using h

lemma fenced_line (ht : AreNames tokens) (hr : regular tokens parts)
    (h : fenced tokens false more) :
    fenced tokens false (alternate parts ++ .literal "\n" :: more) := by
  fun_induction alternate parts with
  | case1 => simp [regular] at hr
  | case2 text => simpa [fenced] using h
  | case3 text rest => simp [regular, marked] at hr
  | case4 text name rest hne ih =>
    simp only [regular, Bool.and_eq_true] at hr
    simpa [fenced] using fenced_of_marked ht hr.1.2 hr.2 (ih hr.2)

lemma wellFormed_line (ht : AreNames tokens) (hr : regular tokens parts) :
    ∀ piece ∈ alternate parts, piece.WellFormed ∧
      ∀ name, piece = .reference name → name ∈ tokens := by
  fun_induction alternate parts with
  | case1 => simp
  | case2 text =>
    simp only [regular, decide_eq_true_eq] at hr
    simpa [Piece.WellFormed] using hr
  | case3 text rest => simp [regular, marked] at hr
  | case4 text name rest hne ih =>
    simp only [regular, Bool.and_eq_true, decide_eq_true_eq] at hr
    obtain ⟨⟨⟨h1, h2⟩, -⟩, h3⟩ := hr
    refine List.forall_mem_cons.mpr ⟨⟨by simpa [Piece.WellFormed] using h1, nofun⟩,
      List.forall_mem_cons.mpr ⟨⟨(ht _ h2).1, ?_⟩, ih h3⟩⟩
    rintro _ ⟨⟩
    exact h2

/-- A well-separated template that refers to these tokens only. -/
structure IsTemplate (tokens : List String) (pieces : List Piece) : Prop where
  separated : WellSeparated tokens pieces
  known : ∀ name, .reference name ∈ pieces → name ∈ tokens

lemma isTemplate_linePieces {lines : List String} (ht : AreNames tokens)
    (h : ∀ line ∈ lines, regular tokens (cut line.toList)) :
    IsTemplate tokens (linePieces lines) := by
  have hw : ∀ piece ∈ linePieces lines, piece.WellFormed ∧
      ∀ name, piece = .reference name → name ∈ tokens := by
    intro piece hp
    obtain ⟨line, hl, hp⟩ := List.mem_flatMap.mp hp
    rcases List.mem_append.mp hp with hp | hp
    · exact wellFormed_line ht (h line hl) piece hp
    · obtain rfl := List.mem_singleton.mp hp
      exact ⟨show '@' ∉ "\n".toList by decide, nofun⟩
  have hf : fenced tokens false (linePieces lines) := by
    clear hw
    induction lines with
    | nil => rfl
    | cons line lines ih =>
      rw [linePieces, List.flatMap_cons, List.append_assoc, ← linePieces]
      exact fenced_line ht (h line List.mem_cons_self)
        (ih fun line hl => h line (List.mem_cons_of_mem _ hl))
  exact ⟨wellSeparated_of_fenced (fun piece hp => (hw piece hp).1) hf,
    fun name hn => (hw _ hn).2 name rfl⟩

end QualityBands.Template
