import Mathlib.Data.List.Basic
import Mathlib.Tactic.Lemma
import QualityBands.Template.Token

/-!
Templates as sequences of literal parts and references.

A template is well separated when its literals hold no at sign and between any two references
there is a literal with a character that no replaced name holds. Every text is the source of
some sequence, which is found by cutting it at the delimiters.
-/

namespace QualityBands.Text

/-- Whether a pattern stands somewhere in a text. -/
def Occurs (pattern text : String) : Prop := pattern.toList <:+: text.toList

instance (pattern text : String) : Decidable (Occurs pattern text) :=
  inferInstanceAs (Decidable (pattern.toList <:+: text.toList))

lemma Occurs.trans {part text whole : String} (h : Occurs part text) (ht : Occurs text whole) :
    Occurs part whole :=
  List.IsInfix.trans h ht

/-- The part of a text in front of a mark that is not in it. -/
lemma takeWhile_ne {mark : Char} {front : List Char} (h : mark ∉ front) (rest : List Char) :
    (front ++ mark :: rest).takeWhile (· ≠ mark) = front := by
  rw [List.takeWhile_append_of_pos, List.takeWhile_cons_of_neg (by simp), List.append_nil]
  intro c hc
  simpa using fun he : c = mark => h (he ▸ hc)

end QualityBands.Text

namespace QualityBands.Template

open Text

/-- Names that can stand in a token. -/
def IsName (name : String) : Prop := name ≠ "" ∧ '@' ∉ name.toList

instance (name : String) : Decidable (IsName name) := inferInstanceAs (Decidable (_ ∧ _))

inductive Piece where
  | literal (text : String)
  | reference (name : String)
  deriving DecidableEq

namespace Piece

def isLiteral : Piece → Bool
  | literal _ => true
  | reference _ => false

def WellFormed : Piece → Prop
  | literal text => '@' ∉ text.toList
  | reference name => IsName name

instance : DecidablePred WellFormed
  | literal text => inferInstanceAs (Decidable ('@' ∉ text.toList))
  | reference name => inferInstanceAs (Decidable (IsName name))

/-- A literal with a character that stands in none of the names. -/
def Fences (names : List String) : Piece → Prop
  | literal text => ∃ c ∈ text.toList, ∀ name ∈ names, c ∉ name.toList
  | reference _ => False

instance (names : List String) : DecidablePred (Fences names)
  | literal text =>
    decidable_of_iff (text.toList.any fun c => names.all fun name => c ∉ name.toList)
      (by simp [Fences])
  | reference _ => inferInstanceAs (Decidable False)

def source : Piece → String
  | literal text => text
  | reference name => token name

/-- A reference gives way to the value of its name, and stays if there is none. -/
def filled (value? : String → Option String) : Piece → String
  | literal text => text
  | reference name => (value? name).getD (token name)

end Piece

/-- The template that a sequence of parts stands for. -/
def source (pieces : List Piece) : String := String.join (pieces.map Piece.source)

/-- All references replaced at once. -/
def filled (value? : String → Option String) (pieces : List Piece) : String :=
  String.join (pieces.map (Piece.filled value?))

@[simp] lemma filled_nil (value? : String → Option String) : filled value? [] = "" := rfl

lemma filled_cons (value? : String → Option String) (piece : Piece) (pieces : List Piece) :
    filled value? (piece :: pieces) = piece.filled value? ++ filled value? pieces := by
  simp [filled]

lemma filled_append (value? : String → Option String) (front back : List Piece) :
    filled value? (front ++ back) = filled value? front ++ filled value? back := by
  simp [filled]

@[simp] lemma toList_token (name : String) :
    (token name).toList = '@' :: '@' :: (name.toList ++ ['@', '@']) := by
  simp [token, delimiter]

/-- References are told apart: two of them with only literals between have a fence there. -/
structure WellSeparated (names : List String) (pieces : List Piece) : Prop where
  wellFormed : ∀ piece ∈ pieces, piece.WellFormed
  apart : ∀ before first between second after,
    pieces = before ++ .reference first :: between ++ .reference second :: after →
    (∀ piece ∈ between, piece.isLiteral) → ∃ piece ∈ between, piece.Fences names

variable {names : List String} {pieces : List Piece}

lemma WellSeparated.tail {piece : Piece} (h : WellSeparated names (piece :: pieces)) :
    WellSeparated names pieces where
  wellFormed p hp := h.wellFormed p (List.mem_cons_of_mem _ hp)
  apart before first between second after hp :=
    h.apart (piece :: before) first between second after (by rw [hp]; rfl)

lemma WellSeparated.mono {others : List String} (h : WellSeparated names pieces)
    (hsub : ∀ name ∈ others, name ∈ names) : WellSeparated others pieces where
  wellFormed := h.wellFormed
  apart before first between second after hp hl := by
    obtain ⟨piece, hmem, hf⟩ := h.apart before first between second after hp hl
    refine ⟨piece, hmem, ?_⟩
    cases piece with
    | literal text =>
      obtain ⟨c, hc, hn⟩ := hf
      exact ⟨c, hc, fun name ho => hn name (hsub name ho)⟩
    | reference name => exact hf

/-- The first reference of a template, if there is one, with the literals before it. -/
lemma exists_first_reference (pieces : List Piece) :
    (∀ piece ∈ pieces, piece.isLiteral) ∨
      ∃ between name after, pieces = between ++ .reference name :: after ∧
        ∀ piece ∈ between, piece.isLiteral := by
  induction pieces with
  | nil => exact Or.inl (by simp)
  | cons piece pieces ih =>
    cases piece with
    | reference name => exact Or.inr ⟨[], name, pieces, rfl, by simp⟩
    | literal text =>
      rcases ih with h | ⟨between, name, after, rfl, h⟩
      · exact Or.inl (List.forall_mem_cons.mpr ⟨rfl, h⟩)
      · exact Or.inr ⟨.literal text :: between, name, after, rfl,
          List.forall_mem_cons.mpr ⟨rfl, h⟩⟩

/-! ### Checking separation in one scan -/

/-- The flag tells that a reference has been read and no fence since. -/
def fenced (names : List String) : Bool → List Piece → Bool
  | _, [] => true
  | isOpen, .literal text :: rest =>
    fenced names (isOpen && !decide ((Piece.literal text).Fences names)) rest
  | isOpen, .reference _ :: rest => !isOpen && fenced names true rest

lemma fenced_of_append {before after : List Piece} {name : String} {isOpen : Bool}
    (h : fenced names isOpen (before ++ .reference name :: after)) :
    fenced names true after := by
  induction before generalizing isOpen with
  | nil =>
    simp only [List.nil_append, fenced, Bool.and_eq_true] at h
    exact h.2
  | cons piece before ih =>
    cases piece with
    | literal text => exact ih h
    | reference other =>
      simp only [List.cons_append, fenced, Bool.and_eq_true] at h
      exact ih h.2

lemma exists_fence {between after : List Piece} {name : String}
    (h : fenced names true (between ++ .reference name :: after))
    (hl : ∀ piece ∈ between, piece.isLiteral) : ∃ piece ∈ between, piece.Fences names := by
  induction between with
  | nil => simp [fenced] at h
  | cons piece between ih =>
    cases piece with
    | reference other => cases hl (.reference other) (by simp)
    | literal text =>
      by_cases hf : (Piece.literal text).Fences names
      · exact ⟨_, by simp, hf⟩
      · simp only [List.cons_append, fenced, hf, decide_false, Bool.not_false,
          Bool.and_self] at h
        obtain ⟨piece, hp, hf⟩ := ih h fun p hp => hl p (List.mem_cons_of_mem _ hp)
        exact ⟨piece, List.mem_cons_of_mem _ hp, hf⟩

lemma wellSeparated_of_fenced (hw : ∀ piece ∈ pieces, piece.WellFormed)
    (h : fenced names false pieces) : WellSeparated names pieces where
  wellFormed := hw
  apart before first between second after hp hl := by
    rw [hp, List.append_assoc, List.cons_append] at h
    exact exists_fence (fenced_of_append h) hl

/-! ### The pieces of a text -/

/-- The parts of a text between its delimiters. -/
def cut : List Char → List (List Char)
  | [] => [[]]
  | '@' :: '@' :: rest => [] :: cut rest
  | c :: rest => (cut rest).modifyHead (c :: ·)

/-- Every other part is a name, as long as a delimiter follows it. -/
def alternate : List (List Char) → List Piece
  | [] => []
  | [text] => [.literal (String.ofList text)]
  | [text, rest] => [.literal (String.ofList (text ++ '@' :: '@' :: rest))]
  | text :: name :: rest =>
    .literal (String.ofList text) :: .reference (String.ofList name) :: alternate rest

def piecesOf (text : String) : List Piece := alternate (cut text.toList)

lemma cut_ne_nil (text : List Char) : cut text ≠ [] := by
  fun_induction cut text with
  | case1 => simp
  | case2 => simp
  | case3 c rest _ ih =>
    obtain ⟨part, parts, hp⟩ := List.exists_cons_of_ne_nil ih
    simp [hp]

lemma intercalate_cut (text : List Char) : ['@', '@'].intercalate (cut text) = text := by
  fun_induction cut text with
  | case1 => rfl
  | case2 rest ih =>
    obtain ⟨part, parts, hp⟩ := List.exists_cons_of_ne_nil (cut_ne_nil rest)
    rw [hp] at ih ⊢
    rw [List.intercalate_cons_cons, ih]
    rfl
  | case3 c rest _ ih =>
    obtain ⟨part, parts, hp⟩ := List.exists_cons_of_ne_nil (cut_ne_nil rest)
    rw [hp] at ih ⊢
    rw [← ih]
    cases parts <;> simp [List.intercalate_cons_cons]

lemma source_cons (piece : Piece) (pieces : List Piece) :
    source (piece :: pieces) = piece.source ++ source pieces := by
  simp [source]

lemma source_append (front back : List Piece) :
    source (front ++ back) = source front ++ source back := by
  simp [source]

lemma toList_source_alternate (parts : List (List Char)) :
    (source (alternate parts)).toList = ['@', '@'].intercalate parts := by
  fun_induction alternate parts with
  | case1 => rfl
  | case2 text => simp [source, Piece.source]
  | case3 text rest => simp [source, Piece.source]
  | case4 text name rest hne ih =>
    obtain ⟨part, parts, rfl⟩ := List.exists_cons_of_ne_nil hne
    rw [source_cons, source_cons, String.toList_append, String.toList_append, ih,
      List.intercalate_cons_cons, List.intercalate_cons_cons]
    simp [Piece.source]

theorem source_piecesOf (text : String) : source (piecesOf text) = text := by
  rw [← String.toList_inj, piecesOf, toList_source_alternate, intercalate_cut]

end QualityBands.Template
