import Mathlib.Data.List.Basic
import Mathlib.Tactic.Lemma
import QualityBands.Tree.Node

/-!
The path of a place.

A walk goes down a document in steps, each by a key or to an entry of a mapping. Whichever it
takes, the path of the place where it ends is made of the keys of its steps alone.
-/

namespace QualityBands

/-! ### Keys with dots between them -/

/-- Keys joined by dots, without the empty ones in front. -/
def dotted (keys : List String) : String := ".".intercalate (keys.dropWhile String.isEmpty)

variable {key : String} {keys : List String}

lemma dotted_cons_empty (keys : List String) : dotted ("" :: keys) = dotted keys := rfl

lemma dotted_cons (h : key ≠ "") (keys : List String) :
    dotted (key :: keys) = ".".intercalate (key :: keys) := by
  rw [dotted, List.dropWhile_cons_of_neg (by rwa [String.isEmpty_iff])]

lemma dotted_singleton (key : String) : dotted [key] = key := by
  by_cases h : key = ""
  · subst h
    rfl
  · rw [dotted_cons h, String.intercalate_singleton]

lemma dotted_eq_empty_iff : dotted keys = "" ↔ ∀ key ∈ keys, key = "" := by
  induction keys with
  | nil => exact ⟨fun _ => List.forall_mem_nil _, fun _ => rfl⟩
  | cons key keys ih =>
    by_cases h : key = ""
    · subst h
      simp [dotted_cons_empty, ih]
    · rw [dotted_cons h]
      cases keys <;> simp [String.intercalate_cons_cons, h]

/-- A path with one more key is the path of the keys with one more. -/
lemma extend_dotted (keys : List String) (key : String) :
    Node.extend (dotted keys) key = dotted (keys ++ [key]) := by
  induction keys with
  | nil => exact (dotted_singleton key).symm
  | cons first keys ih =>
    by_cases h : first = ""
    · subst h
      rw [List.cons_append, dotted_cons_empty, dotted_cons_empty, ih]
    · have hne : ¬ (dotted (first :: keys)).isEmpty := by
        rw [String.isEmpty_iff, dotted_eq_empty_iff]
        exact fun hall => h (hall first List.mem_cons_self)
      rw [Node.extend, if_neg hne, List.cons_append, dotted_cons h, dotted_cons h,
        ← List.cons_append, String.intercalate_append_of_ne_nil (List.cons_ne_nil _ _)
          (List.cons_ne_nil _ _), String.intercalate_singleton]

/-- Further keys only add to a path, and each adds something unless all before it are empty. -/
lemma exists_dotted_cons (path : String) (keys : List String) :
    ∃ more, dotted (path :: keys) = path ++ more ∧
      (more = "" ↔ keys = [] ∨ path = "" ∧ ∀ key ∈ keys, key = "") := by
  by_cases h : path = ""
  · subst h
    refine ⟨dotted keys, by rw [dotted_cons_empty, String.empty_append], ?_⟩
    rw [dotted_eq_empty_iff]
    constructor
    · exact fun hall => Or.inr ⟨rfl, hall⟩
    · rintro (rfl | ⟨-, hall⟩)
      · exact List.forall_mem_nil _
      · exact hall
  · cases keys with
    | nil => exact ⟨"", by rw [dotted_singleton, String.append_empty], by simp⟩
    | cons key keys =>
      refine ⟨"." ++ ".".intercalate (key :: keys), ?_, by simp [h]⟩
      rw [dotted_cons h, String.intercalate_cons_cons, String.append_assoc]

/-! ### Walks -/

namespace Node

/-- A walk leads from a place to another by steps with these keys, each to what is under the key
or to an entry that has it. -/
inductive Reaches (start : Node) : List String → Node → Prop where
  | refl : Reaches start [] start
  | child {node : Node} {keys : List String} (h : Reaches start keys node) (key : String) :
    Reaches start (keys ++ [key]) (node.child key)
  | entry {node place : Node} {keys : List String} {key : String} (h : Reaches start keys node)
    (he : (key, place) ∈ node.entries) : Reaches start (keys ++ [key]) place

variable {start node place : Node}

lemma path_of_mem_entries (h : (key, place) ∈ node.entries) :
    place.path = extend node.path key := by
  obtain ⟨⟨k, value⟩, -, hk⟩ := List.mem_filterMap.mp h
  obtain ⟨text, -, heq⟩ := Option.map_eq_some_iff.mp hk
  cases heq
  rfl

/-- The path where a walk ends has the keys of its steps behind the path where it began. -/
lemma Reaches.path_eq (h : start.Reaches keys node) : node.path = dotted (start.path :: keys) := by
  induction h with
  | refl => exact (dotted_singleton start.path).symm
  | child _ key ih => rw [Node.child, ih, extend_dotted, List.cons_append]
  | entry _ he ih => rw [path_of_mem_entries he, ih, extend_dotted, List.cons_append]

lemma Reaches.path_eq_of_root {document : Tree} (h : (root document).Reaches keys node) :
    node.path = dotted keys := by
  rw [h.path_eq, root, dotted_cons_empty]

end Node

end QualityBands
