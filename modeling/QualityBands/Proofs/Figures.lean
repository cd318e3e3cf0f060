import QualityBands.Proofs.KeyPaths
import QualityBands.Proofs.Reading

/-!
The figures of a document.

A document has to give six numbers, each at the end of a walk by keys that depends on the
dialect. What is wrong with a figure depends only on what stands at the end of its walk, and is
the failure of the reader that comes there.
-/

namespace QualityBands

/-! ### Failures -/

section
variable {ε α β : Type}

/-- The error of a result that has one. -/
def failure? : Except ε α → Option ε
  | .ok _ => none
  | .error e => some e

lemma failure?_eq_some_iff {x : Except ε α} {e : ε} : failure? x = some e ↔ x = .error e := by
  cases x <;> simp [failure?]

lemma failure?_eq_none_iff {x : Except ε α} : failure? x = none ↔ ∃ a, x = .ok a := by
  cases x <;> simp [failure?]

/-- A step in front comes first, when what follows fails alike whatever the step gives. -/
lemma failure?_bind {x : Except ε α} {f : α → Except ε β} {later : Option ε}
    (h : ∀ a, failure? (f a) = later) : failure? (x >>= f) = (failure? x).or later := by
  cases x with
  | error e => rfl
  | ok a => exact h a

lemma failure?_bind_pure (x : Except ε α) (f : α → β) :
    failure? (x >>= fun a => pure (f a)) = failure? x := by
  cases x <;> rfl

lemma findSome?_cons_eq_or (f : α → Option β) (a : α) (as : List α) :
    (a :: as).findSome? f = (f a).or (as.findSome? f) := by
  rw [List.findSome?_cons]
  cases f a <;> rfl

lemma findSome?_congr {f g : α → Option β} {as : List α} (h : ∀ a ∈ as, f a = g a) :
    as.findSome? f = as.findSome? g := by
  induction as with
  | nil => rfl
  | cons a as ih =>
    obtain ⟨ha, has⟩ := List.forall_mem_cons.mp h
    rw [findSome?_cons_eq_or, findSome?_cons_eq_or, ha, ih has]

end

/-! ### Walks by keys -/

/-- What a document gives at the end of a walk by keys. -/
def Tree.at? (document : Tree) (keys : List String) : Option Tree :=
  keys.foldlM Tree.get? document

namespace Node

/-- The place that keys lead to. -/
def walk (node : Node) (keys : List String) : Node := keys.foldl child node

lemma found_walk (node : Node) (keys : List String) :
    (node.walk keys).found = node.found.bind (·.at? keys) := by
  induction keys generalizing node with
  | nil => cases h : node.found <;> simp [walk, Tree.at?, h]
  | cons key keys ih =>
    rw [walk, List.foldl_cons, ← walk, ih, child]
    cases node.found with
    | none => rfl
    | some t => rfl

lemma walk_append (node : Node) (keys more : List String) :
    node.walk (keys ++ more) = (node.walk keys).walk more :=
  List.foldl_append

lemma Reaches.walk {start node : Node} {keys : List String} (h : start.Reaches keys node)
    (more : List String) : start.Reaches (keys ++ more) (node.walk more) := by
  induction more generalizing node keys with
  | nil => rwa [List.append_nil]
  | cons key more ih =>
    rw [List.append_cons]
    exact ih (h.child key)

lemma path_walk (node : Node) (keys : List String) :
    (node.walk keys).path = dotted (node.path :: keys) :=
  (Reaches.refl.walk keys).path_eq

lemma path_walk_root (document : Tree) {key : String} (h : key ≠ "") (keys : List String) :
    ((root document).walk (key :: keys)).path = ".".intercalate (key :: keys) := by
  rw [path_walk, root, dotted_cons_empty, dotted_cons h]

variable (node : Node)

lemma failure?_toNumber : failure? node.toNumber =
    match node.value?.bind readNumber? with
    | some _ => none
    | none => some (.invalidNumber node.path (describe node.found)) := by
  unfold toNumber
  cases node.value?.bind readNumber? <;> rfl

lemma failure?_toCount : failure? node.toCount =
    match node.value?.bind readCount? with
    | some _ => none
    | none => some (.invalidInteger node.path (describe node.found)) := by
  unfold toCount
  cases node.value?.bind readCount? <;> rfl

end Node

/-! ### Figures -/

/-- What a figure of a document is. -/
inductive FigureKind where
  | percentage
  /-- The count above which a band begins. -/
  | strictBound
  /-- The count with which a band begins. -/
  | firstCount
  /-- The greatest count of the lowest band, which need not be given. -/
  | ceiling
  deriving DecidableEq

/-- A number that a document gives, by the keys that lead to it. -/
structure Figure where
  keys : List String
  kind : FigureKind
  deriving DecidableEq

namespace Figure

def path (figure : Figure) : String := ".".intercalate figure.keys

/-- The value that a document gives for a figure, other than null. -/
def value? (figure : Figure) (document : Tree) : Option Tree :=
  (document.at? figure.keys).filter (!·.isNull)

/-- What is wrong with a value that should be a count. -/
def countFault? (figure : Figure) (document : Tree) : Option RulesError :=
  match (figure.value? document).bind Node.readCount? with
  | some _ => none
  | none => some (.invalidInteger figure.path (Node.describe (document.at? figure.keys)))

/-- What is wrong with the value that a document gives for a figure. -/
def fault? (figure : Figure) (document : Tree) : Option RulesError :=
  match figure.kind with
  | .percentage =>
    match (figure.value? document).bind Node.readNumber? with
    | some _ => none
    | none => some (.invalidNumber figure.path (Node.describe (document.at? figure.keys)))
  | .strictBound =>
    match (figure.value? document).bind Node.readCount? with
    | some count =>
      if count.val = 9223372036854775807 then some (.outOfRange figure.path count) else none
    | none => figure.countFault? document
  | .firstCount => figure.countFault? document
  | .ceiling => if (figure.value? document).isSome then figure.countFault? document else none

end Figure

namespace Dialect

def scoreFigure (band key : String) : Figure :=
  ⟨["dimension_scores", "thresholds", band, key], .percentage⟩

def countFigure (severity : Severity) (key : String) (kind : FigureKind) : Figure :=
  ⟨["error_distribution", "thresholds", severity.key, key], kind⟩

/-- The figures of a document in the order in which they are read. -/
def figures : Dialect → List Figure
  | complete =>
    [scoreFigure "excellent" "value", scoreFigure "acceptable" "value",
     countFigure .critical "value" .strictBound, countFigure .high "value" .strictBound,
     countFigure .medium "value" .strictBound, countFigure .low "threshold_value" .ceiling]
  | legacy =>
    [scoreFigure "excellent" "percentage", scoreFigure "acceptable" "min_percentage",
     countFigure .critical "min_count" .firstCount, countFigure .high "min_count" .firstCount,
     countFigure .medium "min_count" .firstCount, countFigure .low "max_count" .ceiling]

end Dialect

/-! ### Faults and readers -/

namespace Figure

variable {figure : Figure} {document : Tree}

/-- Figures that can be told by their path alone. -/
def Rooted (figure : Figure) : Prop := ∃ key keys, figure.keys = key :: keys ∧ key ≠ ""

/-- The place of a figure in a document. -/
def node (figure : Figure) (document : Tree) : Node := (Node.root document).walk figure.keys

lemma found_node : (figure.node document).found = document.at? figure.keys := by
  rw [node, Node.found_walk]
  rfl

lemma value?_node : (figure.node document).value? = figure.value? document := by
  rw [Node.value?, found_node, value?]

lemma path_node (h : figure.Rooted) : (figure.node document).path = figure.path := by
  obtain ⟨key, keys, hk, hne⟩ := h
  rw [node, path, hk, Node.path_walk_root document hne]

lemma failure?_toCount (h : figure.Rooted) :
    failure? (figure.node document).toCount = figure.countFault? document := by
  rw [Node.failure?_toCount, value?_node, found_node, path_node h, countFault?]

lemma fault?_of_percentage (hk : figure.kind = .percentage) (h : figure.Rooted) :
    figure.fault? document = failure? (figure.node document).toNumber := by
  rw [Node.failure?_toNumber, value?_node, found_node, path_node h, fault?, hk]

lemma fault?_of_firstCount (hk : figure.kind = .firstCount) (h : figure.Rooted) :
    figure.fault? document = failure? (figure.node document).toCount := by
  rw [failure?_toCount h, fault?, hk]

lemma fault?_of_ceiling (hk : figure.kind = .ceiling) (h : figure.Rooted) (default : Count) :
    figure.fault? document = failure? ((figure.node document).toCountOr default) := by
  rw [fault?, hk, Node.toCountOr, value?_node]
  by_cases hs : (figure.value? document).isSome
  · simp only [hs, if_true, failure?_toCount h]
  · simp only [hs]
    rfl

lemma fault?_of_strictBound (hk : figure.kind = .strictBound) (h : figure.Rooted) :
    figure.fault? document =
      match (figure.node document).toCount with
      | .ok count =>
        if count.val = 9223372036854775807 then some (.outOfRange figure.path count) else none
      | .error e => some e := by
  have hf : failure? (figure.node document).toCount = figure.countFault? document :=
    failure?_toCount h
  unfold Node.toCount at hf ⊢
  rw [fault?, hk]
  rw [value?_node] at hf ⊢
  cases hc : (figure.value? document).bind Node.readCount? with
  | some count => rfl
  | none =>
    rw [hc] at hf
    exact hf.symm

end Figure

lemma Count.next?_eq_none_iff {count : Count} :
    count.next? = none ↔ count.val = 9223372036854775807 := by
  have hl := count.lower
  have hu := count.upper
  rw [next?, ofInt?_eq_none_iff]
  omega

namespace Reading

variable {document : Tree}

lemma failure?_strictFloor (thresholds : Node) (severity : Severity) :
    failure? (strictFloor thresholds severity) =
      match ((thresholds.child severity.key).child "value").toCount with
      | .ok count =>
        if count.val = 9223372036854775807 then
          some (.outOfRange ((thresholds.child severity.key).child "value").path count)
        else none
      | .error e => some e := by
  simp only [strictFloor]
  cases hc : ((thresholds.child severity.key).child "value").toCount with
  | error e => rfl
  | ok count =>
    simp only [← Count.next?_eq_none_iff, bind, Except.bind]
    cases hn : count.next? with
    | some minimum => rfl
    | none => rfl

lemma failure?_inclusiveFloor (thresholds : Node) (severity : Severity) :
    failure? (inclusiveFloor thresholds severity) =
      failure? ((thresholds.child severity.key).child "min_count").toCount :=
  failure?_bind_pure _ _

/-- Counts fail at the first band that fails, and then at the ceiling. -/
lemma failure?_counts (thresholds : Node)
    (floor : Node → Severity → Except RulesError CountFloor) (ceiling : String) :
    failure? (counts thresholds floor ceiling) =
      (failure? (floor thresholds .critical)).or
        ((failure? (floor thresholds .high)).or
          ((failure? (floor thresholds .medium)).or
            (failure? (((thresholds.child Severity.low.key).child ceiling).toCountOr
              Rules.defaultLowMaximum)))) := by
  simp only [counts]
  refine failure?_bind fun critical => failure?_bind fun high => failure?_bind fun medium => ?_
  exact failure?_bind_pure _ _

end Reading

end QualityBands
