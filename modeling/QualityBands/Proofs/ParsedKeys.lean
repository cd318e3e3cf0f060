import QualityBands.Proofs.DistinctKeys
import QualityBands.Proofs.Reading
import QualityBands.Rules.Source

/-!
Documents that have been read from a text.

Reading refuses a key that its mapping already has, so every mapping in a document has each key
once, also where the document stands for copies by aliases.
-/

namespace QualityBands

namespace Yaml

variable {α β : Type}

/-- Whether all results of a builder have a property, wherever it begins to read. -/
def Builder.Gives (x : Builder α) (P : α → Prop) : Prop :=
  ∀ start result stop, x start = .ok (result, stop) → P result

namespace Builder.Gives

variable {P : α → Prop} {Q : β → Prop}

lemma pure {a : α} (h : P a) : Gives (pure a) P := by
  rintro start _ _ ⟨⟩
  exact h

lemma throw {e : Error} : Gives (throw e) P := nofun

lemma bind {x : Builder α} {f : α → Builder β} (hx : Gives x P)
    (hf : ∀ a, P a → Gives (f a) Q) : Gives (x >>= f) Q := by
  intro start b stop h
  change (x start >>= fun r => f r.1 r.2) = .ok (b, stop) at h
  cases hr : x start with
  | error e => rw [hr] at h; cases h
  | ok r =>
    rw [hr] at h
    exact hf r.1 (hx start r.1 r.2 hr) r.2 b stop h

lemma throw_bind {e : Error} {f : α → Builder β} : Gives (MonadExcept.throw e >>= f) Q := nofun

/-- A step whose result is of no concern. -/
lemma after {x : Builder α} {f : α → Builder β} (hf : ∀ a, Gives (f a) Q) : Gives (x >>= f) Q :=
  bind (P := fun _ => True) (fun _ _ _ _ => trivial) fun a _ => hf a

lemma lift {x : Except Error α} (h : ∀ a, x = .ok a → P a) : Gives (liftM x) P := by
  intro start a stop hx
  cases hr : x with
  | error e => rw [hr] at hx; cases hx
  | ok r =>
    rw [hr] at hx
    cases hx
    exact h _ hr

end Builder.Gives

open Builder (Gives)

namespace Source

variable {s : Source} {path : List String} {depth index : Nat}

lemma keysDiffer_tagged {t : Tree} (h : t.keysDiffer) (properties : Properties) :
    (tagged properties t).keysDiffer := by
  unfold tagged
  split
  · rwa [Tree.keysDiffer]
  · exact h

lemma keysDiffer_scalarTree {mark : Mark} {text : String} {meaning : Meaning} {t : Tree}
    (h : scalarTree path mark text meaning = .ok t) : t.keysDiffer := by
  cases meaning <;> cases h <;> rfl

lemma gives_visit {x : Builder α} {P : α → Prop} (h : Gives x P) (target : Nat) :
    Gives (s.visit target x) P := by
  unfold visit
  refine .after fun here => ?_
  split
  · exact .throw_bind
  · exact .after fun _ => .bind h fun _ ha => .after fun _ => .pure ha

/-- What is read with some fuel has each key once, given that the entries read before have. -/
structure KeepsKeys (s : Source) (fuel : Nat) : Prop where
  node : ∀ path depth, Gives (s.node path depth fuel) fun t => t.keysDiffer
  items : ∀ path depth index,
    Gives (s.items path depth index fuel) fun ts => (Tree.list ts).keysDiffer
  entries : ∀ path depth start done, (Tree.mapping done).keysDiffer →
    Gives (s.entries path depth start done fuel) fun es => (Tree.mapping es).keysDiffer

variable {fuel : Nat}

lemma KeepsKeys.node_succ (h : s.KeepsKeys fuel) (path : List String) (depth : Nat) :
    Gives (s.node path depth (fuel + 1)) fun t => t.keysDiffer := by
  rw [Source.node]
  refine .after fun event => .after fun here => .after fun _ => ?_
  cases event.kind with
  | aliasOf name =>
    dsimp only
    split
    · exact gives_visit (h.node _ _) _
    · exact .throw
  | scalar properties text plain =>
    dsimp only
    split
    · exact .bind (.lift fun _ => keysDiffer_scalarTree) fun _ ht => .pure (keysDiffer_tagged ht _)
    · exact .throw
  | sequenceStart properties =>
    dsimp only
    split
    · exact .throw
    · exact .bind (h.items _ _ _) fun _ ht => .pure (keysDiffer_tagged ht _)
  | mappingStart properties =>
    dsimp only
    split
    · exact .throw
    · exact .bind (h.entries _ _ _ _ rfl) fun _ ht => .pure (keysDiffer_tagged ht _)
  | sequenceEnd => exact .throw
  | mappingEnd => exact .throw

lemma KeepsKeys.items_succ (h : s.KeepsKeys fuel) (path : List String) (depth index : Nat) :
    Gives (s.items path depth index (fuel + 1)) fun ts => (Tree.list ts).keysDiffer := by
  rw [Source.items]
  refine .after fun event => ?_
  split
  · exact .after fun _ => .pure rfl
  · refine .bind (h.node _ _) fun item hi => .bind (h.items _ _ _) fun rest hr => .pure ?_
    exact Tree.keysDiffer_list.mpr (List.forall_mem_cons.mpr ⟨hi, Tree.keysDiffer_list.mp hr⟩)

lemma KeepsKeys.entries_succ (h : s.KeepsKeys fuel) (path : List String) (depth : Nat)
    (start : Mark) {done : List (Tree × Tree)} (hd : (Tree.mapping done).keysDiffer) :
    Gives (s.entries path depth start done (fuel + 1)) fun es =>
      (Tree.mapping es).keysDiffer := by
  rw [Source.entries]
  refine .after fun event => ?_
  split
  · exact .after fun _ => .pure hd
  · refine .bind (h.node _ _) fun key hk => ?_
    split
    · exact .throw_bind
    · next hnew =>
      exact .bind (h.node _ _) fun value hv =>
        h.entries _ _ _ _ (Tree.keysDiffer_concat hd hk hv hnew)

/-- Every node, list of items and list of entries is read with each key once. -/
theorem keepsKeys (s : Source) (fuel : Nat) : s.KeepsKeys fuel := by
  induction fuel with
  | zero =>
    constructor
    · intro path depth
      rw [node]
      exact .throw
    · intro path depth index
      rw [items]
      exact .throw
    · intro path depth start done hd
      rw [entries]
      exact .throw
  | succ fuel ih =>
    exact ⟨ih.node_succ, ih.items_succ, fun path depth start _ => ih.entries_succ path depth start⟩

end Source

lemma Document.keysDiffer_toTree {d : Document} {t : Tree} (h : d.toTree = .ok t) :
    t.keysDiffer := by
  simp only [toTree] at h
  split at h
  · cases h
    rfl
  · obtain ⟨⟨tree, stop⟩, hr, h⟩ := bind_eq_ok_iff.mp h
    have htree : tree.keysDiffer := (Source.keepsKeys _ _).node _ _ _ _ _ hr
    split at h
    · cases h
    · split at h <;> cases h
      exact htree

/-- **A document that is read from a text has each key of each mapping once.** -/
theorem keysDiffer_read {text : String} {t : Tree} (h : read text = .ok t) : t.keysDiffer :=
  Document.keysDiffer_toTree h

end Yaml

theorem Rules.keysDiffer_parse {source : String} {document : Tree}
    (h : parse source = .ok document) : document.keysDiffer := by
  unfold parse at h
  split at h
  · cases h
  · next t hr =>
    split at h <;> cases h
    exact Yaml.keysDiffer_read hr

end QualityBands
