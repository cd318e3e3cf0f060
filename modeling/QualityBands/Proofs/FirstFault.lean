import QualityBands.Proofs.Figures

/-!
Why a document gives no rules.

Reading fails exactly when a figure is at fault, and then with the fault of the first one: the
path of its keys and what stands there. Nothing else in a document can make its reading fail.
-/

namespace QualityBands

/-! ### Dialects -/

namespace Dialect

variable {document : Tree}

lemma rooted_scoreFigure (band key : String) : (scoreFigure band key).Rooted :=
  ⟨_, _, rfl, by decide⟩

lemma rooted_countFigure (severity : Severity) (key : String) (kind : FigureKind) :
    (countFigure severity key kind).Rooted :=
  ⟨_, _, rfl, by decide⟩

lemma fault?_scoreFigure (band key : String) : (scoreFigure band key).fault? document =
    failure? (((Place.percentages document).child band).child key).toNumber :=
  Figure.fault?_of_percentage rfl (rooted_scoreFigure band key)

lemma fault?_strictBound (severity : Severity) :
    (countFigure severity "value" .strictBound).fault? document =
      failure? (Reading.strictFloor (Place.counts document) severity) := by
  have hr := rooted_countFigure severity "value" .strictBound
  have hp : ((countFigure severity "value" .strictBound).node document).path =
      (countFigure severity "value" .strictBound).path := Figure.path_node hr
  rw [Figure.fault?_of_strictBound rfl hr, ← hp, Reading.failure?_strictFloor]
  rfl

lemma fault?_firstCount (severity : Severity) :
    (countFigure severity "min_count" .firstCount).fault? document =
      failure? (Reading.inclusiveFloor (Place.counts document) severity) := by
  rw [Figure.fault?_of_firstCount rfl (rooted_countFigure _ _ _),
    Reading.failure?_inclusiveFloor]
  rfl

lemma fault?_ceiling (key : String) : (countFigure .low key .ceiling).fault? document =
    failure? ((((Place.counts document).child Severity.low.key).child key).toCountOr
      Rules.defaultLowMaximum) :=
  Figure.fault?_of_ceiling rfl (rooted_countFigure _ _ _) Rules.defaultLowMaximum

lemma failure?_complete : failure? (Reading.complete document) =
    complete.figures.findSome? fun figure => figure.fault? document := by
  simp only [figures, findSome?_cons_eq_or, List.findSome?_nil, Option.or_none,
    fault?_scoreFigure, fault?_strictBound, fault?_ceiling, ← Reading.failure?_counts]
  simp only [Reading.complete]
  refine failure?_bind fun excellent => failure?_bind fun acceptable => ?_
  exact failure?_bind_pure _ _

lemma failure?_legacy : failure? (Reading.legacy document) =
    legacy.figures.findSome? fun figure => figure.fault? document := by
  simp only [figures, findSome?_cons_eq_or, List.findSome?_nil, Option.or_none,
    fault?_scoreFigure, fault?_firstCount, fault?_ceiling, ← Reading.failure?_counts]
  simp only [Reading.legacy]
  refine failure?_bind fun excellent => failure?_bind fun acceptable => ?_
  exact failure?_bind_pure _ _

lemma failure?_read (hm : document.isMapping) : failure? (Rules.read document) =
    (detect document).figures.findSome? fun figure => figure.fault? document := by
  unfold Rules.read
  rw [if_pos hm]
  cases hd : detect document with
  | complete => exact failure?_complete
  | legacy => exact failure?_legacy

end Dialect

/-! ### Failing readings -/

/-- The error tells the fault of the first figure that has one. -/
def Tree.FirstFault (document : Tree) (e : RulesError) : Prop :=
  ∃ before figure after, (Dialect.detect document).figures = before ++ figure :: after ∧
    (∀ earlier ∈ before, earlier.fault? document = none) ∧ figure.fault? document = some e

/-- Whether an error is about what a document gives, and not about its file or its text. -/
def RulesError.isOfDocument : RulesError → Bool
  | .notAMapping | .invalidNumber .. | .invalidInteger .. | .outOfRange .. => true
  | .notFound .. | .unreadable .. | .malformed .. | .missingTemplate .. => false

namespace Figure

variable {figure : Figure} {document : Tree} {e : RulesError}

lemma isOfDocument_of_countFault (h : figure.countFault? document = some e) :
    e.isOfDocument ∧ ∀ path count, e ≠ .outOfRange path count := by
  unfold countFault? at h
  split at h <;> cases h
  exact ⟨rfl, fun _ _ => by simp⟩

lemma isOfDocument_of_fault (h : figure.fault? document = some e) : e.isOfDocument := by
  unfold fault? at h
  split at h
  · split at h <;> cases h
    rfl
  · split at h
    · split at h <;> cases h
      rfl
    · exact (isOfDocument_of_countFault h).1
  · exact (isOfDocument_of_countFault h).1
  · split at h
    · exact (isOfDocument_of_countFault h).1
    · cases h

/-- Only a bound can be out of range, and only if it is the greatest count. -/
lemma strictBound_of_outOfRange {path : String} {count : Count}
    (h : figure.fault? document = some (.outOfRange path count)) :
    figure.kind = .strictBound ∧ path = figure.path ∧
      (figure.value? document).bind Node.readCount? = some count ∧
      count.val = 9223372036854775807 := by
  unfold fault? at h
  split at h
  · split at h <;> cases h
  · next hk =>
    split at h
    · next found hc =>
      split at h
      · next hg =>
        cases h
        exact ⟨hk, rfl, hc, hg⟩
      · cases h
    · exact absurd rfl ((isOfDocument_of_countFault h).2 _ _)
  · exact absurd rfl ((isOfDocument_of_countFault h).2 _ _)
  · split at h
    · exact absurd rfl ((isOfDocument_of_countFault h).2 _ _)
    · cases h

lemma fault?_congr {other : Tree} (h : other.at? figure.keys = document.at? figure.keys) :
    figure.fault? other = figure.fault? document := by
  unfold fault? countFault? value?
  rw [h]

end Figure

section
variable {document : Tree} {e : RulesError}

lemma Dialect.eq_complete_of_strictBound {dialect : Dialect} {figure : Figure}
    (h : figure ∈ dialect.figures) (hk : figure.kind = .strictBound) : dialect = .complete := by
  cases dialect with
  | complete => rfl
  | legacy =>
    simp only [figures, List.mem_cons, List.not_mem_nil, or_false] at h
    rcases h with rfl | rfl | rfl | rfl | rfl | rfl <;> cases hk

lemma read_of_not_isMapping (h : ¬ document.isMapping) :
    Rules.read document = .error .notAMapping := if_neg h

lemma read_eq_error_iff (hm : document.isMapping) :
    Rules.read document = .error e ↔ document.FirstFault e := by
  rw [← failure?_eq_some_iff, Dialect.failure?_read hm, List.findSome?_eq_some_iff]
  refine exists_congr fun before => exists_congr fun figure => exists_congr fun after => ?_
  exact and_congr_right fun _ => and_comm

lemma read_eq_ok_iff_faultless (hm : document.isMapping) :
    (∃ r, Rules.read document = .ok r) ↔
      ∀ figure ∈ (Dialect.detect document).figures, figure.fault? document = none := by
  rw [← failure?_eq_none_iff, Dialect.failure?_read hm, List.findSome?_eq_none_iff]

/-- **Reading fails at the first fault.** A mapping gives rules exactly when none of the figures
of its dialect is at fault, and else the error is the fault of the first one. Only the greatest
count as a bound is out of range. What a document holds elsewhere has no part in this. -/
theorem read_fails_at_first_fault (document : Tree) :
    ((∃ r, Rules.read document = .ok r) ↔ document.isMapping ∧
        ∀ figure ∈ (Dialect.detect document).figures, figure.fault? document = none) ∧
      (∀ e, Rules.read document = .error e ↔
        ¬ document.isMapping ∧ e = .notAMapping ∨ document.isMapping ∧ document.FirstFault e) ∧
      (∀ path count, Rules.read document = .error (.outOfRange path count) →
        Dialect.detect document = .complete ∧ count.val = 9223372036854775807 ∧
          ∃ figure ∈ Dialect.complete.figures, figure.kind = .strictBound ∧ path = figure.path ∧
            (figure.value? document).bind Node.readCount? = some count) ∧
      (∀ e, Rules.read document = .error e → e.isOfDocument) ∧
      ∀ other : Tree, other.isMapping = document.isMapping →
        Dialect.detect other = Dialect.detect document →
        (∀ figure ∈ (Dialect.detect document).figures,
          other.at? figure.keys = document.at? figure.keys) →
        ∀ e, Rules.read other = .error e ↔ Rules.read document = .error e := by
  by_cases hm : document.isMapping
  · simp only [hm, not_true_eq_false, false_and, true_and, false_or]
    refine ⟨read_eq_ok_iff_faultless hm, fun e => read_eq_error_iff hm, fun path count h => ?_,
      fun e h => ?_, fun other ho hd ha e => ?_⟩
    · obtain ⟨before, figure, after, hf, -, h⟩ := (read_eq_error_iff hm).mp h
      have hmem : figure ∈ (Dialect.detect document).figures := by simp [hf]
      obtain ⟨hk, hp, hc, hg⟩ := Figure.strictBound_of_outOfRange h
      have hd := Dialect.eq_complete_of_strictBound hmem hk
      rw [hd] at hmem
      exact ⟨hd, hg, figure, hmem, hk, hp, hc⟩
    · obtain ⟨before, figure, after, -, -, h⟩ := (read_eq_error_iff hm).mp h
      exact Figure.isOfDocument_of_fault h
    · rw [← failure?_eq_some_iff, ← failure?_eq_some_iff, Dialect.failure?_read ho,
        Dialect.failure?_read hm, hd]
      rw [findSome?_congr fun figure hf => Figure.fault?_congr (ha figure hf)]
  · have hn := read_of_not_isMapping hm
    refine ⟨by simp [hn, hm], fun e => ?_, fun path count h => ?_, fun e h => ?_,
      fun other ho _ _ e => ?_⟩
    · rw [hn, Except.error.injEq]
      simp [hm, eq_comm]
    · rw [hn] at h
      cases h
    · rw [hn] at h
      cases h
      rfl
    · rw [hn, read_of_not_isMapping (by rwa [ho])]

end

example : (Dialect.complete.figures ++ Dialect.legacy.figures).map Figure.path =
    ["dimension_scores.thresholds.excellent.value",
     "dimension_scores.thresholds.acceptable.value",
     "error_distribution.thresholds.critical.value",
     "error_distribution.thresholds.high.value",
     "error_distribution.thresholds.medium.value",
     "error_distribution.thresholds.low.threshold_value",
     "dimension_scores.thresholds.excellent.percentage",
     "dimension_scores.thresholds.acceptable.min_percentage",
     "error_distribution.thresholds.critical.min_count",
     "error_distribution.thresholds.high.min_count",
     "error_distribution.thresholds.medium.min_count",
     "error_distribution.thresholds.low.max_count"] := by decide +kernel

/-- A complete document with the greatest count as its bound for high, no bound for medium, and
anything as its dimensions. -/
def greatestBoundDocument (dimensions : Tree) : Tree :=
  .mapping
    [(.text "global", .mapping []),
     (.text "dimension_scores", .tagged "!t" (.mapping
       [(.text "enabled", .bool false),
        (.text "thresholds", .mapping
          [(.text "excellent", .mapping [(.text "value", .text " 95 ")]),
           (.text "acceptable", .mapping [(.text "value", .number (.integer 80))])]),
        (.text "dimensions", dimensions)])),
     (.text "error_distribution", .mapping
       [(.text "thresholds", .mapping
         [(.text "critical", .mapping [(.text "value", .number (.integer 5))]),
          (.text "high", .mapping [(.text "value", .text "9223372036854775807")]),
          (.text "medium", .list [])])])]

theorem read_fails_at_first_fault_greatest_bound :
    let high := RulesError.outOfRange "error_distribution.thresholds.high.value"
      ⟨9223372036854775807, by decide, by decide⟩
    (Figure.fault? (Dialect.countFigure .medium "value" .strictBound)
        (greatestBoundDocument .null)).isSome ∧
      Rules.read (greatestBoundDocument .null) = .error high ∧
      Rules.read (greatestBoundDocument (.list [.mapping []])) = .error high ∧
      Dialect.detect (greatestBoundDocument .null) = .complete ∧ high.isOfDocument := by
  intro high
  obtain ⟨-, herror, hrange, hkind, hother⟩ :=
    read_fails_at_first_fault (greatestBoundDocument .null)
  have hfirst : (greatestBoundDocument .null).FirstFault high :=
    ⟨Dialect.complete.figures.take 3, Dialect.countFigure .high "value" .strictBound,
      Dialect.complete.figures.drop 4, by decide +kernel, by decide +kernel, by decide +kernel⟩
  have hread := (herror high).mpr (.inr ⟨by decide +kernel, hfirst⟩)
  have hd : Dialect.detect (greatestBoundDocument .null) = .complete := (hrange _ _ hread).1
  have hsame : ∀ figure ∈ (Dialect.detect (greatestBoundDocument .null)).figures,
      (greatestBoundDocument (.list [.mapping []])).at? figure.keys =
        (greatestBoundDocument .null).at? figure.keys := by
    intro figure hf
    rw [hd] at hf
    simp only [Dialect.figures, List.mem_cons, List.not_mem_nil, or_false] at hf
    rcases hf with rfl | rfl | rfl | rfl | rfl | rfl <;> rfl
  have hread' := (hother (greatestBoundDocument (.list [.mapping []])) (by decide +kernel)
    (by decide +kernel) hsame high).mpr hread
  exact ⟨by decide +kernel, hread, hread', hd, hkind _ hread⟩

end QualityBands
