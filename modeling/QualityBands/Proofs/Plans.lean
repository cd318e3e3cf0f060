import QualityBands.Proofs.Outcomes

/-!
What plans consist of.

A plan is talk about the rules, then the deeds that valid rules lead to, or else a report on why
the rules cannot be used. The deeds and their order depend on no setting of verbosity, and a
report on rules can be told from a report on files.
-/

namespace QualityBands

open FileSystem (Found)

namespace Plan

variable {verbosity : Verbosity} {config : Path} {found : Found} {next : Rules → List Action}
  {reading : Reading}

/-- Why the rules cannot be used, if they cannot. -/
def refusal? (config : Path) (found : Found) : Option Report :=
  match load config found with
  | .error e => some e.report
  | .ok reading =>
    match reading.rules.validate with
    | .error e => some e.report
    | .ok () => none

/-- The deeds that valid rules lead to, in their order. -/
def deeds (out : Path) (fragments : Option Path) (snippets : Snippets) : List Action :=
  [.createDirectories out,
   .write (out.child Snippets.dimensionFile) snippets.dimensionSection,
   .write (out.child Snippets.errorFile) snippets.errorSection] ++
    match fragments with
    | some path => makeParent path ++ [.write path snippets.fragmentsDocument]
    | none => []

lemma isTalk_only {condition : Bool} {actions : List Action}
    (h : ∀ action ∈ actions, action.isTalk) : ∀ action ∈ only condition actions, action.isTalk := by
  unfold only
  split
  · exact h
  · exact List.forall_mem_nil _

lemma isTalk_status : ∀ action ∈ status verbosity reading, action.isTalk := by
  unfold status
  refine List.forall_mem_append.mpr ⟨isTalk_only (by simp [Action.isTalk]), isTalk_only ?_⟩
  simp [Action.isTalk]

lemma isTalk_notes : ∀ action ∈ notes verbosity reading, action.isTalk :=
  isTalk_only (by simp [Action.isTalk])

lemma isTalk_normalize {format : Format} :
    ∀ action ∈ (normalize verbosity config format found).actions, action.isTalk := by
  unfold normalize
  split
  · exact List.forall_mem_nil _
  · exact List.forall_mem_append.mpr ⟨isTalk_notes, by simp [Action.isTalk]⟩

lemma deeds_makeParent (path : Path) : Action.deeds (makeParent path) = makeParent path := by
  unfold makeParent only
  split
  · split <;> rfl
  · rfl

/-- Whatever is said, valid rules lead to the same deeds. -/
lemma deeds_deliver (out : Path) (fragments : Option Path) (snippets : Snippets) :
    Action.deeds (deliver verbosity out fragments snippets) = deeds out fragments snippets := by
  have honly (condition : Bool) (text : String) :
      Action.deeds (only condition [.print text]) = [] :=
    Action.deeds_of_isTalk (isTalk_only (by simp [Action.isTalk]))
  have hwrite (path : Path) (text : String) (rest : List Action) :
      Action.deeds (.write path text :: rest) = .write path text :: Action.deeds rest := rfl
  have hmake (path : Path) (rest : List Action) :
      Action.deeds (.createDirectories path :: rest) =
        .createDirectories path :: Action.deeds rest := rfl
  unfold deliver deeds writeSection writeFragments
  cases fragments with
  | none => simp [Action.deeds_append, hwrite, hmake, honly]
  | some path => simp [Action.deeds_append, hwrite, hmake, honly, deeds_makeParent]

lemma onValid_of_usable (hl : load config found = .ok reading)
    (hv : reading.rules.validate = .ok ()) :
    onValid verbosity config found next =
      ⟨status verbosity reading ++ next reading.rules, none⟩ := by
  unfold onValid
  simp only [hl, hv]

end Plan

/-! ### Reports -/

section
variable {report : Report} {config : Path} {found : Found} {action : Action}
  {left : List (Path × ByteArray)}

end

end QualityBands
