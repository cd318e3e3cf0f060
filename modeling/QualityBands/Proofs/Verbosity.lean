import QualityBands.Proofs.Effects

/-!
What verbosity has a part in.

Quiet and verbose decide which lines of talk stand among the actions of a plan. Talk neither
fails nor makes a call, and what other actions do does not depend on what has been said. So two
runs that differ in verbosity do the same and end alike, and what normalization puts out is the
document alone.
-/

namespace QualityBands

open FileSystem (Found)

/-! ### Calls -/

section
variable {α β : Type} {x : StateM Session α} {f : α → StateM Session β}

/-- Whether calls neither see nor change what has been said. -/
def Silent (x : StateM Session α) : Prop :=
  ∀ (session : Session) (output notes : String),
    x.run { session with output := output, notes := notes } =
      ((x.run session).1, { (x.run session).2 with output := output, notes := notes })

lemma Silent.pure (a : α) : Silent (Pure.pure a) := fun _ _ _ => rfl

lemma Silent.bind (hx : Silent x) (hf : ∀ a, Silent (f a)) : Silent (x >>= f) := by
  intro session output notes
  rw [StateT.run_bind, hx]
  exact hf _ _ output notes

lemma silent_composes : Composes @Silent := ⟨Silent.pure, Silent.bind⟩

end

namespace Host

variable {α : Type} (host : Host)

lemma silent_call (act : FileSystem → Except FileError (α × FileSystem)) :
    Silent (host.call act) := by
  intro session output notes
  simp only [call, StateT.run]
  split <;> rfl

lemma silent_fill (place : Place) (bytes : ByteArray) : Silent (host.fill place bytes) := by
  intro session output notes
  simp only [fill, StateT.run]
  split <;> rfl

lemma silent_isDirectory (path : Path) : Silent (host.calls.isDirectory path) :=
  (silent_call host _).bind fun _ => .pure _

lemma silent_makeDirectory (path : Path) : Silent (host.calls.makeDirectory path) := by
  refine (silent_call host _).bind fun made => ?_
  cases made <;> exact .pure _

lemma silent_createFrom (paths : List Path) : Silent (host.calls.createFrom paths) :=
  silent_composes.createFrom (silent_isDirectory host) (silent_makeDirectory host) paths

lemma silent_write (path : Path) (text : String) : Silent (host.write path text) := by
  refine (silent_call host _).bind fun opened => ?_
  cases opened with
  | error e => exact .pure _
  | ok place => exact silent_fill host place _

/-- A deed does not depend on what has been said, and says nothing. -/
lemma silent_take {action : Action} (h : action.isTalk = false) :
    Silent (host.calls.take action) := by
  cases action with
  | print text => cases h
  | note text => cases h
  | createDirectories path => exact (silent_createFrom host _).bind fun _ => .pure _
  | write path text => exact (silent_write host path text).bind fun _ => .pure _

/-! ### Runs -/

/-- A run of actions does what the deeds among them do. -/
lemma run_deeds (actions : List Action) (session : Session) (output notes : String) :
    ∃ output' notes',
      (host.calls.run actions).run { session with output := output, notes := notes } =
        (((host.calls.run (Action.deeds actions)).run session).1,
          { ((host.calls.run (Action.deeds actions)).run session).2 with
            output := output', notes := notes' }) := by
  induction actions generalizing session output notes with
  | nil => exact ⟨output, notes, rfl⟩
  | cons action rest ih =>
    cases ht : action.isTalk with
    | true =>
      have hdeeds : Action.deeds (action :: rest) = Action.deeds rest :=
        List.filter_cons_of_neg (by simp [ht])
      rw [hdeeds]
      cases action with
      | print text => exact ih session (output ++ text) notes
      | note text => exact ih session output (notes ++ text)
      | createDirectories path => cases ht
      | write path text => cases ht
    | false =>
      have hdeeds : Action.deeds (action :: rest) = action :: Action.deeds rest :=
        List.filter_cons_of_pos (by simp [ht])
      have htake := host.silent_take ht session output notes
      rw [hdeeds]
      cases hs : (host.calls.take action).run session with
      | mk failure next =>
        rw [hs] at htake
        cases failure with
        | none =>
          rw [(host.run_of_taken htake rest).1, (host.run_of_taken hs _).1]
          exact ih next output notes
        | some report =>
          rw [(host.run_of_failed htake rest).1, (host.run_of_failed hs _).1]
          exact ⟨output, notes, rfl⟩

/-- Plans with the same deeds leave the same files and fail alike. -/
lemma run_congr {actions others : List Action}
    (h : Action.deeds others = Action.deeds actions) (session : Session) :
    ((host.calls.run others).run session).1 = ((host.calls.run actions).run session).1 ∧
      ((host.calls.run others).run session).2.files =
        ((host.calls.run actions).run session).2.files := by
  obtain ⟨_, _, hrun⟩ := host.run_deeds actions session session.output session.notes
  obtain ⟨_, _, hrun'⟩ := host.run_deeds others session session.output session.notes
  rw [hrun, hrun', h]
  exact ⟨rfl, rfl⟩

end Host

/-! ### Plans -/

lemma Action.printed_append (front back : List Action) :
    printed (front ++ back) = printed front ++ printed back := by
  induction front with
  | nil => exact (String.empty_append).symm
  | cons action rest ih =>
    cases action with
    | print text =>
      have hcons : printed (.print text :: rest) = text ++ printed rest := rfl
      rw [List.cons_append, printed, ih, hcons, String.append_assoc]
    | _ => exact ih

namespace Plan

variable {verbosity : Verbosity} {config : Path} {found : Found} {reading : Reading}
  {next next' : Rules → List Action}

lemma printed_notes : Action.printed (notes verbosity reading) = "" := by
  have hnotes (keys : List String) :
      Action.printed (keys.map fun key => .note (omittedText key)) = "" := by
    induction keys with
    | nil => rfl
    | cons key keys ih => exact ih
  unfold notes only
  split
  · exact hnotes reading.omitted
  · rfl

/-- Normalization prints the rules, with no line of talk among them. -/
lemma normalize_of_loaded (hl : load config found = .ok reading) (format : Format)
    (verbosity : Verbosity) :
    (normalize verbosity config format found).failure = none ∧
      Action.printed (normalize verbosity config format found).actions =
        canonicalText reading.rules format := by
  simp only [normalize, hl, Action.printed_append, printed_notes, String.empty_append, true_and]
  exact String.append_empty

lemma onValid_congr (v w : Verbosity)
    (h : ∀ rules, Action.deeds (next' rules) = Action.deeds (next rules)) :
    Action.deeds (onValid w config found next').actions =
        Action.deeds (onValid v config found next).actions ∧
      (onValid w config found next').failure = (onValid v config found next).failure := by
  have hstatus (u : Verbosity) (reading : Reading) : Action.deeds (status u reading) = [] :=
    Action.deeds_of_isTalk isTalk_status
  unfold onValid
  cases load config found with
  | error e => exact ⟨rfl, rfl⟩
  | ok reading =>
    cases hv : reading.rules.validate with
    | error e => simp only [hv, hstatus, and_self]
    | ok => simp only [hv, Action.deeds_append, hstatus, h, and_self]

end Plan

/-! ### Commands -/

/-- Verbosity has no part in the deeds of a plan, nor in its report. -/
lemma Request.plan_congr (command : Command) (v w : Verbosity) (found : Found) :
    Action.deeds (plan ⟨command, w⟩ found).actions =
        Action.deeds (plan ⟨command, v⟩ found).actions ∧
      (plan ⟨command, w⟩ found).failure = (plan ⟨command, v⟩ found).failure := by
  cases command with
  | validate config => exact Plan.onValid_congr v w fun rules => rfl
  | generate config out fragments =>
    exact Plan.onValid_congr v w fun rules =>
      (Plan.deeds_deliver out fragments _).trans (Plan.deeds_deliver out fragments _).symm
  | normalize config format =>
    have hnone (u : Verbosity) :
        Action.deeds (Plan.normalize u config format found).actions = [] :=
      Action.deeds_of_isTalk Plan.isTalk_normalize
    refine ⟨(hnone w).trans (hnone v).symm, ?_⟩
    simp only [plan, Plan.normalize]
    cases Plan.load config found <;> rfl

/-- **Verbosity changes talk alone.** Whatever is to be said, a command leaves the same files and
ends with the same report and the same status, on every computer. Normalization puts out the
printed rules if there are any to print, and nothing if there are none. -/
theorem verbosity_changes_talk_alone (files : FileSystem) (host : Host) :
    (∀ (command : Command) (v w : Verbosity),
      let ended := Request.run ⟨command, v⟩ files host
      let ended' := Request.run ⟨command, w⟩ files host
      exitStatus ended'.2 = exitStatus ended.2 ∧ ended'.2 = ended.2 ∧
        ended'.1.files = ended.1.files) ∧
    ∀ (config : Path) (format : Format) (v w : Verbosity),
      let ended := Request.run ⟨.normalize config format, v⟩ files host
      let ended' := Request.run ⟨.normalize config format, w⟩ files host
      ended'.1.output = ended.1.output ∧
        match Plan.load config (host.found files config) with
        | .error e => ended.2 = some e.report ∧ ended.1.output = ""
        | .ok reading => ended.2 = none ∧ ended.1.output =
          match format with
          | .yaml => Yaml.Printing.print reading.rules.outline
          | .json => Json.pretty reading.rules.outline ++ "\n" := by
  refine ⟨fun command v w => ?_, fun config format v w => ?_⟩
  · obtain ⟨hd, hf⟩ := Request.plan_congr command v w (host.found files command.config)
    obtain ⟨hreport, hfiles⟩ := host.run_congr hd (host.begun files command.config)
    have hreports : (Request.run ⟨command, w⟩ files host).2 =
        (Request.run ⟨command, v⟩ files host).2 := by
      rw [Request.report_run, Request.report_run]
      exact congrArg₂ Option.or hreport hf
    exact ⟨congrArg exitStatus hreports, hreports, hfiles⟩
  · have hrun (u : Verbosity) :
        (Request.run ⟨.normalize config format, u⟩ files host).1.output =
            Action.printed (Plan.normalize u config format (host.found files config)).actions ∧
          (Request.run ⟨.normalize config format, u⟩ files host).2 =
            (Plan.normalize u config format (host.found files config)).failure :=
      (Request.run_normalize format u).2
    simp only [hrun]
    cases hl : Plan.load config (host.found files config) with
    | error e => simp only [Plan.normalize, hl, Plan.failed, Action.printed, and_self]
    | ok reading =>
      obtain ⟨hreport, hprinted⟩ := Plan.normalize_of_loaded hl format v
      obtain ⟨-, hprinted'⟩ := Plan.normalize_of_loaded hl format w
      refine ⟨hprinted'.trans hprinted.symm, hreport, hprinted.trans ?_⟩
      cases format <;> rfl

/-- Rules that can be read: they are printed the same by a quiet run and by a verbose one, and two
such runs of generation end alike at a full disk. -/
theorem verbosity_changes_talk_alone_sample :
    let quiet : Verbosity := ⟨true, false⟩
    let verbose : Verbosity := ⟨false, true⟩
    let generation := (sampleRequest "rules.yaml").command
    (∃ reading, Plan.load ⟨"rules.yaml"⟩ (Host.willing.found sampleFiles ⟨"rules.yaml"⟩) =
        .ok reading ∧
      let printed := Request.run ⟨.normalize ⟨"rules.yaml"⟩ .yaml, quiet⟩ sampleFiles
      let printed' := Request.run ⟨.normalize ⟨"rules.yaml"⟩ .yaml, verbose⟩ sampleFiles
      printed.2 = none ∧ printed.1.output = Yaml.Printing.print reading.rules.outline ∧
        printed'.1.output = printed.1.output) ∧
    let stopped := Request.run ⟨generation, quiet⟩ sampleFiles fullDisk
    let stopped' := Request.run ⟨generation, verbose⟩ sampleFiles fullDisk
    stopped.2 = some (.notWritten ⟨"page.html"⟩ "No space left on device (os error 28)") ∧
      stopped'.2 = stopped.2 ∧ stopped'.1.files = stopped.1.files := by
  dsimp only
  constructor
  · obtain ⟨⟨reading, hl, -, -⟩, -⟩ := run_sampleRequest .willing rfl rfl
    have hnormalize := (verbosity_changes_talk_alone sampleFiles .willing).2 ⟨"rules.yaml"⟩ .yaml
      ⟨true, false⟩ ⟨false, true⟩
    simp only [hl] at hnormalize
    obtain ⟨hsame, hreport, hprinted⟩ := hnormalize
    exact ⟨reading, hl, hreport, hprinted, hsame⟩
  · obtain ⟨-, -, hreport, -⟩ := run_sampleRequest fullDisk rfl rfl
    obtain ⟨hsame, -⟩ := verbosity_changes_talk_alone sampleFiles fullDisk
    obtain ⟨-, hend, hfiles⟩ :=
      hsame (sampleRequest "rules.yaml").command ⟨true, false⟩ ⟨false, true⟩
    exact ⟨hreport.trans run_sampleActions_fullDisk.1, hend, hfiles⟩

end QualityBands
