import QualityBands.Proofs.BuiltinTemplates
import QualityBands.Proofs.Plans

/-!
What commands do to files.

The rules decide first. If they cannot be used, no command touches a file, and all commands
that check the rules tell the same. If they can, the sections and the fragments are written in
a fixed order, and all that can go wrong is that a directory is not made or a file not written:
what was done before that stays, and a file that could not be filled holds a part of its text.
-/

namespace QualityBands

open FileSystem (Found)

/-! ### Runs of talk -/

/-- The text that actions put out. -/
def Action.printed : List Action → String
  | [] => ""
  | .print text :: rest => text ++ printed rest
  | _ :: rest => printed rest

namespace Host

variable (host : Host) {actions : List Action} {session : Session}

/-- Talk never fails and does nothing but put out text. -/
lemma run_of_isTalk (h : ∀ action ∈ actions, action.isTalk) (session : Session) :
    ∃ notes, (host.calls.run actions).run session = (none, { session with
      output := session.output ++ Action.printed actions, notes := notes }) := by
  induction actions generalizing session with
  | nil =>
    rw [Action.printed, String.append_empty]
    exact ⟨session.notes, rfl⟩
  | cons action rest ih =>
    obtain ⟨ha, hr⟩ := List.forall_mem_cons.mp h
    cases action with
    | print text =>
      have ht : (host.calls.take (.print text)).run session =
          (none, { session with output := session.output ++ text }) := rfl
      obtain ⟨notes, hn⟩ := ih hr { session with output := session.output ++ text }
      refine ⟨notes, ?_⟩
      rw [(host.run_of_taken ht rest).1, hn, Action.printed, String.append_assoc]
    | note text =>
      have ht : (host.calls.take (.note text)).run session =
          (none, { session with notes := session.notes ++ text }) := rfl
      obtain ⟨notes, hn⟩ := ih hr { session with notes := session.notes ++ text }
      refine ⟨notes, ?_⟩
      rw [(host.run_of_taken ht rest).1, hn]
      rfl
    | createDirectories path => cases ha
    | write path text => cases ha

end Host

/-! ### Commands -/

/-- A text is found in a file that holds its octets. -/
lemma FileSystem.Found.ofBytes_toUTF8 (source : String) :
    ofBytes source.toUTF8 = .text source := by
  have hs : String.fromUTF8? source.toUTF8 = some source := dif_pos source.isValidUTF8
  rw [ofBytes, hs]

namespace Host

variable (host : Host) (files : FileSystem) (config : Path)

/-- What is found at the path of the rules. -/
def found : Found := ((host.calls.find config).run { files := files }).1

/-- The session once the rules have been looked for. -/
def begun : Session := ((host.calls.find config).run { files := files }).2

lemma begun_eq : ∃ count, host.begun files config = { files := files, calls := count } :=
  host.asks_find config { files := files }

end Host

namespace Request

/-- The plan that a command makes from what it finds. -/
def planFound (request : Request) (files : FileSystem) (host : Host) : Plan :=
  request.plan (host.found files request.command.config)

/-- The deeds that a command has done when it ends. -/
def deedsDone (request : Request) (files : FileSystem) (host : Host) : List Action :=
  Action.deeds (host.taken (host.begun files request.command.config)
    (request.planFound files host).actions)

variable {files : FileSystem} {host : Host} {config out : Path} {fragments : Option Path}
  {verbosity : Verbosity} {reading : Reading} {report : Report}

lemma session_run (request : Request) : (request.run files host).1 =
    ((host.calls.run (request.planFound files host).actions).run
      (host.begun files request.command.config)).2 := rfl

lemma report_run (request : Request) : (request.run files host).2 =
    ((host.calls.run (request.planFound files host).actions).run
      (host.begun files request.command.config)).1.or
        (request.planFound files host).failure := rfl

/-- A command that only talks changes no file and ends with the report of its plan. -/
lemma run_of_isTalk (request : Request)
    (h : ∀ action ∈ (request.planFound files host).actions, action.isTalk) :
    (request.run files host).1.files = files ∧
      (request.run files host).1.output =
        Action.printed (request.planFound files host).actions ∧
      (request.run files host).2 = (request.planFound files host).failure := by
  obtain ⟨count, hb⟩ := host.begun_eq files request.command.config
  obtain ⟨notes, hr⟩ := host.run_of_isTalk h (host.begun files request.command.config)
  rw [session_run, report_run, hr, hb]
  exact ⟨rfl, String.empty_append, rfl⟩

/-- Normalization does what its plan says, and touches no file. -/
lemma run_normalize (format : Format) (verbosity : Verbosity) :
    let plan := Plan.normalize verbosity config format (host.found files config)
    let ended := Request.run ⟨.normalize config format, verbosity⟩ files host
    ended.1.files = files ∧ ended.1.output = Action.printed plan.actions ∧
      ended.2 = plan.failure :=
  run_of_isTalk ⟨.normalize config format, verbosity⟩ Plan.isTalk_normalize

lemma planFound_generate (out : Path) (fragments : Option Path) (verbosity : Verbosity)
    (hl : Plan.load config (host.found files config) = .ok reading)
    (hv : reading.rules.validate = .ok ()) :
    planFound ⟨.generate config out fragments, verbosity⟩ files host =
      ⟨Plan.status verbosity reading ++
        Plan.deliver verbosity out fragments (Snippets.render reading.rules), none⟩ := by
  unfold planFound plan Plan.generate
  exact Plan.onValid_of_usable hl hv

end Request

/-- Rules with one dimension and a template for it. -/
def sampleSource : String :=
  "dimension_scores:\n" ++
  "  thresholds:\n" ++
  "    excellent: \x7bpercentage: 95\x7d\n" ++
  "    acceptable: \x7bmin_percentage: 80\x7d\n" ++
  "  dimensions:\n" ++
  "    accuracy: \x7bvariable: acc\x7d\n" ++
  "error_distribution:\n" ++
  "  thresholds:\n" ++
  "    critical: \x7bmin_count: 3\x7d\n" ++
  "    high: \x7bmin_count: 2\x7d\n" ++
  "    medium: \x7bmin_count: 1\x7d\n" ++
  "templates:\n" ++
  "  dimension_score_html: <p>@@VAR@@</p>\n"

/-- A file with rules, beside a directory. -/
def sampleFiles : FileSystem :=
  ⟨[(["rules.yaml"], .file sampleSource.toUTF8), (["rules"], .directory)], []⟩

def sampleSnippets : Snippets := ⟨["<p>acc</p>"], []⟩

def sampleRequest (config : String) : Request :=
  ⟨.generate ⟨config⟩ ⟨"out"⟩ (some ⟨"page.html"⟩), ⟨true, false⟩⟩

def sampleActions : List Action :=
  Plan.deliver ⟨true, false⟩ ⟨"out"⟩ (some ⟨"page.html"⟩) sampleSnippets

/-- The session of the sample once the rules have been read. -/
def sampleBegun : Session := { files := sampleFiles, calls := 2 }

/-- A computer with a disk that is full after 15 octets of the third file. -/
def fullDisk : Host where
  refusal? _ := none
  limit? call :=
    if call = 8 then some (15, .other "No space left on device (os error 28)") else none

lemma append_of_chars {a b : String} {as bs : List Char} (ha : a = String.ofList as)
    (hb : b = String.ofList bs) : a ++ b = String.ofList (as ++ bs) := by
  rw [ha, hb, String.ofList_append]

/-- A document is read from its characters, which are faster to take apart than a text. -/
lemma Plan.load_of_chars {config : Path} {source : String} {cs : List Char} {p : Reading → Bool}
    (hs : source = String.ofList cs)
    (h : (Yaml.readChars cs).toOption.any fun document =>
      document.isMapping && (Rules.read document).toOption.any p) :
    ∃ reading, load config (.text source) = .ok reading ∧ p reading := by
  obtain ⟨document, hd, hr⟩ := exists_ok_of_any h
  obtain ⟨hm, hr⟩ := Bool.and_eq_true_iff.mp hr
  obtain ⟨reading, hr, hp⟩ := exists_ok_of_any hr
  have hread : Yaml.read source = .ok document := by
    subst hs
    exact (congrArg Yaml.readChars String.toList_ofList).trans hd
  have hparse : Rules.parse source = .ok document := by
    unfold Rules.parse
    simp only [hread, hm, if_true]
  exact ⟨reading, bind_eq_ok_iff.mpr ⟨document, hparse, hr⟩, hp⟩

lemma exists_sampleReading (config : Path) : ∃ reading,
    Plan.load config (.text sampleSource) = .ok reading ∧ reading.rules.validate = .ok () ∧
      reading.rules.templates.dimensionScore = "<p>@@VAR@@</p>" ∧
      reading.rules.dimensions.map (·.scoreVariable) = ["acc"] ∧ reading.rules.cards = [] := by
  have hs : ∃ cs, sampleSource = String.ofList cs ∧
      (Yaml.readChars cs).toOption.any fun document => document.isMapping &&
        (Rules.read document).toOption.any fun reading => reading.rules.validate = .ok () ∧
          reading.rules.templates.dimensionScore = "<p>@@VAR@@</p>" ∧
          reading.rules.dimensions.map (·.scoreVariable) = ["acc"] ∧
          reading.rules.cards = [] := by
    apply Exists.intro
    constructor
    · unfold sampleSource
      repeat' (first | apply append_of_chars | rfl)
    · decide +kernel
  obtain ⟨cs, hs, h⟩ := hs
  obtain ⟨reading, hl, hp⟩ := Plan.load_of_chars hs h
  exact ⟨reading, hl, of_decide_eq_true hp⟩

lemma render_eq_sampleSnippets {rules : Rules}
    (ht : rules.templates.dimensionScore = "<p>@@VAR@@</p>")
    (hd : rules.dimensions.map (·.scoreVariable) = ["acc"]) (hc : rules.cards = []) :
    Snippets.render rules = sampleSnippets := by
  obtain ⟨dimension, hd, hv⟩ := List.map_eq_singleton_iff.mp hd
  have hblock : dimension.render rules.scores "<p>@@VAR@@</p>" = "<p>acc</p>" := by
    have hs := dimension.shows_render rules.scores "<p>@@VAR@@</p>"
      [.literal "<p>", .reference "VAR", .literal "</p>"] (by decide +kernel)
      (Template.wellSeparated_of_fenced (by decide +kernel) (by decide +kernel))
    rw [hs]
    · simp [Template.filled, Template.Piece.filled, Dimension.field, hv]
    · intro name value hn hf
      obtain rfl : name = "VAR" := by simpa using hn
      cases hf
      rw [hv]
      decide
  simp [Snippets.render, sampleSnippets, hd, hc, ht, hblock]

/-- Generation on the sample is a run of closed actions. -/
lemma run_sampleRequest (host : Host) (hs : host.refusal? 0 = none)
    (hr : host.refusal? 1 = none) :
    (∃ reading, Plan.load ⟨"rules.yaml"⟩ (host.found sampleFiles ⟨"rules.yaml"⟩) = .ok reading ∧
      reading.rules.validate = .ok () ∧ Snippets.render reading.rules = sampleSnippets) ∧
    ((sampleRequest "rules.yaml").run sampleFiles host).1 =
      ((host.calls.run sampleActions).run sampleBegun).2 ∧
    ((sampleRequest "rules.yaml").run sampleFiles host).2 =
      ((host.calls.run sampleActions).run sampleBegun).1 ∧
    (sampleRequest "rules.yaml").deedsDone sampleFiles host =
      Action.deeds (host.taken sampleBegun sampleActions) := by
  have hl : sampleFiles.look ⟨"rules.yaml"⟩ = .ok (.file sampleSource.toUTF8) := rfl
  have hread : sampleFiles.read ⟨"rules.yaml"⟩ = .ok sampleSource.toUTF8 := rfl
  have hfind := host.run_find hs hr hl
  simp only [hread, Found.ofBytes_toUTF8] at hfind
  have hfound : host.found sampleFiles ⟨"rules.yaml"⟩ = .text sampleSource :=
    congrArg Prod.fst hfind
  have hbegun : host.begun sampleFiles ⟨"rules.yaml"⟩ = sampleBegun := congrArg Prod.snd hfind
  obtain ⟨reading, hl, hv, ht, hd, hc⟩ := exists_sampleReading ⟨"rules.yaml"⟩
  rw [← hfound] at hl
  have hrender := render_eq_sampleSnippets ht hd hc
  have hplan : (sampleRequest "rules.yaml").planFound sampleFiles host =
      ⟨sampleActions, none⟩ := by
    rw [sampleRequest, Request.planFound_generate _ _ _ hl hv, hrender]
    rfl
  refine ⟨⟨reading, hl, hv, hrender⟩, ?_, ?_, ?_⟩
  · rw [Request.session_run, hplan]
    exact congrArg (fun session => ((host.calls.run sampleActions).run session).2) hbegun
  · rw [Request.report_run, hplan, Option.or_none]
    exact congrArg (fun session => ((host.calls.run sampleActions).run session).1) hbegun
  · rw [Request.deedsDone, hplan]
    exact congrArg (fun session => Action.deeds (host.taken session sampleActions)) hbegun

lemma run_sampleActions_fullDisk :
    let ended := (fullDisk.calls.run sampleActions).run sampleBegun
    ended.1 = some (.notWritten ⟨"page.html"⟩ "No space left on device (os error 28)") ∧
      ended.2.files.entry? ["page.html"] = some (.file "<!DOCTYPE html>".toUTF8) ∧
      Action.deeds (fullDisk.taken sampleBegun sampleActions) =
        Plan.deeds ⟨"out"⟩ none sampleSnippets := by decide +kernel

end QualityBands
