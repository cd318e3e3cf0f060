import QualityBands.Command.Session
import QualityBands.Proofs.Places

/-!
What a run of actions comes to.

A host may refuse any call and may break off the filling of any file. Whatever it does, the
actions that are done stand in front of the first that fails, the files hold what these actions
have written, and an action that fails leaves nothing, but for a write that was broken off: it
leaves a part of its text.
-/

namespace QualityBands

/-! ### Actions -/

namespace Action

/-- The path and the text of an action that writes. -/
def write? : Action → Option (Path × String)
  | .write path text => some (path, text)
  | .print _ | .note _ | .createDirectories _ => none

/-- The writes among actions, in their order. -/
def writes (actions : List Action) : List (Path × String) := actions.filterMap write?

/-- What is in the files once actions are done. -/
def fillings (actions : List Action) : List (Path × ByteArray) :=
  (writes actions).map fun (path, text) => (path, text.toUTF8)

/-- Whether an action only puts out text. -/
def isTalk : Action → Bool
  | .print _ | .note _ => true
  | .createDirectories _ | .write _ _ => false

/-- The actions that do more than put out text. -/
def deeds (actions : List Action) : List Action := actions.filter (!·.isTalk)

/-- How an action fails, and what it leaves in a file: nothing, unless the file was opened and
then could not be filled. -/
inductive Fails : Action → Report → List (Path × ByteArray) → Prop
  | notCreated (path : Path) (e : FileError) :
    Fails (.createDirectories path) (.notCreated path e.message) []
  | notOpened (path : Path) (text : String) (e : FileError) :
    Fails (.write path text) (.notWritten path e.message) []
  | brokenOff (path : Path) (text : String) (e : FileError) (count : Nat)
      (h : count < text.toUTF8.size) :
    Fails (.write path text) (.notWritten path e.message)
      [(path, text.toUTF8.extract 0 count)]

/-- How a run of actions ends: with a report if one of them fails, the actions before it, and
what the one that fails has left. -/
inductive Ends : List Action → Option Report → List Action → List (Path × ByteArray) → Prop
  | finished (actions : List Action) : Ends actions none actions []
  | stopped (done rest : List Action) {action : Action} {report : Report}
      {left : List (Path × ByteArray)} (h : Fails action report left) :
    Ends (done ++ action :: rest) (some report) done left

variable {actions done front back : List Action} {action : Action} {failure : Option Report}
  {left : List (Path × ByteArray)}

lemma fillings_cons (action : Action) (actions : List Action) :
    fillings (action :: actions) = fillings [action] ++ fillings actions := by
  cases action <;> rfl

lemma deeds_append (front back : List Action) : deeds (front ++ back) = deeds front ++ deeds back :=
  List.filter_append ..

lemma deeds_of_isTalk (h : ∀ action ∈ actions, action.isTalk) : deeds actions = [] :=
  List.filter_eq_nil_iff.mpr fun action ha => by simp [h action ha]

/-- Talk fills no file. -/
lemma fillings_deeds (actions : List Action) : fillings (deeds actions) = fillings actions := by
  induction actions with
  | nil => rfl
  | cons action rest ih =>
    rw [fillings_cons, ← ih]
    cases action with
    | print text => rfl
    | note text => rfl
    | createDirectories path => rfl
    | write path text => rfl

lemma Fails.not_isTalk {report : Report} (h : Fails action report left) : action.isTalk = false := by
  cases h <;> rfl

/-- Talk does not fail, so that what ends a run are its deeds. -/
lemma Ends.deeds (h : Ends actions failure done left) :
    Ends (deeds actions) failure (deeds done) left := by
  cases h with
  | finished => exact .finished _
  | @stopped done rest action report left h =>
    have hcons : Action.deeds (action :: rest) = action :: Action.deeds rest :=
      List.filter_cons_of_pos (by simp [h.not_isTalk])
    rw [deeds_append, hcons]
    exact .stopped _ _ h

lemma Ends.cons (h : Ends actions failure done left) (action : Action) :
    Ends (action :: actions) failure (action :: done) left := by
  cases h with
  | finished => exact .finished _
  | stopped done rest h => exact .stopped (action :: done) rest h

end Action

/-! ### Calls -/

section
variable {m : Type → Type} [Monad m] {P : ∀ {α : Type}, m α → Prop} {calls : Calls m}

/-- A property of calls that they keep when they are made one after another. -/
structure Composes (P : ∀ {α : Type}, m α → Prop) : Prop where
  pure : ∀ {α : Type} (a : α), P (Pure.pure a)
  bind : ∀ {α β : Type} {x : m α} {f : α → m β}, P x → (∀ a, P (f a)) → P (x >>= f)

lemma Composes.orPresent (h : Composes @P) (hd : ∀ path, P (calls.isDirectory path)) (path : Path)
    (failure : Option FileError) : P (calls.orPresent path failure) := by
  cases failure with
  | none => exact h.pure _
  | some e => exact h.bind (hd path) fun _ => h.pure _

/-- What holds of making one directory holds of making those above it first. -/
lemma Composes.createFrom (h : Composes @P) (hd : ∀ path, P (calls.isDirectory path))
    (hm : ∀ path, P (calls.makeDirectory path)) (paths : List Path) :
    P (calls.createFrom paths) := by
  induction paths with
  | nil => exact h.pure _
  | cons path above ih =>
    unfold Calls.createFrom
    split
    · exact h.pure _
    · refine h.bind (hm path) fun made => ?_
      split
      · refine h.bind ih fun failure => ?_
        split
        · exact h.bind (hm path) fun _ => h.orPresent hd path _
        · exact h.pure _
      · exact h.orPresent hd path _

end

section
variable {α β : Type} {x : StateM Session α} {f : α → StateM Session β}

/-- Whether calls change nothing but their number. -/
def Asks (x : StateM Session α) : Prop :=
  ∀ session : Session, ∃ count, (x.run session).2 = { session with calls := count }

lemma Asks.pure (a : α) : Asks (Pure.pure a) := fun session => ⟨session.calls, rfl⟩

lemma Asks.bind (hx : Asks x) (hf : ∀ a, Asks (f a)) : Asks (x >>= f) := by
  intro session
  obtain ⟨n, hn⟩ := hx session
  obtain ⟨k, hk⟩ := hf (x.run session).1 (x.run session).2
  exact ⟨k, hk.trans (by rw [hn])⟩

end

namespace Host

variable {α : Type} (host : Host)

/-- A call that changes files does so in its own way or not at all. -/
lemma run_call (act : FileSystem → Except FileError (α × FileSystem)) (session : Session) :
    (∃ e, (host.call act).run session = (.error e, { session with calls := session.calls + 1 })) ∨
      ∃ result files, act session.files = .ok (result, files) ∧ (host.call act).run session =
        (.ok result, { session with files := files, calls := session.calls + 1 }) := by
  cases hr : host.refusal? session.calls with
  | some e => exact .inl ⟨e, by simp only [call, StateT.run, hr, Option.elim_some]⟩
  | none =>
    cases ha : act session.files with
    | error e => exact .inl ⟨e, by simp only [call, StateT.run, hr, Option.elim_none, ha]⟩
    | ok found =>
      exact .inr ⟨found.1, found.2, rfl, by simp only [call, StateT.run, hr, Option.elim_none, ha]⟩

lemma asks_ask (look : FileSystem → Except FileError α) : Asks (host.ask look) := by
  intro session
  refine ⟨session.calls + 1, ?_⟩
  rcases run_call host (fun files => (·, files) <$> look files) session with
    ⟨e, hr⟩ | ⟨result, files, ha, hr⟩
  · rw [ask, hr]
  · obtain ⟨found, -, hf⟩ := bind_eq_ok_iff.mp ha
    cases hf
    rw [ask, hr]

/-- A call that the host lets be gives what the files have. -/
lemma run_ask {session : Session} (h : host.refusal? session.calls = none)
    (look : FileSystem → Except FileError α) : (host.ask look).run session =
      (look session.files, { session with calls := session.calls + 1 }) := by
  cases hl : look session.files <;> simp [ask, call, StateT.run, h, hl, Functor.map, Except.map]

lemma asks_stands (path : Path) : Asks (host.calls.stands path) :=
  (asks_ask host _).bind fun _ => .pure _

lemma asks_read (path : Path) : Asks (host.calls.read path) := asks_ask host _

/-- Looking for a file changes nothing. -/
lemma asks_find (path : Path) : Asks (host.calls.find path) := by
  refine (asks_stands host path).bind fun stands => ?_
  cases stands with
  | false => exact .pure _
  | true =>
    rw [if_pos rfl]
    refine (asks_read host path).bind fun found => ?_
    cases found <;> exact .pure _

/-- What is found where something stands, if the host lets it be found. -/
lemma run_find {files : FileSystem} {path : Path} {entry : Entry} (hs : host.refusal? 0 = none)
    (hr : host.refusal? 1 = none) (hl : files.look path = .ok entry) :
    (host.calls.find path).run { files := files } =
      (match files.read path with
        | .ok bytes => .ofBytes bytes
        | .error e => .unreadable e.message, { files := files, calls := 2 }) := by
  have hlook : (host.ask (·.look path)).run { files := files } =
      (.ok entry, { files := files, calls := 1 }) := hl ▸ run_ask host hs (·.look path)
  have hstands : (host.calls.stands path).run { files := files } =
      (true, { files := files, calls := 1 }) := by
    simp only [calls, StateT.run_bind, hlook]
    rfl
  have hread : (host.calls.read path).run { files := files, calls := 1 } =
      (files.read path, { files := files, calls := 2 }) := run_ask host hr (·.read path)
  rw [Calls.find, StateT.run_bind, hstands]
  refine (StateT.run_bind ..).trans ?_
  rw [hread]
  cases files.read path <;> rfl

/-! ### Directories -/

end Host

/-! ### Runs -/

/-- An account of a run of actions: how it has ended, and what the files hold then. -/
structure Account (host : Host) (before : FileSystem) (actions : List Action)
    (failure : Option Report) (done : List Action) (left : List (Path × ByteArray))
    (after : FileSystem) : Prop where
  ends : Action.Ends actions failure done left
  whole : (∀ call, host.limit? call = none) → left = []
  written : before.Written (Action.fillings done ++ left) after

namespace Account

variable {host : Host} {before between after : FileSystem} {actions done rest more : List Action}
  {action : Action} {failure : Option Report} {left : List (Path × ByteArray)}

lemma nil (host : Host) (before : FileSystem) : Account host before [] none [] [] before where
  ends := .finished []
  whole _ := rfl
  written := FileSystem.written_refl before

/-- What follows an action that is done goes on where the action has ended. -/
lemma cons (h : Account host before [action] none [action] [] between)
    (h' : Account host between rest failure done left after) :
    Account host before (action :: rest) failure (action :: done) left after where
  ends := h'.ends.cons action
  whole := h'.whole
  written := by
    have hw := h.written.trans h'.written
    rw [Action.fillings_cons, List.append_assoc]
    rwa [List.append_nil] at hw

lemma deeds (h : Account host before actions failure done left after) :
    Account host before (Action.deeds actions) failure (Action.deeds done) left after where
  ends := h.ends.deeds
  whole := h.whole
  written := by
    rw [Action.fillings_deeds]
    exact h.written

end Account

namespace Host

variable (host : Host)

/-- The actions that are taken before one fails. -/
def taken (session : Session) : List Action → List Action
  | [] => []
  | action :: rest =>
    match (host.calls.take action).run session with
    | (none, next) => action :: taken next rest
    | (some _, _) => []

lemma run_of_taken {action : Action} {session next : Session}
    (h : (host.calls.take action).run session = (none, next)) (rest : List Action) :
    (host.calls.run (action :: rest)).run session = (host.calls.run rest).run next ∧
      host.taken session (action :: rest) = action :: host.taken next rest := by
  constructor
  · rw [Calls.run, StateT.run_bind, h]
    rfl
  · rw [taken, h]

lemma run_of_failed {action : Action} {session next : Session} {report : Report}
    (h : (host.calls.take action).run session = (some report, next)) (rest : List Action) :
    (host.calls.run (action :: rest)).run session = (some report, next) ∧
      host.taken session (action :: rest) = [] := by
  constructor
  · rw [Calls.run, StateT.run_bind, h]
    rfl
  · rw [taken, h]

end Host

end QualityBands
