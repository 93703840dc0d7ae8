import Daybook.Planner.Run
import Daybook.Proofs.Planner.Perform

namespace Daybook

namespace Session

/-- A day that is given as a text fits the compact form. -/
theorem isRepresentable_of_readDay {text : Option String} {day : Date}
    (hread : readDay text = .ok (some day)) : day.isRepresentable = true := by
  unfold readDay at hread
  split at hread
  · cases hread
  · split at hread <;> cases hread
    rename_i hday
    exact (Date.read_eq_ok_iff.mp hday).1

end Session

/-- Notes before and after an attempt leave what it comes to. -/
theorem Attempt.result_of_noted {α : Type} (attempt : Attempt α) (notes : List Note)
    (context : Option String) (message : String) :
    (Attempt.after notes (do
      let a ← attempt
      Attempt.note context message
      return a)).result = attempt.result := by
  obtain ⟨made, result⟩ := attempt
  cases result <;> rfl

/-- The answer of a run, if it has one. -/
def Outcome.answer? : Outcome → Option Answer
  | .ended _ attempt => attempt.result.toOption
  | _ => none

/-- The format in which a run prints, if its words are a command. -/
def Outcome.format? : Outcome → Option Format
  | .ended style _ => some style.format
  | _ => none

namespace Planner

variable {environment : Environment} {w : Workspace}

/-- The session that a run opens, if it gets so far. -/
def session? (environment : Environment) (w : Workspace) (texts : List String) :
    Option (Command × Session) := do
  let invocation ← (Arguments.read environment.toVariables texts).toOption
  let options := invocation.options
  let config ← (config environment w options.config).toOption
  let session ← (Session.start config options.database options.today environment.clock).toOption
  return (invocation.command, session)

/-- The session of a run is opened with its configuration, once its words are read. -/
theorem session?_eq_some_iff {texts : List String} {command : Command} {session : Session} :
    session? environment w texts = some (command, session) ↔
      ∃ invocation config, Arguments.read environment.toVariables texts = .ok invocation ∧
        Planner.config environment w invocation.options.config = .ok config ∧
        Session.start config invocation.options.database invocation.options.today environment.clock =
          .ok session ∧
        invocation.command = command := by
  simp only [session?, Option.bind_eq_bind, Option.bind_eq_some_iff, toOption_eq_some_iff, Option.pure_def,
    Option.some_inj, Prod.mk.injEq]
  constructor
  · rintro ⟨invocation, hread, config, hconfig, session, hstart, hcommand, rfl⟩
    exact ⟨invocation, config, hread, hconfig, hstart, hcommand⟩
  · rintro ⟨invocation, config, hread, hconfig, hstart, hcommand⟩
    exact ⟨invocation, hread, config, hconfig, session, hstart, hcommand, rfl⟩

/-- Whether the day that a run takes as today fits the compact form. It does where the day is given with
the run, so that the clock counts only where none is. -/
def TodayFits (environment : Environment) (texts : List String) : Prop :=
  ∀ invocation, Arguments.read environment.toVariables texts = .ok invocation →
    Session.readDay invocation.options.today = .ok none → environment.clock.isRepresentable = true

/-- The workspaces that sequences of runs lead to from one without tasks. Between runs all may change but
the tasks: configurations are written, files and folders come and go, and so may whole stores go. -/
inductive Reachable : Workspace → Prop
  | start {w : Workspace} (hnone : ∀ location, w.store? location = none) : Reachable w
  | edit {w w' : Workspace} (hw : Reachable w)
      (hkept : ∀ location store, w'.store? location = some store → w.store? location = some store) :
      Reachable w'
  | run {w : Workspace} (hw : Reachable w) (environment : Environment) (texts : List String)
      (htoday : TodayFits environment texts) : Reachable (Planner.run environment w texts).1

/-- What a run makes of a workspace, and comes to: it performs its command in its session, or it changes
nothing and has no answer. -/
inductive Runs (environment : Environment) (w : Workspace) (texts : List String) : Workspace → Outcome → Prop
  | stopped {outcome : Outcome} (hnone : session? environment w texts = none)
      (hanswer : outcome.answer? = none) : Runs environment w texts w outcome
  | performed {command : Command} {session : Session} (style : Style) {attempt : Attempt Answer}
      (hsession : session? environment w texts = some (command, session))
      (hresult : attempt.result = (session.perform w command).2.result) :
      Runs environment w texts (session.perform w command).1 (.ended style attempt)

private theorem openSession_result (options : Options) (config : Config) :
    (openSession environment options config).result =
      (Session.start config options.database options.today environment.clock).mapError .session := by
  unfold openSession
  cases Session.start config options.database options.today environment.clock <;> rfl

/-- Every run performs its command in its session, or changes nothing and has no answer. -/
theorem runs (environment : Environment) (w : Workspace) (texts : List String) :
    Runs environment w texts (run environment w texts).1 (run environment w texts).2 := by
  unfold run
  split
  · rename_i hread
    exact .stopped (by rw [session?, hread]; rfl) rfl
  · rename_i hread
    exact .stopped (by rw [session?, hread]; rfl) rfl
  · rename_i hread
    exact .stopped (by rw [session?, hread]; rfl) rfl
  · rename_i invocation hread
    unfold invoke
    dsimp only
    split
    · rename_i hconfig
      exact .stopped (by simp [session?, hread, hconfig, Except.toOption]) rfl
    · rename_i config hconfig
      unfold performWith
      dsimp only
      rw [openSession_result]
      cases hsession : Session.start config invocation.options.database invocation.options.today
        environment.clock with
      | error cause => exact .stopped (by simp [session?, hread, hconfig, hsession, Except.toOption]) rfl
      | ok session =>
        exact .performed _ (session?_eq_some_iff.mpr ⟨invocation, config, hread, hconfig, hsession, rfl⟩)
          (Attempt.result_of_noted _ _ _ _)

/-- A run that answers has performed its command. -/
theorem performs_of_answer {texts : List String} {answer : Answer}
    (hanswer : (run environment w texts).2.answer? = some answer) :
    ∃ command session, session? environment w texts = some (command, session) ∧
      Session.Performs session w command (run environment w texts).1 (.ok answer) := by
  have hruns := runs environment w texts
  generalize (run environment w texts).1 = after, (run environment w texts).2 = outcome at hruns hanswer ⊢
  cases hruns with
  | stopped _ hnone =>
    rw [hnone] at hanswer
    cases hanswer
  | @performed command session style attempt hsession hresult =>
    have hperforms := Session.performs session w command
    rw [← hresult, toOption_eq_some_iff.mp hanswer] at hperforms
    exact ⟨command, session, hsession, hperforms⟩

/-- The session of a run has a day for today that fits the compact form, if the clock shows one where
none is given. -/
theorem isRepresentable_today {texts : List String} (htoday : TodayFits environment texts)
    {command : Command} {session : Session} (hsession : session? environment w texts = some (command, session)) :
    session.today.isRepresentable = true := by
  obtain ⟨invocation, config, hread, _, hstart, _⟩ := session?_eq_some_iff.mp hsession
  obtain ⟨givenDay, hgiven, hstart⟩ := bind_eq_ok_iff.mp hstart
  cases hstart
  cases givenDay with
  | none => exact htoday invocation hread hgiven
  | some day => exact Session.isRepresentable_of_readDay hgiven

/-- One run upholds what its session upholds. -/
theorem holds_of_run {P : Content → Prop} (hw : w.Holds P) {texts : List String}
    (hupheld : ∀ command session, session? environment w texts = some (command, session) →
      Content.Upheld P session.today) : (run environment w texts).1.Holds P := by
  have hruns := runs environment w texts
  generalize (run environment w texts).1 = after, (run environment w texts).2 = outcome at hruns
  cases hruns with
  | stopped => exact hw
  | performed _ hsession => exact Session.holds_of_perform (hupheld _ _ hsession) hw _

/-- All tasks that runs lead to can be made sense of. -/
theorem sound_of_reachable (hw : Reachable w) : w.Sound := by
  induction hw with
  | start hnone => exact Workspace.holds_of_none hnone
  | edit _ hkept ih => exact ih.of_subset hkept
  | run _ environment texts htoday ih =>
    exact holds_of_run ih fun _ _ hsession =>
      Content.upheld_sound (isRepresentable_today htoday hsession)

/-- No sequence of runs stores a task that later runs cannot make sense of. Identifiers are positive and
tell the tasks of a store apart, every date is eight digits that denote a date, every title has something
other than blanks, and every rule is blank or can be read. -/
theorem rows_of_reachable (hw : Reachable w) {location : Location} {store : Store}
    (hstore : w.store? location = some store) :
    store.rows.Pairwise (fun row other => row.id ≠ other.id) ∧
      ∀ row ∈ store.rows,
        0 < row.id.value ∧
        (∃ day : Date, day.isRepresentable = true ∧ row.date = day.compact ∧
          Date.read row.date = .ok day) ∧
        Text.allBlank row.title = false ∧
        (Text.allBlank row.repeatRule = true ∨ ∃ rule, Rule.read row.repeatRule = .ok rule) := by
  have hsound := sound_of_reachable hw location store hstore
  refine ⟨List.pairwise_map.mp hsound.unique, fun row hrow => ?_⟩
  obtain ⟨⟨day, hday⟩, htitle, hrule⟩ := hsound.content row hrow
  obtain ⟨hfits, hcompact⟩ := Date.read_eq_ok_iff.mp hday
  exact ⟨hsound.positive row hrow, ⟨day, hfits, hcompact, hday⟩, htitle, hrule⟩

/-- A task that repeats every five days and was due two weeks ago is stored with the first date after
today. -/
theorem rows_of_reachable_watering :
    ∃ store row,
      (run { clock := ⟨2024, 1, 15, by decide⟩ } {} ["--db", "t.db", "task", "add", "Water plants",
        "--date", "20240101", "--repeat", "d 5"]).1.store? [Segment.ofText "t.db"] = some store ∧
      row ∈ store.rows ∧ row.date = "20240116" ∧ 0 < row.id.value ∧
      (∃ day : Date, day.isRepresentable = true ∧ row.date = day.compact ∧
        Date.read row.date = .ok day) ∧
      Text.allBlank row.title = false ∧
      (Text.allBlank row.repeatRule = true ∨ ∃ rule, Rule.read row.repeatRule = .ok rule) := by
  have hstore :
      (run { clock := ⟨2024, 1, 15, by decide⟩ } {} ["--db", "t.db", "task", "add", "Water plants",
          "--date", "20240101", "--repeat", "d 5"]).1.store? [Segment.ofText "t.db"] =
        some { rows := [{ date := "20240116", title := "Water plants", repeatRule := "d 5", id := ⟨1⟩ }]
               lastId := 1 } := by
    decide +kernel
  have hstart : Reachable {} := .start Workspace.store?_of_nothing
  have hrows := (rows_of_reachable (.run hstart _ _ fun _ _ _ => by decide) hstore).2
  exact ⟨_, _, hstore, List.mem_singleton_self _, rfl, hrows _ (List.mem_singleton_self _)⟩

end Planner

end Daybook
