import CommandShell.Proofs.Execution.Console
import CommandShell.Proofs.Execution.Phases
import CommandShell.Proofs.Execution.Stages
import CommandShell.Proofs.Execution.Subshell
import CommandShell.Proofs.Execution.Unseen

set_option autoImplicit false

namespace CommandShell

variable {α β : Type}

def World.withConsole (console : Console) (w : World) : World := { w with console }

def Blind (r : Run World α) : Prop :=
  ∀ w console, r.run.run (w.withConsole console) = (r.run.run w).map id (World.withConsole console)

namespace Blind

theorem value (v : α) : Blind (pure v : Run World α) := fun _ _ => rfl

theorem seq (first : Run World α) (next : α → Run World β) (front : Blind first) (back : ∀ v, Blind (next v)) :
    Blind (first >>= next) := fun w console =>
  Run.Follows.seq _ first first next next (fun w => front w console) (fun v w => back v w console) w

theorem read (f : World → Run World α) (each : ∀ w, Blind (f w))
    (same : ∀ w console, f (w.withConsole console) = f w) : Blind (get >>= f) := by
  intro w console
  refine Run.Follows.read _ f f (fun state => ?_) w
  rw [same]
  exact fun w => each state w console

end Blind

theorem World.console_unseen (console : Console) : Unseen (withConsole console) :=
  ⟨fun w => ⟨w.session.exiting, rfl⟩, fun _ => rfl⟩

theorem expand_list_blind (nested : LineRunner) (blind : ∀ inner, Blind (nested .capture inner))
    (list : CommandList Word) : Blind (expandList nested list) := fun w console =>
  expand_list_follows _ (World.console_unseen console) nested nested (fun inner w => blind inner w console) list w

inductive Source.Gives (c : Console) : Input → Source → Prop where
  | input (i : Input) : Gives c i (.input i)
  | console (ended : c.Ended) : Gives c {} .console

theorem Console.Ended.consume (c : Console) (ended : c.Ended) : c.consume = c := by
  obtain ⟨waiting, buffered, output, held, errors⟩ := c
  obtain ⟨rfl, rfl⟩ := ended
  rfl

theorem Console.Ended.unread (c : Console) (ended : c.Ended) : c.unread = [] := by
  simp [Console.unread, ended.buffered, ended.waiting, Bytes.pieces]

section Command

variable (host : Host) (w : World) (console : Console) (arguments : List Text) (i : Input) (source : Source)
  (stdout : Sink)

theorem run_builtin_beside (gives : source.Gives console i) (b : Builtin) :
    (w.withConsole console).runBuiltin b arguments source =
      (w.runBuiltin b arguments (.input i)).map id (World.withConsole console) := by
  cases gives with
  | input i =>
      by_cases reads : b.consumesInput arguments = true
      · simp only [World.runBuiltin, reads, if_true]
        rfl
      · simp only [World.runBuiltin, if_neg reads]
        rfl
  | console ended =>
      by_cases reads : b.consumesInput arguments = true
      · have nothing : (w.withConsole console).input .console = w.input (.input {}) := by
          simp [World.input, World.withConsole, ended.unread, Bytes.pieces]
        have same : (w.withConsole console).consume .console = w.withConsole console := by
          simp [World.consume, World.withConsole, ended.consume]
        simp only [World.runBuiltin, reads, if_true, nothing, same]
        rfl
      · simp only [World.runBuiltin, if_neg reads]
        rfl

theorem run_script_beside (path : Text) :
    (w.withConsole console).runCommand host (.script path) arguments source stdout =
      (w.runCommand host (.script path) arguments (.input i) .capture).map (Prod.map id (World.withConsole console)) := by
  cases ran : w.session.runScript w.files path with
  | error e => simp [World.runCommand, World.withConsole, ran]; rfl
  | ok effect => simp [World.runCommand, World.withConsole, ran]; rfl

theorem run_program_captured (path : Text) :
    w.runProgram host path arguments (.input i) .capture =
      (host.launch w.files (w.invocation path arguments) i.unread).map fun ending =>
        ({ code := ending.code, writes := [ending.output], errors := ending.errors }, w.withFiles ending.files) := by
  cases launched : host.launch w.files (w.invocation path arguments) i.unread with
  | error e =>
      simp only [World.runProgram, launched]
      rfl
  | ok ending =>
      simp only [World.runProgram, launched]
      rfl

theorem run_program_beside (path : Text) :
    (w.withConsole console).runCommand host (.program path) arguments (.input i) .capture =
      (w.runCommand host (.program path) arguments (.input i) .capture).map (Prod.map id (World.withConsole console)) := by
  have given : (w.withConsole console).invocation path arguments = w.invocation path arguments := rfl
  have files : (w.withConsole console).files = w.files := rfl
  rw [World.runCommand, World.runCommand, run_program_captured, run_program_captured, given, files]
  cases host.launch w.files (w.invocation path arguments) i.unread with
  | error e => rfl
  | ok ending => rfl

theorem run_named_beside (name : Text) (each : ∀ command, Command.find w.files w.session name = some command →
      (w.withConsole console).runCommand host command arguments source stdout =
        (w.runCommand host command arguments (.input i) .capture).map (Prod.map id (World.withConsole console))) :
    (w.withConsole console).runNamed host name arguments source stdout =
      (w.runNamed host name arguments (.input i) .capture).map id (World.withConsole console) := by
  have found : Command.find (w.withConsole console).files (w.withConsole console).session name =
      Command.find w.files w.session name := rfl
  rw [World.runNamed, World.runNamed, found]
  cases known : Command.find w.files w.session name with
  | none => rfl
  | some command =>
      simp only [each command known]
      cases w.runCommand host command arguments (.input i) .capture with
      | error e => rfl
      | ok done => rfl

theorem run_simple_blind (words : List Text) :
    (w.withConsole console).runSimple host (.input i) .capture .capture words =
      (w.runSimple host (.input i) .capture .capture words).map id (World.withConsole console) := by
  cases words with
  | nil => rfl
  | cons name arguments =>
      have same := run_named_beside host w console arguments i (.input i) .capture name fun command _ => by
        cases command with
        | builtin b => exact congrArg Except.ok (run_builtin_beside w console arguments i _ (.input i) b)
        | script path => exact run_script_beside host w console arguments i _ _ path
        | program path => exact run_program_beside host w console arguments i path
      simp only [World.runSimple, same]
      rfl

end Command

theorem is_unknown_beside (w : World) (console : Console) (pipelines : List (Pipeline Text)) :
    isUnknown (w.withConsole console) pipelines = isUnknown w pipelines := by
  match pipelines with
  | [] => rfl
  | ⟨.simple [], _⟩ :: _ => rfl
  | ⟨.simple (name :: arguments), _⟩ :: _ => rfl
  | ⟨.subshell body, _⟩ :: _ => rfl

section Line

variable (host : Host) (nested : LineRunner) (blind : ∀ inner, Blind (nested .capture inner))

include blind

theorem run_stage_blind (i : Input) (s : Stage Text) : Blind (runStage host nested (.input i) .capture .capture s) := by
  intro w console
  cases s with
  | simple words =>
      rw [run_stage_simple, run_stage_simple, run_simple_blind]
      rfl
  | subshell body =>
      change (runSubshell nested body _ _).run.run _ = ((runSubshell nested body _ _).run.run w).map _ _
      rw [run_subshell, run_subshell, blind body w console]
      cases (nested .capture body).run.run w with
      | mk result after =>
          cases result with
          | error failure => rfl
          | ok outcome => rfl

theorem run_stages_blind (i : Input) (first : Stage Text) (rest : List (Stage Text)) :
    Blind (runStages host nested .capture (.input i) first rest) := by
  induction rest generalizing i first with
  | nil => exact run_stage_blind host nested blind i first
  | cons next more ih =>
      exact .seq _ _ (run_stage_blind host nested blind i first) fun effect => .seq _ _ (ih _ next) fun others => .value _

theorem run_pipelines_blind (done : Outcome) (pipelines : List (Pipeline Text)) :
    Blind (runPipelines host nested .capture done pipelines) := by
  induction pipelines generalizing done with
  | nil => exact .value done
  | cons p rest ih =>
      have first : Blind (runPipeline host nested .capture p) :=
        .seq _ _ (run_stages_blind host nested blind {} p.first p.rest) fun effect => .value _
      refine .seq _ _ first fun outcome => .read _ (fun w => ?_) fun w console => rfl
      cases w.session.exiting with
      | true => exact .value _
      | false => exact ih _

theorem run_line_with_blind (line : Text) : Blind (runLineWith host nested .capture line) := by
  have evaluated : Blind (evaluateLine line) := .read _ (fun w => .value _) fun w console => rfl
  rw [runLineWith]
  cases CommandList.ofLine line with
  | error e => exact evaluated
  | ok list =>
      by_cases empty : list.pipelines.isEmpty = true
      · simp only [if_pos empty]
        exact .value _
      · simp only [if_neg empty]
        refine .seq _ _ (expand_list_blind nested blind list) fun expanded => .read _ (fun w => ?_) fun w console => ?_
        · cases isUnknown w expanded.pipelines with
          | true => exact evaluated
          | false =>
              cases expanded.background with
              | true => exact .value _
              | false => exact run_pipelines_blind host nested blind {} expanded.pipelines
        · rw [is_unknown_beside]

end Line

theorem run_line_blind (host : Host) (line : Text) : Blind (runLine host .capture line) := by
  rw [runLine]
  refine run_line_with_blind host _ (fun inner => ?_) line
  by_cases shorter : inner.length < line.length
  · simp only [if_pos shorter]
    exact run_line_blind host inner
  · simp only [if_neg shorter]
    exact .value _
termination_by line.length

end CommandShell
