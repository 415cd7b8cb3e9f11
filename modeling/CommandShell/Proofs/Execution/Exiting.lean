import CommandShell.Proofs.Execution.Feeding
import CommandShell.Proofs.Execution.Phases
import CommandShell.Proofs.Execution.Sessions
import CommandShell.Proofs.Execution.Unseen
import Mathlib.Logic.Relation

set_option autoImplicit false

namespace CommandShell

def Session.marked (s : Session) : Session := { s with exiting := true }

namespace Builtin

theorem assign_all_marked (s : Session) (arguments : List Text) :
    assignAll s.marked arguments = { assignAll s arguments with session := (assignAll s arguments).session.marked } := by
  induction arguments generalizing s with
  | nil => rfl
  | cons argument rest ih =>
      rw [assignAll, assignAll]
      cases assignment? argument with
      | none => rfl
      | some pair => exact ih { s with bindings := s.bindings.insert pair.1 pair.2 }

theorem target_directory_marked (fs : FileSystem) (s : Session) (values : List Text) :
    targetDirectory fs s.marked values = targetDirectory fs s values := by
  cases values <;> rfl

theorem over_files_marked (fs : FileSystem) (s : Session) (write : Text → Bytes → Except BuiltinError (List Bytes))
    (names : List Text) : overFiles fs s.marked write names = overFiles fs s write names := by
  induction names with
  | nil => rfl
  | cons name rest ih =>
      rw [overFiles, overFiles, ih]
      rfl

theorem perform_marked (fs : FileSystem) (b : Builtin) (a : Arguments) (input : List Bytes) (s : Session) :
    b.perform fs a input s.marked =
      { b.perform fs a input s with session := (b.perform fs a input s).session.marked } := by
  cases b with
  | echo => rfl
  | pwd => rfl
  | dirs => rfl
  | cd =>
      rw [perform, perform, target_directory_marked]
      cases targetDirectory fs s a.values <;> rfl
  | pushd =>
      rw [perform, perform, target_directory_marked]
      cases targetDirectory fs s a.values <;> rfl
  | popd =>
      have popped : s.marked.directories = s.directories := rfl
      rw [perform, perform, popped]
      cases s.directories.pop? <;> rfl
  | exportVariables =>
      rw [perform, perform]
      cases a.values.isEmpty with
      | true => rfl
      | false => exact assign_all_marked s a.values
  | unsetVariables => rfl
  | prompt => rfl
  | cat =>
      rw [perform, perform, over_files_marked]
      cases a.values.isEmpty <;> rfl
  | wc =>
      rw [perform, perform]
      simp only [over_files_marked]
      cases a.values.isEmpty with
      | true => cases decode input.flatten <;> rfl
      | false => rfl
  | exit => rfl

theorem run_marked (fs : FileSystem) (b : Builtin) (arguments : List Text) (input : List Bytes) (s : Session) :
    b.run fs arguments input s.marked = (b.run fs arguments input s).map id Session.marked := by
  rw [run, run, parse]
  cases b.signature.parse arguments with
  | error e => rfl
  | ok request =>
      cases request with
      | help => rfl
      | run a =>
          change ((b.perform fs a input s.marked).effect b, (b.perform fs a input s.marked).session) = _
          rw [perform_marked]
          rfl

end Builtin

namespace World

theorem marked_unseen : Unseen (withExiting true) := ⟨fun _ => ⟨true, rfl⟩, fun _ => rfl⟩

variable (host : Host) (w : World) (arguments : List Text) (source : Source) (stdout stderr : Sink)

theorem deliver_marked (e : Effect) :
    (w.withExiting true).deliver stdout stderr e = (w.deliver stdout stderr e).map id (withExiting true) := by
  cases stdout <;> cases stderr <;> rfl

theorem run_builtin_marked (b : Builtin) :
    (w.withExiting true).runBuiltin b arguments source = (w.runBuiltin b arguments source).map id (withExiting true) := by
  have session : (w.withExiting true).session = w.session.marked := rfl
  have files : (w.withExiting true).files = w.files := rfl
  have input : (w.withExiting true).input source = w.input source := by cases source <;> rfl
  simp only [runBuiltin, session, files, input, Builtin.run_marked]
  cases b.consumesInput arguments <;> cases source <;> rfl

theorem run_program_marked (path : Text) :
    (w.withExiting true).runProgram host path arguments source stdout =
      (w.runProgram host path arguments source stdout).map (Prod.map id (withExiting true)) := by
  have given : (w.withExiting true).invocation path arguments = w.invocation path arguments := rfl
  have files : (w.withExiting true).files = w.files := rfl
  have console : (w.withExiting true).console = w.console := rfl
  cases source with
  | console =>
      simp only [runProgram, given, files, console]
      cases host.launch w.files (w.invocation path arguments) w.console.waiting with
      | error e => rfl
      | ok ending => cases stdout <;> rfl
  | input i =>
      simp only [runProgram, given, files, console]
      cases host.launch w.files (w.invocation path arguments) i.unread with
      | error e => rfl
      | ok ending => cases stdout <;> rfl

theorem run_command_marked (command : Command) :
    (w.withExiting true).runCommand host command arguments source stdout =
      (w.runCommand host command arguments source stdout).map (Prod.map id (withExiting true)) := by
  cases command with
  | builtin b => exact congrArg Except.ok (run_builtin_marked w arguments source b)
  | script path =>
      have same : (w.withExiting true).session.runScript (w.withExiting true).files path =
          w.session.runScript w.files path := rfl
      rw [runCommand, runCommand, same]
      cases w.session.runScript w.files path <;> rfl
  | program path =>
      rw [runCommand, runCommand, run_program_marked]
      cases w.runProgram host path arguments source stdout <;> rfl

theorem run_simple_marked (words : List Text) :
    (w.withExiting true).runSimple host source stdout stderr words =
      (w.runSimple host source stdout stderr words).map id (withExiting true) := by
  cases words with
  | nil => rfl
  | cons name arguments =>
      have found : Command.find (w.withExiting true).files (w.withExiting true).session name =
          Command.find w.files w.session name := rfl
      have named : (w.withExiting true).runNamed host name arguments source stdout =
          (w.runNamed host name arguments source stdout).map id (withExiting true) := by
        rw [runNamed, runNamed, found]
        cases Command.find w.files w.session name with
        | none => rfl
        | some command =>
            simp only [run_command_marked]
            cases w.runCommand host command arguments source stdout <;> rfl
      rw [runSimple, runSimple, named]
      exact deliver_marked _ stdout stderr _

end World

def CommandList.firstOnly {α : Type} (list : CommandList α) : CommandList α :=
  { list with pipelines := list.pipelines.take 1 }

def runFirstWith (host : Host) (nested : LineRunner) : LineRunner := fun sink line =>
  match CommandList.ofLine line with
  | .error _ => evaluateLine line
  | .ok list =>
    if list.pipelines.isEmpty then return {}
    else do
      let expanded ← expandList nested list
      runExpanded host nested sink line expanded.firstOnly

-- Runs only the first pipeline of a line, and of every line inside it.
def runFirst (host : Host) (sink : Sink) (line : Text) : Run World Outcome :=
  runFirstWith host
    (fun sink inner => if inner.length < line.length then runFirst host sink inner else return {}) sink line
termination_by line.length

theorem run_first_phases (host : Host) (nested : LineRunner) (sink : Sink) (line : Text) (list : CommandList Word)
    (parsed : CommandList.ofLine line = .ok list) (nonempty : list.pipelines ≠ []) :
    runFirstWith host nested sink line =
      expandList nested list >>= fun expanded => runExpanded host nested sink line expanded.firstOnly := by
  have some : ¬ list.pipelines.isEmpty = true := by simpa using nonempty
  rw [runFirstWith, parsed]
  simp only [if_neg some]

theorem is_unknown_marked (w : World) (pipelines : List (Pipeline Text)) :
    isUnknown (w.withExiting true) pipelines = isUnknown w (pipelines.take 1) := by
  match pipelines with
  | [] => rfl
  | ⟨.simple [], _⟩ :: _ => rfl
  | ⟨.simple (_ :: _), _⟩ :: _ => rfl
  | ⟨.subshell _, _⟩ :: _ => rfl

section Cut

variable (host : Host) (nested nested' : LineRunner)
  (follows : ∀ sink inner, Run.Follows (World.withExiting true) (nested sink inner) (nested' sink inner))

include follows

theorem run_stage_marked (source : Source) (stdout stderr : Sink) (s : Stage Text) :
    Run.Follows (World.withExiting true) (runStage host nested source stdout stderr s)
      (runStage host nested' source stdout stderr s) := by
  intro w
  cases s with
  | simple words =>
      rw [run_stage_simple, run_stage_simple, World.run_simple_marked]
      rfl
  | subshell body =>
      rw [run_stage_subshell, run_stage_subshell, run_subshell, run_subshell, follows stdout body w]
      cases (nested' stdout body).run.run w with
      | mk result after =>
          cases result with
          | error failure => rfl
          | ok outcome =>
              exact congrArg (Prod.map Except.ok id)
                (World.deliver_marked (after.withExiting w.session.exiting) stdout stderr outcome.effect)

theorem run_stages_marked (sink : Sink) (source : Source) (first : Stage Text) (rest : List (Stage Text)) :
    Run.Follows (World.withExiting true) (runStages host nested sink source first rest)
      (runStages host nested' sink source first rest) := by
  induction rest generalizing source first with
  | nil => exact run_stage_marked host nested nested' follows source sink sink first
  | cons next more ih =>
      exact .seq _ _ _ _ _ (run_stage_marked host nested nested' follows source .capture sink first) fun effect =>
        .seq _ _ _ _ _ (ih _ next) fun others => .value _ _

theorem run_pipelines_marked (sink : Sink) (done : Outcome) (pipelines : List (Pipeline Text)) :
    Run.Follows (World.withExiting true) (runPipelines host nested sink done pipelines)
      (runPipelines host nested' sink done (pipelines.take 1)) := by
  cases pipelines with
  | nil => exact .value _ done
  | cons p rest =>
      intro w
      have first := run_stages_marked host nested nested' follows sink (firstSource sink) p.first p.rest w
      rw [run_pipelines_more, List.take_succ_cons, List.take_zero, run_pipelines_one, run_pipeline_stages,
        run_pipeline_stages, first]
      cases (runStages host nested' sink (firstSource sink) p.first p.rest).run.run w with
      | mk result after =>
          cases result with
          | error failure => rfl
          | ok effect => rfl

theorem run_line_with_marked (sink : Sink) (line : Text) :
    Run.Follows (World.withExiting true) (runLineWith host nested sink line) (runFirstWith host nested' sink line) := by
  cases parsed : CommandList.ofLine line with
  | error e =>
      rw [runLineWith, runFirstWith, parsed]
      exact fun _ => rfl
  | ok list =>
      by_cases empty : list.pipelines = []
      · simp only [runLineWith, runFirstWith, parsed, empty]
        exact .value _ _
      · rw [run_line_phases host nested sink line list parsed empty,
          run_first_phases host nested' sink line list parsed empty]
        refine .seq _ _ _ _ _ (expand_list_follows _ World.marked_unseen nested nested' (follows .capture) list) ?_
        intro expanded w
        have known := is_unknown_marked w expanded.pipelines
        rw [run_expanded, run_expanded, known, CommandList.firstOnly]
        by_cases unknown : isUnknown w (expanded.pipelines.take 1) = true
        · rw [if_pos unknown, if_pos unknown]
          rfl
        · rw [if_neg unknown, if_neg unknown]
          cases expanded.background with
          | true => rfl
          | false => exact run_pipelines_marked host nested nested' follows sink {} expanded.pipelines w

end Cut

theorem run_line_marked (host : Host) (sink : Sink) (line : Text) :
    Run.Follows (World.withExiting true) (runLine host sink line) (runFirst host sink line) := by
  rw [runLine, runFirst]
  refine run_line_with_marked host _ _ (fun sink inner => ?_) sink line
  by_cases shorter : inner.length < line.length
  · simp only [if_pos shorter]
    exact run_line_marked host sink inner
  · simp only [if_neg shorter]
    exact .value _ _
termination_by line.length

def AtMostOnePipeline (line : Text) : Prop := ∀ list, CommandList.ofLine line = .ok list → list.pipelines.length ≤ 1

theorem run_first_with_same (host : Host) (nested : LineRunner) (sink : Sink) (line : Text) (one : AtMostOnePipeline line) :
    runFirstWith host nested sink line = runLineWith host nested sink line := by
  cases parsed : CommandList.ofLine line with
  | error e => rw [runFirstWith, runLineWith, parsed]
  | ok list =>
      by_cases empty : list.pipelines = []
      · simp only [runFirstWith, runLineWith, parsed, empty, List.isEmpty_nil, if_true]
      · rw [run_first_phases host nested sink line list parsed empty, run_line_phases host nested sink line list parsed empty]
        refine Run.bind_congr _ _ _ fun w last expanded ran => ?_
        have shapes := (expand_list_substitutes nested line list parsed).yields _ _ _ w last expanded ran
        have short : expanded.pipelines.length ≤ 1 := by
          have same := congrArg List.length shapes
          rw [List.length_map, List.length_map] at same
          exact same ▸ one list parsed
        rw [CommandList.firstOnly, List.take_of_length_le short]

theorem run_first_same (host : Host) (sink : Sink) (line : Text)
    (one : ∀ inner, Relation.ReflTransGen NestedIn inner line → AtMostOnePipeline inner) :
    runFirst host sink line = runLine host sink line := by
  rw [runFirst, run_first_with_same host _ sink line (one line .refl), run_line_eq]
  refine run_line_with_congr host _ _ sink line fun inner nested sink => ?_
  have shorter := (nested_shorter inner line nested).2
  rw [if_pos (by omega)]
  exact run_first_same host sink inner fun deeper below => one deeper (below.tail nested)
termination_by line.length

theorem exiting_cuts_subshell (host : Host) (source : Source) (stdout stderr : Sink) (w : World) :
    let mark := World.withExiting true
    (∀ words, (runStage host (runLine host) source stdout stderr (.simple words)).run.run (mark w) =
      ((runStage host (runLine host) source stdout stderr (.simple words)).run.run w).map id mark) ∧
    ∀ body, (runStage host (runLine host) source stdout stderr (.subshell body)).run.run (mark w) =
        ((runStage host (runFirst host) source stdout stderr (.subshell body)).run.run w).map id mark ∧
      ((∀ inner, Relation.ReflTransGen NestedIn inner body → AtMostOnePipeline inner) →
        (runStage host (runLine host) source stdout stderr (.subshell body)).run.run (mark w) =
          ((runStage host (runLine host) source stdout stderr (.subshell body)).run.run w).map id mark) := by
  intro mark
  have cut (s : Stage Text) :=
    run_stage_marked host (runLine host) (runFirst host) (run_line_marked host) source stdout stderr s w
  refine ⟨fun words => cut (.simple words), fun body => ⟨cut (.subshell body), fun one => ?_⟩⟩
  have same : runSubshell (runFirst host) body stdout stderr = runSubshell (runLine host) body stdout stderr := by
    simp only [runSubshell, run_first_same host stdout body one]
  have whole := cut (.subshell body)
  rw [run_stage_subshell, run_stage_subshell, same] at whole
  exact whole

theorem exiting_cuts_subshell_echo :
    (∀ inner, Relation.ReflTransGen NestedIn inner "echo a".toList → AtMostOnePipeline inner) ∧ ∀ (host : Host) (w : World),
      (runStage host (runLine host) .console .console .console (.subshell "echo a".toList)).run.run (w.withExiting true) =
        ((runStage host (runLine host) .console .console .console (.subshell "echo a".toList)).run.run w).map id
          (World.withExiting true) := by
  have parsed := CommandList.of_line_one "echo a".toList (.simple [.bare "echo".toList, .bare ['a']])
    (List.cons_ne_nil _ _) rfl
  have one (inner : Text) (below : Relation.ReflTransGen NestedIn inner "echo a".toList) : AtMostOnePipeline inner := by
    rcases Relation.ReflTransGen.cases_tail below with same | ⟨line, _, list, isList, member⟩
    · intro list isList
      rw [← same, parsed] at isList
      cases isList
      exact Nat.le_refl 1
    · rw [parsed] at isList
      cases isList
      cases member
  refine ⟨one, fun host w => ?_⟩
  obtain ⟨_, subshell⟩ := exiting_cuts_subshell host .console .console .console w
  obtain ⟨_, same⟩ := subshell "echo a".toList
  exact same one

theorem run_line_exit_subshell (host : Host) (more body : Text) (w : World)
    (listed : CommandList.ofLine more = .ok ⟨[⟨.subshell body, []⟩], false⟩) :
    (runLine host .capture ("exit |".toList ++ more)).run.run w =
      ((runStage host (runLine host) (.input {}) .capture .capture (.subshell body)).run.run (w.withExiting true)).map
        (Except.map fun e => e.outcome.withoutEmpty) id := by
  have exit := CommandList.of_line_one "exit".toList (.simple [.bare "exit".toList]) (List.cons_ne_nil _ _) rfl
  have marks : (runStage host (runLine host) (firstSource .capture) .capture .capture (.simple ["exit".toList])).run.run w =
      (.ok {}, w.withExiting true) := rfl
  have piped := run_line_piped host "exit".toList _ _ ⟨.simple ["exit".toList], []⟩ w w rfl exit (by decide) rfl rfl more
    ⟨.subshell body, []⟩ ⟨.subshell body, []⟩ listed rfl
  refine piped.trans ?_
  rw [Pipeline.joined, run_pipeline_stages, Pipeline.stages, List.nil_append, run_stages_more, marks]
  change ((((runSubshell (runLine host) body .capture .capture).run.run (w.withExiting true)).map _ id).map _ id).map _ id =
    ((runSubshell (runLine host) body .capture .capture).run.run (w.withExiting true)).map _ id
  cases (runSubshell (runLine host) body .capture .capture).run.run (w.withExiting true) with
  | mk result last =>
      cases result with
      | error failure => rfl
      | ok effect => rfl

theorem exit_cuts_later_subshell :
    let word (c : Char) : Stage Word := .simple [.bare "echo".toList, .bare [c]]
    let body := "echo a; echo b".toList
    let w : World := { session := .start Calculator.eval {} ['/'] ['/'], files := {} }
    CommandList.ofLine body = .ok ⟨[⟨word 'a', []⟩, ⟨word 'b', []⟩], false⟩ ∧ ∀ host,
      let run := (runStage host (runLine host) (.input {}) .capture .capture (.subshell body)).run.run
      run (w.withExiting false) = (.ok { writes := [Text.utf8 "a\nb\n".toList] }, w.withExiting false) ∧
      run (w.withExiting true) = (.ok { writes := [Text.utf8 "a\n".toList] }, w.withExiting true) ∧
      (runLine host .capture "exit | (echo a; echo b)".toList).run.run w =
        (.ok { output := some "a\n".toList }, w.withExiting true) := by
  intro word body w
  have parsed : CommandList.ofLine body = .ok ⟨[⟨word 'a', []⟩, ⟨word 'b', []⟩], false⟩ :=
    CommandList.of_line_flatten _ _
      ⟨by simp [Pipeline.WellFormed, Pipeline.stages, Stage.WellFormed, word], by simp⟩ rfl
  refine ⟨parsed, fun host => ?_⟩
  intro run
  let echo (c : Char) : Pipeline Text := ⟨.simple ["echo".toList, [c]], []⟩
  have runs (w : World) : RunsAs host body w ⟨[echo 'a', echo 'b'], false⟩ w :=
    ⟨⟨_, parsed, List.cons_ne_nil _ _, rfl⟩, rfl, rfl⟩
  have full : (runLine host .capture body).run.run (w.withExiting false) =
      (.ok { output := some "a\nb\n".toList }, w.withExiting false) := by
    rw [run_line_runs_as host .capture _ _ _ _ (runs _), run_pipelines_more, run_pipeline_stages]
    exact run_pipelines_one host (runLine host) .capture { output := some "a\n".toList } (echo 'b') (w.withExiting false)
  have short : (runLine host .capture body).run.run (w.withExiting true) =
      (.ok { output := some "a\n".toList }, w.withExiting true) := by
    rw [run_line_runs_as host .capture _ _ _ _ (runs _), run_pipelines_more]
    rfl
  have left : run (w.withExiting true) = (.ok { writes := [Text.utf8 "a\n".toList] }, w.withExiting true) := by
    change (runSubshell (runLine host) body .capture .capture).run.run _ = _
    rw [run_subshell, short]
    rfl
  have rest := CommandList.of_line_one " (echo a; echo b)".toList (.subshell body) trivial rfl
  have behind := run_line_exit_subshell host _ body w rest
  refine ⟨?_, left, ?_⟩
  · change (runSubshell (runLine host) body .capture .capture).run.run _ = _
    rw [run_subshell, full]
    rfl
  · refine behind.trans ?_
    change (run (w.withExiting true)).map _ id = _
    rw [left]
    rfl

end CommandShell
