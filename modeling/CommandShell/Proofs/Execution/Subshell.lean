import CommandShell.Execution.Line
import CommandShell.Proofs.Execution.Sequencing
import CommandShell.Proofs.Syntax.Flattening
import CommandShell.Proofs.Text.Decoding

set_option autoImplicit false

namespace CommandShell

def Outcome.withoutEmpty (o : Outcome) : Outcome where
  code := o.code
  output := o.output.filter fun t => !t.isEmpty
  errors := o.errors.filter fun t => !t.isEmpty

def World.withExiting (exiting : Bool) (w : World) : World := w.updateSession fun s => { s with exiting }

namespace Outcome

theorem effect_output (o : Outcome) : o.effect.output = Text.utf8 (o.output.getD []) := by simp [effect, Effect.output]

theorem effect_outcome (o : Outcome) : o.effect.outcome = o.withoutEmpty := by
  rw [Effect.outcome, effect_output, Bytes.written_utf8, effect, Bytes.written_utf8]
  rfl

theorem join_texts_text (a b : Option Text) : (joinTexts a b).getD [] = a.getD [] ++ b.getD [] := by
  rw [joinTexts]
  by_cases empty : a.getD [] ++ b.getD [] = []
  · simp [empty]
  · simp only [List.isEmpty_iff, if_neg empty, Option.getD_some]

theorem join_none (text : Option Text) : joinTexts none text = text.filter fun t => !t.isEmpty := by
  cases text with
  | none => rfl
  | some t => by_cases empty : t = [] <;> simp [joinTexts, Option.filter_some, empty]

theorem followed_by_first (o : Outcome) : followedBy {} o = o.withoutEmpty := by
  rw [followedBy, join_none, join_none]
  rfl

theorem without_empty_twice (o : Outcome) : o.withoutEmpty.withoutEmpty = o.withoutEmpty := by
  simp [withoutEmpty, Option.filter_filter]

end Outcome

theorem run_subshell (nested : LineRunner) (body : Text) (stdout stderr : Sink) (w : World) :
    (runSubshell nested body stdout stderr).run.run w = match (nested stdout body).run.run w with
      | (.ok outcome, after) =>
          let (effect, last) := (after.withExiting w.session.exiting).deliver stdout stderr outcome.effect
          (.ok effect, last)
      | (.error failure, after) => (.error failure, after.withExiting w.session.exiting) := by
  let restore := World.withExiting w.session.exiting
  let guarded : Run World Outcome := tryCatch (nested stdout body) fun failure => do modify restore; throw failure
  have started : (runSubshell nested body stdout stderr).run.run w = (guarded >>= fun outcome => do
      modify restore
      modifyGet fun after => after.deliver stdout stderr outcome.effect).run.run w := rfl
  rw [started, Run.run_bind, Run.run_catch]
  cases (nested stdout body).run.run w with
  | mk result after =>
      cases result with
      | ok outcome => rfl
      | error failure => rfl

theorem run_pipeline_subshell (host : Host) (nested : LineRunner) (body : Text) (w : World) :
    (runPipeline host nested .capture ⟨.subshell body, []⟩).run.run w =
      ((nested .capture body).run.run w).map (Except.map Outcome.withoutEmpty) (World.withExiting w.session.exiting) := by
  have staged : runStages host nested .capture (firstSource .capture) (.subshell body) [] =
      runSubshell nested body .capture .capture := rfl
  rw [runPipeline, staged, Run.run_bind, run_subshell]
  cases (nested .capture body).run.run w with
  | mk result after =>
      cases result with
      | error failure => rfl
      | ok outcome => exact congrArg (fun o => (Except.ok o, _)) outcome.effect_outcome

theorem run_pipelines_one (host : Host) (nested : LineRunner) (sink : Sink) (done : Outcome) (p : Pipeline Text)
    (w : World) : (runPipelines host nested sink done [p]).run.run w =
      ((runPipeline host nested sink p).run.run w).map (Except.map done.followedBy) id := by
  rw [runPipelines, Run.run_bind]
  cases (runPipeline host nested sink p).run.run w with
  | mk result after =>
      cases result with
      | error failure => rfl
      | ok outcome =>
          have same (exiting : Bool) : (if exiting then pure (done.followedBy outcome) else
              runPipelines host nested sink (done.followedBy outcome) [] : Run World Outcome).run.run after =
                (.ok (done.followedBy outcome), after) := by cases exiting <;> rfl
          exact same after.session.exiting

theorem run_line_with_subshell (host : Host) (nested : LineRunner) (line body : Text) (w : World)
    (parsed : CommandList.ofLine line = .ok ⟨[⟨.subshell body, []⟩], false⟩) :
    (runLineWith host nested .capture line).run.run w =
      ((nested .capture body).run.run w).map (Except.map Outcome.withoutEmpty) (World.withExiting w.session.exiting) := by
  have started : (runLineWith host nested .capture line).run.run w =
      (runPipelines host nested .capture {} [⟨.subshell body, []⟩]).run.run w := by
    rw [runLineWith, parsed]
    rfl
  rw [started, run_pipelines_one, run_pipeline_subshell]
  cases (nested .capture body).run.run w with
  | mk result after =>
      cases result with
      | error failure => rfl
      | ok outcome =>
          have absent : Outcome.followedBy {} outcome.withoutEmpty = outcome.withoutEmpty := by
            rw [Outcome.followed_by_first, Outcome.without_empty_twice]
          exact congrArg (fun o => (Except.ok o, _)) absent

theorem subshell_transparent (host : Host) (body : Text) (w : World)
    (block : scan ('(' :: (body ++ [')'])) = .ok [.subshell body]) :
    (runLine host .capture ('(' :: (body ++ [')']))).run.run w =
      ((runLine host .capture body).run.run w).map (Except.map Outcome.withoutEmpty)
        (World.withExiting w.session.exiting) := by
  have parsed := CommandList.of_line_one _ (.subshell body) trivial block
  have shorter : body.length < ('(' :: (body ++ [')'])).length := by
    simp only [List.length_cons, List.length_append]
    omega
  rw [runLine, run_line_with_subshell host _ _ body w parsed, if_pos shorter]

theorem subshell_transparent_exit : scan "(exit 2)".toList = .ok [.subshell "exit 2".toList] ∧
    ∀ (host : Host) (w : World), (runLine host .capture "(exit 2)".toList).run.run w =
      ((runLine host .capture "exit 2".toList).run.run w).map (Except.map Outcome.withoutEmpty)
        (World.withExiting w.session.exiting) :=
  ⟨rfl, fun host w => subshell_transparent host "exit 2".toList w rfl⟩

end CommandShell
