import CommandShell.Execution.Line
import CommandShell.Proofs.Execution.Sequencing

set_option autoImplicit false

namespace CommandShell

variable (host : Host) (nested : LineRunner)

theorem run_stage_simple (source : Source) (stdout stderr : Sink) (words : List Text) (w : World) :
    (runStage host nested source stdout stderr (.simple words)).run.run w =
      (.ok (w.runSimple host source stdout stderr words).1, (w.runSimple host source stdout stderr words).2) := rfl

theorem run_stages_more (sink : Sink) (source : Source) (s next : Stage Text) (rest : List (Stage Text)) (w : World) :
    (runStages host nested sink source s (next :: rest)).run.run w =
      match (runStage host nested source .capture sink s).run.run w with
      | (.ok effect, after) => ((runStages host nested sink (.input ⟨effect.output⟩) next rest).run.run after).map
          (Except.map fun others => { others with errors := effect.errors ++ others.errors }) id
      | (.error failure, after) => (.error failure, after) := by
  rw [runStages, Run.run_bind]
  cases (runStage host nested source .capture sink s).run.run w with
  | mk result after =>
      cases result with
      | error failure => rfl
      | ok effect => exact Run.run_bind_pure _ _ after

theorem run_stages_append (source : Source) (first : Stage Text) (front : List (Stage Text)) (next : Stage Text)
    (back : List (Stage Text)) (w : World) :
    (runStages host nested .capture source first (front ++ next :: back)).run.run w =
      match (runStages host nested .capture source first front).run.run w with
      | (.ok effect, after) => ((runStages host nested .capture (.input ⟨effect.output⟩) next back).run.run after).map
          (Except.map fun others => { others with errors := effect.errors ++ others.errors }) id
      | (.error failure, after) => (.error failure, after) := by
  induction front generalizing source first w with
  | nil => exact run_stages_more host nested .capture source first next back w
  | cons s more ih =>
      rw [List.cons_append, run_stages_more, run_stages_more]
      cases (runStage host nested source .capture .capture first).run.run w with
      | mk result middle =>
          cases result with
          | error failure => rfl
          | ok effect =>
              simp only [ih]
              cases (runStages host nested .capture (.input ⟨effect.output⟩) s more).run.run middle with
              | mk result after =>
                  cases result with
                  | error failure => rfl
                  | ok before =>
                      have output : ({ before with errors := effect.errors ++ before.errors } : Effect).output =
                          before.output := rfl
                      simp only [Prod.map, Except.map, id, output]
                      cases (runStages host nested .capture (.input ⟨before.output⟩) next back).run.run after with
                      | mk result last =>
                          cases result with
                          | error failure => rfl
                          | ok others => simp

theorem run_pipeline_stages (sink : Sink) (p : Pipeline Text) (w : World) :
    (runPipeline host nested sink p).run.run w =
      ((runStages host nested sink (firstSource sink) p.first p.rest).run.run w).map (Except.map Effect.outcome) id := by
  rw [runPipeline, Run.run_bind_pure]

theorem run_pipelines_more (sink : Sink) (done : Outcome) (p : Pipeline Text) (rest : List (Pipeline Text)) (w : World) :
    (runPipelines host nested sink done (p :: rest)).run.run w =
      match (runPipeline host nested sink p).run.run w with
      | (.ok outcome, after) =>
          if after.session.exiting then (.ok (done.followedBy outcome), after)
          else (runPipelines host nested sink (done.followedBy outcome) rest).run.run after
      | (.error failure, after) => (.error failure, after) := by
  rw [runPipelines, Run.run_bind]
  cases (runPipeline host nested sink p).run.run w with
  | mk result after =>
      cases result with
      | error failure => rfl
      | ok outcome =>
          have next (exiting : Bool) : (if exiting then pure (done.followedBy outcome)
              else runPipelines host nested sink (done.followedBy outcome) rest : Run World Outcome).run.run after =
            if exiting then (.ok (done.followedBy outcome), after)
            else (runPipelines host nested sink (done.followedBy outcome) rest).run.run after := by
            cases exiting <;> rfl
          exact next after.session.exiting

theorem run_pipelines_code (sink : Sink) (done : Outcome) (code : Int) (p : Pipeline Text) (rest : List (Pipeline Text)) :
    runPipelines host nested sink { done with code } (p :: rest) = runPipelines host nested sink done (p :: rest) := rfl

end CommandShell
