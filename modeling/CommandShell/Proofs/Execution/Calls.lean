import CommandShell.Proofs.Execution.Phases
import CommandShell.Proofs.Execution.Stages
import CommandShell.Proofs.Execution.Subshell

set_option autoImplicit false

namespace CommandShell

structure Beginning where
  stage : Stage Text
  source : Source
  stdout : Sink
  world : World

structure Call where
  words : List Text
  world : World

section Reached

variable (host : Host) (nested : LineRunner) (sink : Sink)

inductive StageReached : Source → Stage Text → List (Stage Text) → World → Beginning → Prop where
  | last (source : Source) (s : Stage Text) (w : World) : StageReached source s [] w ⟨s, source, sink, w⟩
  | first (source : Source) (s next : Stage Text) (rest : List (Stage Text)) (w : World) :
      StageReached source s (next :: rest) w ⟨s, source, .capture, w⟩
  | later (source : Source) (s next : Stage Text) (rest : List (Stage Text)) (w middle : World) (effect : Effect)
      (begun : Beginning) (ran : (runStage host nested source .capture sink s).run.run w = (.ok effect, middle))
      (reached : StageReached (.input ⟨effect.output⟩) next rest middle begun) :
      StageReached source s (next :: rest) w begun

inductive PipelineReached : List (Pipeline Text) → World → Beginning → Prop where
  | first (p : Pipeline Text) (rest : List (Pipeline Text)) (w : World) (begun : Beginning)
      (reached : StageReached host nested sink (firstSource sink) p.first p.rest w begun) :
      PipelineReached (p :: rest) w begun
  | later (p : Pipeline Text) (rest : List (Pipeline Text)) (w middle : World) (outcome : Outcome) (begun : Beginning)
      (ran : (runPipeline host nested sink p).run.run w = (.ok outcome, middle))
      (goesOn : middle.session.exiting = false) (reached : PipelineReached rest middle begun) :
      PipelineReached (p :: rest) w begun

end Reached

-- The line is run as a list of commands: from `w`, its words are expanded to `expanded`, which leaves `middle`, and its
-- first command has a meaning there.
structure RunsAs (host : Host) (line : Text) (w : World) (expanded : CommandList Text) (middle : World) : Prop where
  typed : ∃ list, CommandList.ofLine line = .ok list ∧ list.pipelines ≠ [] ∧
    (expandList (runLine host) list).run.run w = (.ok expanded, middle)
  known : isUnknown middle expanded.pipelines = false
  foreground : expanded.background = false

-- `Performs host sink line w call`: running the line from `w` runs the command, in the line itself or in one inside it.
inductive Performs (host : Host) : Sink → Text → World → Call → Prop where
  | command (sink : Sink) (line : Text) (w middle found : World) (expanded : CommandList Text) (words : List Text)
      (source : Source) (stdout : Sink) (runs : RunsAs host line w expanded middle)
      (reached : PipelineReached host (runLine host) sink expanded.pipelines middle ⟨.simple words, source, stdout, found⟩) :
      Performs host sink line w ⟨words, found⟩
  | subshell (sink : Sink) (line body : Text) (w middle found : World) (expanded : CommandList Text) (source : Source)
      (stdout : Sink) (call : Call) (runs : RunsAs host line w expanded middle)
      (reached : PipelineReached host (runLine host) sink expanded.pipelines middle ⟨.subshell body, source, stdout, found⟩)
      (performs : Performs host stdout body found call) : Performs host sink line w call
  | region (sink : Sink) (line inner : Text) (before after : List Text) (w found : World) (list : CommandList Word)
      (call : Call) (parsed : CommandList.ofLine line = .ok list) (regions : list.regions = before ++ inner :: after)
      (ran : Substituted (runLine host .capture) w before none found)
      (performs : Performs host .capture inner found call) : Performs host sink line w call

theorem stage_reached_mem (host : Host) (nested : LineRunner) (sink : Sink) (source : Source) (first : Stage Text)
    (rest : List (Stage Text)) (w : World) (begun : Beginning)
    (reached : StageReached host nested sink source first rest w begun) : begun.stage ∈ first :: rest := by
  induction reached with
  | last source s w => exact List.mem_cons_self
  | first source s next rest w => exact List.mem_cons_self
  | later source s next rest w middle effect begun ran reached ih => exact List.mem_cons_of_mem s ih

theorem pipeline_reached_mem (host : Host) (nested : LineRunner) (sink : Sink) (pipelines : List (Pipeline Text))
    (w : World) (begun : Beginning) (reached : PipelineReached host nested sink pipelines w begun) :
    ∃ p ∈ pipelines, begun.stage ∈ p.stages := by
  induction reached with
  | first p rest w begun reached => exact ⟨p, List.mem_cons_self, stage_reached_mem host nested sink _ _ _ w begun reached⟩
  | later p rest w middle outcome begun ran goesOn reached ih =>
      obtain ⟨q, later, member⟩ := ih
      exact ⟨q, List.mem_cons_of_mem p later, member⟩

theorem stage_reached_captured (host : Host) (nested : LineRunner) (source : Source) (first : Stage Text)
    (rest : List (Stage Text)) (w : World) (begun : Beginning)
    (reached : StageReached host nested .capture source first rest w begun) : begun.stdout = .capture := by
  induction reached with
  | last source s w => rfl
  | first source s next rest w => rfl
  | later source s next rest w middle effect begun ran reached ih => exact ih

theorem pipeline_reached_captured (host : Host) (nested : LineRunner) (pipelines : List (Pipeline Text)) (w : World)
    (begun : Beginning) (reached : PipelineReached host nested .capture pipelines w begun) : begun.stdout = .capture := by
  induction reached with
  | first p rest w begun reached => exact stage_reached_captured host nested _ _ _ w begun reached
  | later p rest w middle outcome begun ran goesOn reached ih => exact ih

theorem runs_as_nested (host : Host) (nested : LineRunner) (sink : Sink) (line body : Text) (w middle found : World)
    (expanded : CommandList Text) (source : Source) (stdout : Sink) (runs : RunsAs host line w expanded middle)
    (reached : PipelineReached host nested sink expanded.pipelines middle ⟨.subshell body, source, stdout, found⟩) :
    NestedIn body line := by
  obtain ⟨list, parsed, _, ran⟩ := runs.typed
  obtain ⟨p, pipeline, stage⟩ := pipeline_reached_mem host nested sink _ _ _ reached
  have same := (expand_list_substitutes (runLine host) line list parsed).yields _ _ _ w middle expanded ran
  refine ⟨list, parsed, List.mem_append_right _ ?_⟩
  rw [list.bodies_of_shapes, ← same, ← expanded.bodies_of_shapes]
  exact List.mem_flatMap.2 ⟨p, pipeline, List.mem_filterMap.2 ⟨_, stage, rfl⟩⟩

theorem run_expanded (host : Host) (nested : LineRunner) (sink : Sink) (line : Text) (expanded : CommandList Text)
    (w : World) : (runExpanded host nested sink line expanded).run.run w =
      if isUnknown w expanded.pipelines then (.ok (w.session.evaluate line), w)
      else if expanded.background then (.ok {}, w)
      else (runPipelines host nested sink {} expanded.pipelines).run.run w := by
  by_cases unknown : isUnknown w expanded.pipelines = true
  · rw [if_pos unknown]
    exact run_expanded_unknown host nested sink line expanded w unknown
  · have started : (runExpanded host nested sink line expanded).run.run w =
        (if isUnknown w expanded.pipelines = true then evaluateLine line
          else if expanded.background then return {}
          else runPipelines host nested sink {} expanded.pipelines : Run World Outcome).run.run w := rfl
    rw [started, if_neg unknown, if_neg unknown]
    cases expanded.background <;> rfl

theorem run_line_runs_as (host : Host) (sink : Sink) (line : Text) (w middle : World) (expanded : CommandList Text)
    (runs : RunsAs host line w expanded middle) : (runLine host sink line).run.run w =
      (runPipelines host (runLine host) sink {} expanded.pipelines).run.run middle := by
  obtain ⟨list, parsed, nonempty, ran⟩ := runs.typed
  rw [run_line_eq, run_line_phases host _ sink line list parsed nonempty, Run.run_bind_ok _ _ w middle expanded ran,
    run_expanded, runs.known, runs.foreground]
  rfl

-- What a relation between the worlds before and after must be to hold of whole runs once it holds of every command.
structure Lasting (R : World → World → Prop) : Prop where
  refl : ∀ w, R w w
  trans : ∀ first middle last, R first middle → R middle last → R first last
  console : ∀ w console, R w { w with console }
  -- A sub-shell ends with the mark of an exiting session as it was.
  restored : ∀ w last, R w last → R w (last.withExiting w.session.exiting)

def EachCall (R : World → World → Prop) (host : Host) (sink : Sink) (line : Text) (w : World) : Prop :=
  ∀ call, Performs host sink line w call → ∀ source stdout stderr,
    R call.world (call.world.runSimple host source stdout stderr call.words).2

section Lasting

variable (R : World → World → Prop) (lasting : Lasting R) (host : Host) (nested : LineRunner) (sink : Sink)

include lasting

theorem substituted_lasting (run : Text → Run World Outcome) (w last : World) (lines : List Text)
    (ended : Option Failure) (ran : Substituted run w lines ended last)
    (each : ∀ before inner after found, lines = before ++ inner :: after → Substituted run w before none found →
      R found ((run inner).run.run found).2) : R w last := by
  induction ran with
  | done s => exact lasting.refl s
  | failed s last line later failure ran =>
      have first := each [] line later s rfl (.done s)
      rwa [ran] at first
  | refused s last line later outcome ran useless =>
      have first := each [] line later s rfl (.done s)
      rwa [ran] at first
  | passed s middle last line later outcome text ended ran success output others ih =>
      have first := each [] line later s rfl (.done s)
      rw [ran] at first
      refine lasting.trans s middle last first (ih fun before inner after found whole passed => ?_)
      exact each (line :: before) inner after found (by rw [whole]; rfl)
        (.passed s middle found line before outcome text none ran success output passed)

theorem run_subshell_lasting (body : Text) (stdout stderr : Sink) (w : World)
    (inside : R w ((nested stdout body).run.run w).2) :
    R w ((runSubshell nested body stdout stderr).run.run w).2 := by
  rw [run_subshell]
  cases ran : (nested stdout body).run.run w with
  | mk result after =>
      rw [ran] at inside
      have restored := lasting.restored w after inside
      cases result with
      | error failure => exact restored
      | ok outcome => exact lasting.trans w _ _ restored (lasting.console _ _)

theorem run_stages_lasting (source : Source) (first : Stage Text) (rest : List (Stage Text)) (w : World)
    (each : ∀ begun, StageReached host nested sink source first rest w begun →
      R begun.world ((runStage host nested begun.source begun.stdout sink begun.stage).run.run begun.world).2) :
    R w ((runStages host nested sink source first rest).run.run w).2 := by
  induction rest generalizing source first w with
  | nil => exact each _ (.last source first w)
  | cons next more ih =>
      have begins := each _ (.first source first next more w)
      rw [run_stages_more]
      cases ran : (runStage host nested source .capture sink first).run.run w with
      | mk result middle =>
          simp only [ran] at begins
          cases result with
          | error failure => exact begins
          | ok effect =>
              refine lasting.trans w middle _ begins (ih (.input ⟨effect.output⟩) next middle fun begun reached => ?_)
              exact each begun (.later source first next more w middle effect begun ran reached)

theorem run_pipelines_lasting (done : Outcome) (pipelines : List (Pipeline Text)) (w : World)
    (each : ∀ begun, PipelineReached host nested sink pipelines w begun →
      R begun.world ((runStage host nested begun.source begun.stdout sink begun.stage).run.run begun.world).2) :
    R w ((runPipelines host nested sink done pipelines).run.run w).2 := by
  induction pipelines generalizing done w with
  | nil => exact lasting.refl w
  | cons p rest ih =>
      have first : R w ((runPipeline host nested sink p).run.run w).2 := by
        rw [run_pipeline_stages]
        exact run_stages_lasting R lasting host nested sink _ p.first p.rest w fun begun reached =>
          each begun (.first p rest w begun reached)
      rw [run_pipelines_more]
      cases ran : (runPipeline host nested sink p).run.run w with
      | mk result middle =>
          rw [ran] at first
          cases result with
          | error failure => exact first
          | ok outcome =>
              by_cases exiting : middle.session.exiting = true
              · simp only [if_pos exiting]
                exact first
              · simp only [if_neg exiting]
                refine lasting.trans w middle _ first (ih (done.followedBy outcome) middle fun begun reached => ?_)
                exact each begun (.later p rest w middle outcome begun ran (by simpa using exiting) reached)

theorem run_expanded_lasting (line : Text) (expanded : CommandList Text) (w : World)
    (each : isUnknown w expanded.pipelines = false → expanded.background = false → ∀ begun,
      PipelineReached host nested sink expanded.pipelines w begun →
        R begun.world ((runStage host nested begun.source begun.stdout sink begun.stage).run.run begun.world).2) :
    R w ((runExpanded host nested sink line expanded).run.run w).2 := by
  rw [run_expanded]
  by_cases unknown : isUnknown w expanded.pipelines = true
  · rw [if_pos unknown]
    exact lasting.refl w
  · rw [if_neg unknown]
    by_cases background : expanded.background = true
    · rw [if_pos background]
      exact lasting.refl w
    · rw [if_neg background]
      exact run_pipelines_lasting R lasting host nested sink {} expanded.pipelines w
        (each (by simpa using unknown) (by simpa using background))

theorem regions_lasting (line : Text) (list : CommandList Word) (lines later : List Text) (w last : World)
    (ended : Option Failure) (parsed : CommandList.ofLine line = .ok list) (regions : list.regions = lines ++ later)
    (ran : Substituted (runLine host .capture) w lines ended last) (each : EachCall R host sink line w)
    (inside : ∀ inner found, NestedIn inner line → EachCall R host .capture inner found →
      R found ((runLine host .capture inner).run.run found).2) : R w last := by
  refine substituted_lasting R lasting _ w last lines ended ran fun before inner after found whole passed => ?_
  have split : list.regions = before ++ inner :: (after ++ later) := by simp [regions, whole]
  have region : inner ∈ list.regions := by simp [split]
  exact inside inner found ⟨list, parsed, List.mem_append_left _ region⟩ fun call performs =>
    each call (.region sink line inner before _ w found list call parsed split passed performs)

theorem begun_lasting (line : Text) (w middle : World) (expanded : CommandList Text) (begun : Beginning)
    (runs : RunsAs host line w expanded middle)
    (reached : PipelineReached host (runLine host) sink expanded.pipelines middle begun)
    (each : EachCall R host sink line w) (inside : ∀ body sink found, NestedIn body line →
      EachCall R host sink body found → R found ((runLine host sink body).run.run found).2) :
    R begun.world ((runStage host (runLine host) begun.source begun.stdout sink begun.stage).run.run begun.world).2 := by
  obtain ⟨stage, source, stdout, found⟩ := begun
  cases stage with
  | simple words =>
      exact each _ (.command sink line w middle found expanded words source stdout runs reached) source stdout sink
  | subshell body =>
      have nested := runs_as_nested host _ sink line body w middle found expanded source stdout runs reached
      refine run_subshell_lasting R lasting _ body stdout sink found (inside body stdout found nested ?_)
      exact fun call performs => each call
        (.subshell sink line body w middle found expanded source stdout call runs reached performs)

theorem run_line_lasting (line : Text) (w : World) (each : EachCall R host sink line w) :
    R w ((runLine host sink line).run.run w).2 := by
  induction length : line.length using Nat.strong_induction_on generalizing sink line w with
  | _ n ih =>
      have inside (inner : Text) (sink : Sink) (found : World) (nested : NestedIn inner line)
          (each : EachCall R host sink inner found) : R found ((runLine host sink inner).run.run found).2 := by
        have shorter := (nested_shorter inner line nested).2
        exact ih inner.length (by omega) sink inner found each rfl
      have regions (list : CommandList Word) (parsed : CommandList.ofLine line = .ok list) (ended : Option Failure)
          (last : World) (ran : Substituted (runLine host .capture) w list.regions ended last) : R w last :=
        regions_lasting R lasting host sink line list _ [] w last ended parsed (List.append_nil _).symm ran each fun inner =>
          inside inner .capture
      rw [run_line_eq]
      cases parsed : CommandList.ofLine line with
      | error e =>
          rw [runLineWith, parsed]
          exact lasting.refl w
      | ok list =>
          by_cases empty : list.pipelines = []
          · simp only [runLineWith, parsed, empty]
            exact lasting.refl w
          · rw [run_line_phases host _ sink line list parsed empty, Run.run_bind]
            rcases expand_list_substitutes (runLine host) line list parsed w with
              ⟨expanded, middle, passed, ran, _⟩ | ⟨failure, last, failed, ran⟩
            · rw [ran]
              refine lasting.trans w middle _ (regions list parsed none middle passed) ?_
              refine run_expanded_lasting R lasting host _ sink line expanded middle fun known foreground begun reached => ?_
              exact begun_lasting R lasting host sink line w middle expanded begun
                ⟨⟨list, parsed, empty, ran⟩, known, foreground⟩ reached each inside
            · rw [ran]
              exact regions list parsed (some failure) last failed

theorem stage_reached_lasting (source : Source) (first : Stage Text) (rest : List (Stage Text)) (w : World)
    (begun : Beginning) (reached : StageReached host nested sink source first rest w begun)
    (each : ∀ begun, StageReached host nested sink source first rest w begun →
      R begun.world ((runStage host nested begun.source begun.stdout sink begun.stage).run.run begun.world).2) :
    R w begun.world := by
  induction reached with
  | last source s w => exact lasting.refl w
  | first source s next rest w => exact lasting.refl w
  | later source s next rest w middle effect begun ran reached ih =>
      have begins := each _ (.first source s next rest w)
      simp only [ran] at begins
      refine lasting.trans w middle _ begins (ih fun begun reached => ?_)
      exact each begun (.later source s next rest w middle effect begun ran reached)

theorem pipeline_reached_lasting (pipelines : List (Pipeline Text)) (w : World) (begun : Beginning)
    (reached : PipelineReached host nested sink pipelines w begun)
    (each : ∀ begun, PipelineReached host nested sink pipelines w begun →
      R begun.world ((runStage host nested begun.source begun.stdout sink begun.stage).run.run begun.world).2) :
    R w begun.world := by
  induction reached with
  | first p rest w begun reached =>
      exact stage_reached_lasting R lasting host nested sink _ p.first p.rest w begun reached fun begun reached =>
        each begun (.first p rest w begun reached)
  | later p rest w middle outcome begun ran goesOn reached ih =>
      have first : R w ((runPipeline host nested sink p).run.run w).2 := by
        rw [run_pipeline_stages]
        exact run_stages_lasting R lasting host nested sink _ p.first p.rest w fun begun reached =>
          each begun (.first p rest w begun reached)
      rw [ran] at first
      refine lasting.trans w middle _ first (ih fun begun reached => ?_)
      exact each begun (.later p rest w middle outcome begun ran goesOn reached)

theorem runs_as_lasting (line : Text) (w middle : World) (expanded : CommandList Text) (begun : Beginning)
    (runs : RunsAs host line w expanded middle)
    (reached : PipelineReached host (runLine host) sink expanded.pipelines middle begun)
    (each : EachCall R host sink line w) : R w begun.world := by
  obtain ⟨list, parsed, nonempty, ran⟩ := runs.typed
  have expansion : R w middle := by
    rcases expand_list_substitutes (runLine host) line list parsed w with
      ⟨values, last, passed, ran', _⟩ | ⟨failure, last, _, ran'⟩
    · rw [ran] at ran'
      cases ran'
      exact regions_lasting R lasting host sink line list _ [] w middle none parsed (List.append_nil _).symm passed each
        fun inner found _ each => run_line_lasting R lasting host .capture inner found each
    · rw [ran] at ran'
      cases ran'
  refine lasting.trans w middle _ expansion ?_
  refine pipeline_reached_lasting R lasting host _ sink _ middle begun reached fun begun reached => ?_
  exact begun_lasting R lasting host sink line w middle expanded begun runs reached each fun body sink found _ each =>
    run_line_lasting R lasting host sink body found each

theorem performs_lasting (line : Text) (w : World) (call : Call) (performs : Performs host sink line w call)
    (each : EachCall R host sink line w) : R w call.world := by
  induction performs with
  | command sink line w middle found expanded words source stdout runs reached =>
      exact runs_as_lasting R lasting host sink line w middle expanded _ runs reached each
  | subshell sink line body w middle found expanded source stdout call runs reached performs ih =>
      have begun := runs_as_lasting R lasting host sink line w middle expanded _ runs reached each
      refine lasting.trans w found _ begun (ih fun call performs => each call ?_)
      exact .subshell sink line body w middle found expanded source stdout call runs reached performs
  | region sink line inner before after w found list call parsed regions ran performs ih =>
      have begun := regions_lasting R lasting host sink line list before _ w found none parsed regions ran each
        fun inner found _ each => run_line_lasting R lasting host .capture inner found each
      refine lasting.trans w found _ begun (ih fun call performs => each call ?_)
      exact .region sink line inner before after w found list call parsed regions ran performs

end Lasting

end CommandShell
