import CommandShell.Proofs.Execution.Captured
import CommandShell.Proofs.Execution.Texts

set_option autoImplicit false

namespace CommandShell

variable {α β : Type}

-- Two runs end alike: both fail, for the same reason, or what they yield and the console of the second are related so.
-- They leave the same session and the same files.
inductive Alike (R : α → α → Console → Prop) : Except Failure α × World → Except Failure α × World → Prop where
  | failed (failure : Failure) (last : World) (console : Console) :
      Alike R (.error failure, last) (.error failure, last.withConsole console)
  | done (a b : α) (last : World) (console : Console) (related : R a b console) :
      Alike R (.ok a, last) (.ok b, last.withConsole console)

namespace Alike

theorem weaken (R S : α → α → Console → Prop) (x y : Except Failure α × World) (alike : Alike R x y)
    (weaker : ∀ a b last console, x = (.ok a, last) → R a b console → S a b console) : Alike S x y := by
  cases alike with
  | failed failure last console => exact .failed failure last console
  | done a b last console related => exact .done a b last console (weaker a b last console rfl related)

theorem bind (R : α → α → Console → Prop) (S : β → β → Console → Prop) (first first' : Run World α)
    (next next' : α → Run World β) (w w' : World) (begun : Alike R (first.run.run w) (first'.run.run w'))
    (goesOn : ∀ a b last console, first.run.run w = (.ok a, last) → R a b console →
      Alike S ((next a).run.run last) ((next' b).run.run (last.withConsole console))) :
    Alike S ((first >>= next).run.run w) ((first' >>= next').run.run w') := by
  rw [Run.run_bind, Run.run_bind]
  cases ran : first.run.run w with
  | mk result last =>
      cases ran' : first'.run.run w' with
      | mk result' last' =>
          rw [ran, ran'] at begun
          cases begun with
          | failed failure last console => exact .failed failure last console
          | done a b last console related => exact goesOn a b last console ran related

theorem blind (run : Run World α) (blind : Blind run) (w : World) (console : Console) :
    Alike (fun a b console' => b = a ∧ console' = console) (run.run.run w) (run.run.run (w.withConsole console)) := by
  rw [blind w console]
  cases run.run.run w with
  | mk result last =>
      cases result with
      | error failure => exact .failed failure last console
      | ok a => exact .done a a last console ⟨rfl, rfl⟩

end Alike

structure Outcome.Printed (c c' : Console) (whole left : Outcome) : Prop where
  code : left.code = whole.code
  texts : ∃ output errors, c.Shows c' output errors ∧
    output ++ Text.utf8 (left.output.getD []) = Text.utf8 (whole.output.getD []) ∧
    errors ++ Text.utf8 (left.errors.getD []) = Text.utf8 (whole.errors.getD [])

namespace Outcome

theorem Printed.unchanged (c : Console) (o : Outcome) : Printed c c o o := ⟨rfl, [], [], .nothing c, rfl, rfl⟩

theorem join_texts_utf8 (a b : Option Text) :
    Text.utf8 ((joinTexts a b).getD []) = Text.utf8 (a.getD []) ++ Text.utf8 (b.getD []) := by
  rw [join_texts_text, Text.utf8, Text.utf8, Text.utf8, List.flatMap_append]

theorem followed_by_output (a b : Outcome) : (a.followedBy b).effect.output = a.effect.output ++ b.effect.output := by
  rw [effect_output, effect_output, effect_output]
  exact join_texts_utf8 a.output b.output

theorem followed_by_errors (a b : Outcome) : (a.followedBy b).effect.errors = a.effect.errors ++ b.effect.errors :=
  join_texts_utf8 a.errors b.errors

theorem of_effect_output (e : Effect) (text : e.IsText) : e.outcome.effect.output = e.output := by
  rw [effect_output]
  exact text.output.written

theorem of_effect_errors (e : Effect) (text : e.IsText) : e.outcome.effect.errors = e.errors := text.errors.written

end Outcome

-- What is left of an effect where errors go to the console, and output goes there or not.
def Effect.kept (e : Effect) : Sink → Effect
  | .console => { code := e.code }
  | .capture => { e with errors := [] }

def Effect.shown (e : Effect) : Sink → Bytes
  | .console => e.output
  | .capture => []

theorem deliver_shows (w : World) (c : Console) (stdout : Sink) (e : Effect) :
    ∃ c', (w.withConsole c).deliver stdout .console e = (e.kept stdout, w.withConsole c') ∧
      c.Shows c' (e.shown stdout) e.errors := by
  cases stdout with
  | console =>
      have output := c.write_all_shows e.writes
      have errors := (e.writes.foldl Console.write c).write_errors_shows e.errors
      refine ⟨(e.writes.foldl Console.write c).writeErrors e.errors, rfl, ?_⟩
      simpa [Effect.shown, Effect.output] using output.trans _ _ _ _ _ _ _ errors
  | capture => exact ⟨c.writeErrors e.errors, rfl, c.write_errors_shows e.errors⟩

def LineAlike (nested : LineRunner) (line : Text) (w : World) : Prop :=
  ∀ c : Console, c.Ended → Alike (fun o o' c' => Outcome.Printed c c' o o')
    ((nested .capture line).run.run w) ((nested .console line).run.run (w.withConsole c))

def Beginning.Agrees (nested : LineRunner) (b : Beginning) : Prop :=
  match b.stage with
  | .simple words => Call.Plain ⟨words, b.world⟩
  | .subshell body => LineAlike nested body b.world

def StagePrinted (stdout : Sink) (c : Console) (e e' : Effect) (c' : Console) : Prop :=
  e.IsText ∧ e' = e.kept stdout ∧ c.Shows c' (e.shown stdout) e.errors

def PipelinePrinted (c : Console) (o o' : Outcome) (c' : Console) : Prop :=
  o' = { code := o.code } ∧ c.Shows c' o.effect.output o.effect.errors

section Stages

variable (host : Host) (nested : LineRunner) (blind : ∀ inner, Blind (nested .capture inner))

theorem run_named_plain (w : World) (c : Console) (name : Text) (arguments : List Text) (i : Input) (source : Source)
    (stdout : Sink) (gives : source.Gives c i) (plain : Call.Plain ⟨name :: arguments, w⟩) :
    (w.withConsole c).runNamed host name arguments source stdout =
      (w.runNamed host name arguments (.input i) .capture).map id (World.withConsole c) := by
  refine run_named_beside host w c arguments i source stdout name fun command found => ?_
  cases command with
  | builtin b => exact congrArg Except.ok (run_builtin_beside w c arguments i source gives b)
  | script path => exact run_script_beside host w c arguments i source stdout path
  | program path => exact absurd found (plain.own name rfl path)

theorem run_simple_alike (words : List Text) (w : World) (c : Console) (i : Input) (source : Source) (stdout : Sink)
    (gives : source.Gives c i) (given : Bytes.IsText i.unread) (plain : Call.Plain ⟨words, w⟩) :
    Alike (StagePrinted stdout c) ((runStage host nested (.input i) .capture .capture (.simple words)).run.run w)
      ((runStage host nested source stdout .console (.simple words)).run.run (w.withConsole c)) := by
  rw [run_stage_simple, run_stage_simple]
  cases words with
  | nil =>
      have nothing : StagePrinted stdout c {} {} c := by
        cases stdout <;> exact ⟨⟨.nil, .nil⟩, rfl, .nothing c⟩
      exact .done _ _ w c nothing
  | cons name arguments =>
      have text := run_named_text host w name arguments i given plain
      have same := run_named_plain host w c name arguments i source stdout gives plain
      cases ran : w.runNamed host name arguments (.input i) .capture with
      | mk e last =>
          rw [ran] at text same
          obtain ⟨c', delivered, shown⟩ := deliver_shows last c stdout e
          have captured : w.runSimple host (.input i) .capture .capture (name :: arguments) = (e, last) := by
            rw [World.runSimple, ran]
            rfl
          have inherited : (w.withConsole c).runSimple host source stdout .console (name :: arguments) =
              (e.kept stdout, last.withConsole c') := by
            rw [World.runSimple, same]
            exact delivered
          rw [captured, inherited]
          exact .done e _ last c' ⟨text, rfl, shown⟩

include blind

theorem run_subshell_alike (body : Text) (w : World) (c : Console) (stdout : Sink) (ended : c.Ended)
    (agrees : LineAlike nested body w) :
    Alike (StagePrinted stdout c) ((runSubshell nested body .capture .capture).run.run w)
      ((runSubshell nested body stdout .console).run.run (w.withConsole c)) := by
  have inside : Alike (fun o o' c' => o'.effect.kept stdout = o.effect.kept stdout ∧ ∀ c'',
        c'.Shows c'' (o'.effect.shown stdout) o'.effect.errors → c.Shows c'' (o.effect.shown stdout) o.effect.errors)
      ((nested .capture body).run.run w) ((nested stdout body).run.run (w.withConsole c)) := by
    cases stdout with
    | console =>
        refine (agrees c ended).weaken _ _ _ _ fun o o' last c' _ printed => ?_
        obtain ⟨code, output, errors, shown, outputs, faults⟩ := printed
        refine ⟨congrArg (fun code => ({ code } : Effect)) code, fun c'' rest => ?_⟩
        have whole := shown.trans c c' c'' _ _ _ _ rest
        rw [Effect.shown, Outcome.effect_output, Outcome.effect, outputs, faults] at whole
        rw [Effect.shown, Outcome.effect_output]
        exact whole
    | capture =>
        refine (Alike.blind _ (blind body) w c).weaken _ _ _ _ fun o o' last c' _ same => ?_
        obtain ⟨rfl, rfl⟩ := same
        exact ⟨rfl, fun _ => id⟩
  have marked : (w.withConsole c).session.exiting = w.session.exiting := rfl
  rw [run_subshell, run_subshell, marked]
  cases ran : (nested .capture body).run.run w with
  | mk result last =>
      cases ran' : (nested stdout body).run.run (w.withConsole c) with
      | mk result' last' =>
          rw [ran, ran'] at inside
          cases inside with
          | failed failure last c' => exact .failed failure _ c'
          | done o o' last c' related =>
              obtain ⟨same, whole⟩ := related
              obtain ⟨c'', delivered, rest⟩ := deliver_shows (last.withExiting w.session.exiting) c' stdout o'.effect
              have moved : (last.withConsole c').withExiting w.session.exiting =
                  (last.withExiting w.session.exiting).withConsole c' := rfl
              simp only [moved, delivered]
              exact .done o.effect _ (last.withExiting w.session.exiting) c'' ⟨o.effect_text, same, whole c'' rest⟩

theorem run_stage_alike (s : Stage Text) (w : World) (c : Console) (i : Input) (source : Source) (stdout : Sink)
    (ended : c.Ended) (gives : source.Gives c i) (given : Bytes.IsText i.unread)
    (agrees : Beginning.Agrees nested ⟨s, .input i, .capture, w⟩) :
    Alike (StagePrinted stdout c) ((runStage host nested (.input i) .capture .capture s).run.run w)
      ((runStage host nested source stdout .console s).run.run (w.withConsole c)) := by
  cases s with
  | simple words => exact run_simple_alike host nested words w c i source stdout gives given agrees
  | subshell body => exact run_subshell_alike nested blind body w c stdout ended agrees

-- Errors come in the order of the stages, wherever they lead.
theorem run_stages_alike (first : Stage Text) (rest : List (Stage Text)) (w : World) (c : Console) (i : Input)
    (source : Source) (ended : c.Ended) (gives : source.Gives c i) (given : Bytes.IsText i.unread)
    (agrees : ∀ begun, StageReached host nested .capture (.input i) first rest w begun → begun.Agrees nested) :
    Alike (StagePrinted .console c) ((runStages host nested .capture (.input i) first rest).run.run w)
      ((runStages host nested .console source first rest).run.run (w.withConsole c)) := by
  induction rest generalizing first w c i source with
  | nil =>
      exact run_stage_alike host nested blind first w c i source .console ended gives given (agrees _ (.last _ first w))
  | cons next more ih =>
      have begins := run_stage_alike host nested blind first w c i source .capture ended gives given
        (agrees _ (.first _ first next more w))
      rw [runStages, runStages]
      refine Alike.bind _ _ _ _ _ _ w _ begins fun e e' middle c' ran begun => ?_
      obtain ⟨text, rfl, shown⟩ := begun
      have others := ih next middle c' ⟨e.output⟩ (.input ⟨e.output⟩) (shown.ended c c' _ _ ended) (.input _) text.output
        fun begun reached => agrees begun (.later _ first next more w middle e begun ran reached)
      refine Alike.bind _ _ _ _ _ _ middle _ others fun f f' last c'' _ rest => ?_
      obtain ⟨text', rfl, shown'⟩ := rest
      exact .done _ _ last c''
        ⟨⟨text'.output, text.errors.append _ _ text'.errors⟩, rfl, shown.trans c c' c'' _ _ _ _ shown'⟩

theorem run_pipeline_alike (p : Pipeline Text) (w : World) (c : Console) (ended : c.Ended)
    (agrees : ∀ begun, StageReached host nested .capture (firstSource .capture) p.first p.rest w begun →
      begun.Agrees nested) :
    Alike (PipelinePrinted c) ((runPipeline host nested .capture p).run.run w)
      ((runPipeline host nested .console p).run.run (w.withConsole c)) := by
  have stages := run_stages_alike host nested blind p.first p.rest w c {} .console ended (.console ended) .nil agrees
  refine Alike.bind _ _ _ _ _ _ w _ stages fun e e' last c' _ related => ?_
  obtain ⟨text, rfl, shown⟩ := related
  have whole : c.Shows c' e.outcome.effect.output e.outcome.effect.errors := by
    rw [Outcome.of_effect_output e text, Outcome.of_effect_errors e text]
    exact shown
  exact .done e.outcome _ last c' ⟨rfl, whole⟩

theorem run_pipelines_alike (start c : Console) (done : Outcome) (pipelines : List (Pipeline Text)) (w : World)
    (ended : c.Ended) (before : start.Shows c done.effect.output done.effect.errors)
    (agrees : ∀ begun, PipelineReached host nested .capture pipelines w begun → begun.Agrees nested) :
    Alike (PipelinePrinted start) ((runPipelines host nested .capture done pipelines).run.run w)
      ((runPipelines host nested .console { code := done.code } pipelines).run.run (w.withConsole c)) := by
  induction pipelines generalizing c done w with
  | nil => exact .done done _ w c ⟨rfl, before⟩
  | cons p rest ih =>
      have first := run_pipeline_alike host nested blind p w c ended fun begun reached =>
        agrees begun (.first p rest w begun reached)
      rw [runPipelines, runPipelines]
      refine Alike.bind _ _ _ _ _ _ w _ first fun o o' middle c' ran related => ?_
      obtain ⟨rfl, shown⟩ := related
      have whole : start.Shows c' (done.followedBy o).effect.output (done.followedBy o).effect.errors := by
        rw [Outcome.followed_by_output, Outcome.followed_by_errors]
        exact before.trans start c c' _ _ _ _ shown
      change Alike _ ((if middle.session.exiting then pure (done.followedBy o)
          else runPipelines host nested .capture (done.followedBy o) rest : Run World Outcome).run.run middle)
        ((if middle.session.exiting then pure { code := o.code }
          else runPipelines host nested .console { code := o.code } rest : Run World Outcome).run.run
            (middle.withConsole c'))
      cases exiting : middle.session.exiting with
      | true => exact .done _ _ middle c' ⟨rfl, whole⟩
      | false =>
          exact ih c' (done.followedBy o) middle (shown.ended c c' _ _ ended) whole fun begun reached =>
            agrees begun (.later p rest w middle o begun ran exiting reached)

end Stages

def IsRun (host : Host) (line : Text) (w : World) : Prop := ∃ expanded middle, RunsAs host line w expanded middle

theorem not_run_unknown (host : Host) (line : Text) (w middle : World) (list : CommandList Word)
    (expanded : CommandList Text) (parsed : CommandList.ofLine line = .ok list)
    (ran : (expandList (runLine host) list).run.run w = (.ok expanded, middle))
    (unknown : isUnknown middle expanded.pipelines = true) : ¬ IsRun host line w := by
  rintro ⟨expanded', middle', ⟨list', parsed', _, ran'⟩, known, _⟩
  rw [parsed] at parsed'
  cases parsed'
  rw [ran] at ran'
  cases ran'
  rw [unknown] at known
  cases known

def LinePrinted (host : Host) (line : Text) (w : World) (c : Console) (o o' : Outcome) (c' : Console) : Prop :=
  o.Printed c c' o' ∧ (IsRun host line w → o'.output = none ∧ o'.errors = none)

theorem run_expanded_alike (host : Host) (line : Text) (w middle : World) (c : Console) (list : CommandList Word)
    (expanded : CommandList Text) (parsed : CommandList.ofLine line = .ok list) (nonempty : list.pipelines ≠ [])
    (ran : (expandList (runLine host) list).run.run w = (.ok expanded, middle)) (ended : c.Ended)
    (agrees : RunsAs host line w expanded middle → ∀ begun,
      PipelineReached host (runLine host) .capture expanded.pipelines middle begun → begun.Agrees (runLine host)) :
    Alike (LinePrinted host line w c) ((runExpanded host (runLine host) .capture line expanded).run.run middle)
      ((runExpanded host (runLine host) .console line expanded).run.run (middle.withConsole c)) := by
  rw [run_expanded, run_expanded, is_unknown_beside]
  by_cases unknown : isUnknown middle expanded.pipelines = true
  · rw [if_pos unknown, if_pos unknown]
    have notRun := not_run_unknown host line w middle list expanded parsed ran unknown
    exact .done _ _ middle c ⟨.unchanged c _, fun isRun => absurd isRun notRun⟩
  · rw [if_neg unknown, if_neg unknown]
    by_cases background : expanded.background = true
    · rw [if_pos background, if_pos background]
      exact .done _ _ middle c ⟨.unchanged c _, fun _ => ⟨rfl, rfl⟩⟩
    · rw [if_neg background, if_neg background]
      have runs : RunsAs host line w expanded middle :=
        ⟨⟨list, parsed, nonempty, ran⟩, by simpa using unknown, by simpa using background⟩
      have pipelines := run_pipelines_alike host (runLine host) (run_line_blind host) c c {} expanded.pipelines middle ended
        (.nothing c) (agrees runs)
      refine pipelines.weaken _ _ _ _ fun o o' last c' _ related => ?_
      obtain ⟨rfl, shown⟩ := related
      rw [Outcome.effect_output] at shown
      exact ⟨⟨rfl, _, _, shown, List.append_nil _, List.append_nil _⟩, fun _ => ⟨rfl, rfl⟩⟩

theorem run_line_alike (host : Host) (line : Text) (w : World) (c : Console) (ended : c.Ended)
    (plain : ∀ call, Performs host .capture line w call → call.Plain) :
    Alike (LinePrinted host line w c) ((runLine host .capture line).run.run w)
      ((runLine host .console line).run.run (w.withConsole c)) := by
  induction length : line.length using Nat.strong_induction_on generalizing line w c with
  | _ n ih =>
      rw [run_line_eq, run_line_eq]
      cases parsed : CommandList.ofLine line with
      | error e =>
          have notRun : ¬ IsRun host line w := by
            rintro ⟨_, _, ⟨list, isList, _⟩, _⟩
            rw [parsed] at isList
            cases isList
          rw [runLineWith, runLineWith, parsed]
          exact .done _ _ w c ⟨.unchanged c _, fun isRun => absurd isRun notRun⟩
      | ok list =>
          by_cases empty : list.pipelines = []
          · simp only [runLineWith, parsed, empty]
            exact .done _ _ w c ⟨.unchanged c _, fun _ => ⟨rfl, rfl⟩⟩
          · rw [run_line_phases host _ .capture line list parsed empty, run_line_phases host _ .console line list parsed empty]
            have expansion := Alike.blind _ (expand_list_blind (runLine host) (run_line_blind host) list) w c
            refine Alike.bind _ _ _ _ _ _ w _ expansion fun expanded expanded' middle c' ran same => ?_
            obtain ⟨rfl, rfl⟩ := same
            refine run_expanded_alike host line w middle c' list expanded' parsed empty ran ended fun runs begun reached => ?_
            obtain ⟨stage, source, stdout, found⟩ := begun
            cases stage with
            | simple words => exact plain _ (.command _ _ w middle found expanded' words source stdout runs reached)
            | subshell body =>
                have nested := runs_as_nested host _ _ line body w middle found expanded' source stdout runs reached
                have shorter := (nested_shorter body line nested).2
                obtain rfl : stdout = .capture := pipeline_reached_captured host _ _ middle _ reached
                intro c'' ended''
                have inside := ih body.length (by omega) body found c'' ended'' (fun call performs => plain call
                  (.subshell _ _ body w middle found expanded' source .capture call runs reached performs)) rfl
                exact inside.weaken _ _ _ _ fun o o' last c' _ related => related.1

theorem captured_as_inherited (host : Host) (line : Text) (w : World) (ended : w.console.Ended)
    (plain : ∀ call, Performs host .capture line w call → call.Plain) :
    Alike (LinePrinted host line w w.console) ((runLine host .capture line).run.run w)
      ((runLine host .console line).run.run w) :=
  run_line_alike host line w w.console ended plain

theorem captured_as_inherited_echo :
    let w : World := ⟨Session.start Calculator.eval {} "/tmp".toList "/home".toList, {}, {}⟩
    ∀ host : Host, w.console.Ended ∧ (∀ call, Performs host .capture "echo hi".toList w call → call.Plain) ∧
      (runLine host .capture "echo hi".toList).run.run w = (.ok { output := some "hi\n".toList }, w) ∧
      (runLine host .console "echo hi".toList).run.run w =
        (.ok {}, { w with console := (w.console.write (Text.utf8 "hi\n".toList)).writeErrors [] }) ∧
      Alike (LinePrinted host "echo hi".toList w w.console) ((runLine host .capture "echo hi".toList).run.run w)
        ((runLine host .console "echo hi".toList).run.run w) := by
  intro w host
  let words : List Word := [.bare "echo".toList, .bare "hi".toList]
  have parsed := CommandList.of_line_one "echo hi".toList (.simple words) (List.cons_ne_nil _ _) rfl
  have expanded : (expandList (runLine host) ⟨[⟨.simple words, []⟩], false⟩).run.run w =
      (.ok ⟨[⟨.simple ["echo".toList, "hi".toList], []⟩], false⟩, w) := rfl
  have only (list : CommandList Text) (middle : World) (begun : Beginning) (runs : RunsAs host "echo hi".toList w list middle)
      (reached : PipelineReached host (runLine host) .capture list.pipelines middle begun) :
      begun.stage = .simple ["echo".toList, "hi".toList] ∧ begun.world = w := by
    obtain ⟨⟨list', isList, _, ran⟩, _, _⟩ := runs
    rw [parsed] at isList
    cases isList
    rw [expanded] at ran
    cases ran
    cases reached with
    | first p rest w begun reached =>
        cases reached with
        | last source s w => exact ⟨rfl, rfl⟩
    | later p rest w middle outcome begun ran goesOn reached => cases reached
  have ended : w.console.Ended := ⟨rfl, rfl⟩
  have isBuiltin : Command.find w.files w.session "echo".toList = some (.builtin .echo) := rfl
  have plain (call : Call) (performs : Performs host .capture "echo hi".toList w call) : call.Plain := by
    cases performs with
    | command sink line w' middle found expanded words source stdout runs reached =>
        obtain ⟨isEcho, rfl⟩ := only expanded middle _ runs reached
        cases isEcho
        refine ⟨fun name isFirst path isProgram => ?_, fun content member => (by cases member)⟩
        cases isFirst
        rw [isBuiltin] at isProgram
        cases isProgram
    | subshell sink line body w' middle found expanded source stdout call runs reached performs =>
        obtain ⟨isEcho, _⟩ := only expanded middle _ runs reached
        cases isEcho
    | region sink line inner before after w' found list call isList regions ran performs =>
        rw [parsed] at isList
        cases isList
        cases before <;> cases regions
  have ran (sink : Sink) : (runLine host sink "echo hi".toList).run.run w =
      (runExpanded host (runLine host) sink "echo hi".toList ⟨[⟨.simple ["echo".toList, "hi".toList], []⟩], false⟩).run.run w := by
    rw [run_line_eq, run_line_phases host _ sink _ _ parsed (List.cons_ne_nil _ _), Run.run_bind_ok _ _ w w _ expanded]
  exact ⟨ended, plain, (ran .capture).trans rfl, (ran .console).trans rfl, captured_as_inherited host _ w ended plain⟩

end CommandShell
