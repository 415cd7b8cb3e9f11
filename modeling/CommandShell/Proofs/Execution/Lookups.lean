import CommandShell.Proofs.Execution.Calls
import CommandShell.Proofs.Execution.Resolution

set_option autoImplicit false

namespace CommandShell

-- What a look-up reports: a builtin by its name, a script or a program by its path.
inductive Finding where
  | builtin (name : Text)
  | script (path : Text)
  | program (path : Text)
deriving DecidableEq, Repr

namespace Command

def report : Command → Finding
  | builtin b => .builtin b.name
  | script path => .script path
  | program path => .program path

def search (fs : FileSystem) (s : Session) (name : Text) : Option Finding := (find fs s name).map report

end Command

-- What the table of builtins has under a name. An entry makes commands of its own name only.
def Builtin.made? (name : Text) : Option Builtin := (ofName? name).filter fun b => b.name == name

def Finding.instance? (found : Finding) (arguments : List Text) : Option (Command × List Text) :=
  match found with
  | .builtin name => (Builtin.made? name).map fun b => (.builtin b, arguments)
  | .script path => some (.script path, arguments)
  | .program path => some (.program path, arguments)

namespace World

def runFound (w : World) (host : Host) (name : Text) (command : Command) (arguments : List Text) (source : Source)
    (stdout : Sink) : Effect × World :=
  match w.runCommand host command arguments source stdout with
  | .ok done => done
  | .error e => (.complain 1 (name ++ ": ".toList ++ e.message), w)

end World

theorem Builtin.made_name (b : Builtin) : made? b.name = some b := by
  rw [made?, (Builtin.of_name_iff b.name b).2 rfl]
  simp

theorem Command.instance_report (c : Command) (arguments : List Text) :
    c.report.instance? arguments = some (c, arguments) := by
  cases c with
  | builtin b => simp [report, Finding.instance?, Builtin.made_name]
  | script path => rfl
  | program path => rfl

theorem Command.search_some (fs : FileSystem) (s : Session) (name : Text) (found : Finding)
    (searched : search fs s name = some found) :
    ∃ command, find fs s name = some command ∧ found = command.report := by
  obtain ⟨command, isFound, same⟩ := Option.map_eq_some_iff.1 searched
  exact ⟨command, isFound, same.symm⟩

theorem Command.search_none (fs : FileSystem) (s : Session) (name : Text) :
    search fs s name = none ↔ find fs s name = none := Option.map_eq_none_iff

theorem run_named_searched (w : World) (host : Host) (name : Text) (arguments : List Text) (source : Source)
    (stdout : Sink) :
    w.runNamed host name arguments source stdout =
      match (Command.search w.files w.session name).bind fun found => found.instance? arguments with
      | none => (.complain 127 ("kash: command not found: ".toList ++ name), w)
      | some (command, arguments) => w.runFound host name command arguments source stdout := by
  rw [World.runNamed, Command.search]
  cases Command.find w.files w.session name with
  | none => rfl
  | some command =>
      rw [Option.map_some, Option.bind_some, command.instance_report]
      rfl

-- The stage is a command without words, or its first word has no meaning in this world.
def Stage.Unknown (w : World) (s : Stage Text) : Prop :=
  ∃ words, s = .simple words ∧ ∀ name ∈ words.head?, Command.search w.files w.session name = none

theorem is_unknown_iff (w : World) (p : Pipeline Text) (more : List (Pipeline Text)) :
    isUnknown w (p :: more) = true ↔ p.first.Unknown w := by
  obtain ⟨first, rest⟩ := p
  cases first with
  | subshell body =>
      constructor
      · nofun
      · rintro ⟨words, same, _⟩
        cases same
  | simple words =>
      constructor
      · intro unknown
        refine ⟨words, rfl, fun name isName => (Command.search_none _ _ name).2 ?_⟩
        cases words with
        | nil => cases isName
        | cons first arguments =>
            obtain rfl := Option.some.inj isName
            simpa [isUnknown] using unknown
      · rintro ⟨_, same, unresolved⟩
        cases same
        exact is_unknown_simple w words rest more fun name isName => (Command.search_none _ _ name).1 (unresolved name isName)

theorem known_simple (w : World) (words : List Text) (known : ¬ (Stage.simple words).Unknown w) :
    ∃ name arguments command, words = name :: arguments ∧ Command.find w.files w.session name = some command := by
  cases words with
  | nil => exact absurd ⟨[], rfl, nofun⟩ known
  | cons name arguments =>
      cases found : Command.find w.files w.session name with
      | some command => exact ⟨name, arguments, command, rfl, found⟩
      | none =>
          refine absurd ⟨name :: arguments, rfl, fun first isFirst => ?_⟩ known
          obtain rfl := Option.some.inj isFirst
          exact (Command.search_none _ _ name).2 found

section Stages

variable (host : Host) (nested : LineRunner)

theorem run_stage_found (w : World) (name : Text) (arguments : List Text) (command : Command)
    (found : Command.find w.files w.session name = some command) (source : Source) (stdout stderr : Sink) :
    (runStage host nested source stdout stderr (.simple (name :: arguments))).run.run w =
      let (effect, after) := w.runFound host name command arguments source stdout
      let (left, last) := after.deliver stdout stderr effect
      (.ok left, last) := by
  rw [run_stage_simple, World.runSimple, run_named_searched, Command.search, found, Option.map_some, Option.bind_some,
    command.instance_report]

theorem run_stage_unfound (w : World) (name : Text) (arguments : List Text)
    (unfound : Command.search w.files w.session name = none) (source : Source) (stdout stderr : Sink) :
    let message := Text.utf8 ("kash: command not found: ".toList ++ name ++ ['\n'])
    (runStage host nested source stdout stderr (.simple (name :: arguments))).run.run w =
      match stderr with
      | .capture => (.ok { code := 127, errors := message }, w)
      | .console => (.ok { code := 127 }, { w with console := w.console.writeErrors message }) := by
  intro message
  rw [run_stage_simple, World.runSimple, run_named_searched, unfound]
  cases stdout <;> cases stderr <;> rfl

theorem first_reached (sink : Sink) (p : Pipeline Text) (more : List (Pipeline Text)) (w : World) :
    ∃ stdout, PipelineReached host nested sink (p :: more) w ⟨p.first, firstSource sink, stdout, w⟩ := by
  obtain ⟨first, rest⟩ := p
  cases rest with
  | nil => exact ⟨sink, .first _ more w _ (.last _ first w)⟩
  | cons next others => exact ⟨.capture, .first _ more w _ (.first _ first next others w)⟩

end Stages

def ExpandsTo (host : Host) (line : Text) (w : World) (expanded : CommandList Text) (middle : World) : Prop :=
  ∃ list, CommandList.ofLine line = .ok list ∧ list.pipelines ≠ [] ∧
    (expandList (runLine host) list).run.run w = (.ok expanded, middle)

theorem expands_nonempty (host : Host) (line : Text) (w middle : World) (expanded : CommandList Text)
    (expands : ExpandsTo host line w expanded middle) : ∃ p more, expanded.pipelines = p :: more := by
  obtain ⟨list, parsed, nonempty, ran⟩ := expands
  have same := (expand_list_substitutes (runLine host) line list parsed).yields _ _ _ w middle expanded ran
  refine List.exists_cons_of_ne_nil fun none => nonempty ?_
  rw [none, List.map_nil] at same
  exact List.map_eq_nil_iff.1 same.symm

theorem run_line_expanded (host : Host) (sink : Sink) (line : Text) (w middle : World) (expanded : CommandList Text)
    (expands : ExpandsTo host line w expanded middle) : (runLine host sink line).run.run w =
      (runExpanded host (runLine host) sink line expanded).run.run middle := by
  obtain ⟨list, parsed, nonempty, ran⟩ := expands
  rw [run_line_eq, run_line_phases host _ sink line list parsed nonempty, Run.run_bind_ok _ _ w middle expanded ran]

theorem lookups_agree (host : Host) (line : Text) (w middle : World) (expanded : CommandList Text)
    (expands : ExpandsTo host line w expanded middle) :
    (∀ fs s name found arguments, Command.search fs s name = some found →
      ∃ command, found.instance? arguments = some (command, arguments)) ∧
    ∃ p more, expanded.pipelines = p :: more ∧
      (p.first.Unknown middle →
        ∀ sink, (runLine host sink line).run.run w = (.ok (middle.session.evaluate line), middle)) ∧
      (¬ p.first.Unknown middle → ∀ sink,
        (runLine host sink line).run.run w = (if expanded.background then (.ok {}, middle)
          else (runPipelines host (runLine host) sink {} (p :: more)).run.run middle) ∧
        (∃ stdout, PipelineReached host (runLine host) sink (p :: more) middle
          ⟨p.first, firstSource sink, stdout, middle⟩) ∧
        ∀ words, p.first = .simple words → ∃ name arguments found command, words = name :: arguments ∧
          Command.search middle.files middle.session name = some found ∧
          found.instance? arguments = some (command, arguments) ∧
          ∀ source stdout stderr, (runStage host (runLine host) source stdout stderr p.first).run.run middle =
            let (effect, after) := middle.runFound host name command arguments source stdout
            let (left, last) := after.deliver stdout stderr effect
            (.ok left, last)) ∧
      ∀ sink begun name arguments, PipelineReached host (runLine host) sink (p :: more) middle begun →
        begun.stage = .simple (name :: arguments) →
        Command.search begun.world.files begun.world.session name = none →
        let message := Text.utf8 ("kash: command not found: ".toList ++ name ++ ['\n'])
        (runStage host (runLine host) begun.source begun.stdout sink begun.stage).run.run begun.world =
          match sink with
          | .capture => (.ok { code := 127, errors := message }, begun.world)
          | .console => (.ok { code := 127 },
              { begun.world with console := begun.world.console.writeErrors message }) := by
  refine ⟨fun fs s name found arguments searched => ?_, ?_⟩
  · obtain ⟨command, _, rfl⟩ := Command.search_some fs s name found searched
    exact ⟨command, command.instance_report arguments⟩
  obtain ⟨p, more, shape⟩ := expands_nonempty host line w middle expanded expands
  have ran (sink : Sink) := run_line_expanded host sink line w middle expanded expands
  refine ⟨p, more, shape, fun unknown sink => ?_, fun known sink => ⟨?_, ?_, fun words isWords => ?_⟩, ?_⟩
  · have isUnknown := (is_unknown_iff middle p more).2 unknown
    rw [ran sink, run_expanded_unknown host _ sink line expanded middle (by rw [shape]; exact isUnknown)]
  · have isKnown := mt (is_unknown_iff middle p more).1 known
    rw [ran sink, run_expanded, shape, if_neg isKnown]
  · exact first_reached host (runLine host) sink p more middle
  · rw [isWords] at known ⊢
    obtain ⟨name, arguments, command, rfl, found⟩ := known_simple middle words known
    refine ⟨name, arguments, command.report, command, rfl, congrArg (Option.map Command.report) found,
      command.instance_report arguments, fun source stdout stderr => ?_⟩
    exact run_stage_found host (runLine host) middle name arguments command found source stdout stderr
  · intro sink begun name arguments _ isSimple unfound
    rw [isSimple]
    exact run_stage_unfound host (runLine host) begun.world name arguments unfound begun.source begun.stdout sink

-- The first stage is found; the second has no meaning, and says so.
theorem lookups_agree_piped :
    let w : World := { session := .start Calculator.eval {} ['/'] ['/'], files := {} }
    let expanded : CommandList Text := ⟨[⟨.simple ["echo".toList, ['a']], [.simple [['b']]]⟩], false⟩
    ∀ host, ExpandsTo host "echo a | b".toList w expanded w ∧
      Command.search w.files w.session ['b'] = none ∧
      (runLine host .capture "echo a | b".toList).run.run w =
        (runPipelines host (runLine host) .capture {} expanded.pipelines).run.run w ∧
      (runStage host (runLine host) (.input ⟨Text.utf8 "a\n".toList⟩) .capture .capture (.simple [['b']])).run.run w =
        (.ok { code := 127, errors := Text.utf8 "kash: command not found: b\n".toList }, w) ∧
      (runLine host .capture "echo a | b".toList).run.run w =
        (.ok { code := 127, errors := some "kash: command not found: b\n".toList }, w) := by
  intro w expanded host
  let list : CommandList Word := ⟨[⟨.simple [.bare "echo".toList, .bare ['a']], [.simple [.bare ['b']]]⟩], false⟩
  have wellFormed : list.WellFormed :=
    ⟨by simp [list, Pipeline.WellFormed, Pipeline.stages, Stage.WellFormed], by simp [list]⟩
  have parsed := CommandList.of_line_flatten "echo a | b".toList list wellFormed rfl
  have expands : ExpandsTo host "echo a | b".toList w expanded w := ⟨list, parsed, List.cons_ne_nil _ _, rfl⟩
  have unfound : Command.search w.files w.session ['b'] = none := rfl
  obtain ⟨_, p, more, shape, _, executed, reports⟩ := lookups_agree host _ w w expanded expands
  obtain ⟨rfl, rfl⟩ := List.cons.inj shape
  have known : ¬ (Stage.simple ["echo".toList, ['a']]).Unknown w := by
    rintro ⟨words, same, unresolved⟩
    cases same
    cases unresolved _ rfl
  have reached : PipelineReached host (runLine host) .capture expanded.pipelines w
      ⟨.simple [['b']], .input ⟨Text.utf8 "a\n".toList⟩, .capture, w⟩ :=
    .first _ [] w _ (.later _ _ _ [] w w { writes := [Text.utf8 "a\n".toList] } _ rfl (.last _ _ w))
  have ran := (executed known .capture).1
  exact ⟨expands, unfound, ran, reports .capture _ ['b'] [] reached rfl unfound, ran.trans rfl⟩

end CommandShell
