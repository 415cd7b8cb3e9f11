import CommandShell.Proofs.Calculator.Reading
import CommandShell.Proofs.Execution.Phases
import CommandShell.Proofs.Execution.Resolution
import CommandShell.Proofs.Execution.Subshell
import CommandShell.Proofs.Syntax.Arithmetic
import Mathlib.Logic.Relation

set_option autoImplicit false

namespace CommandShell

open Calculator

theorem arithmetic_no_sign (c : Char) (t : Text) (sign : ¬ IsArithmetic c) (arithmetic : ∀ c ∈ t, IsArithmetic c) :
    c ∉ t := fun member => sign (arithmetic c member)

namespace Word

theorem expand_home_arithmetic (home : Text) (w : Word) (arithmetic : w.Arithmetic) : w.expandHome home = w := by
  have noSign := arithmetic_no_sign '~' w.text (by decide) arithmetic.chars
  have same : (w.text.flatMap fun c => if c = '~' then home else [c]) = w.text := by
    have each (c : Char) (member : c ∈ w.text) : (if c = '~' then home else [c]) = [c] :=
      if_neg fun (sign : c = '~') => noSign (sign ▸ member)
    rw [List.flatMap_congr each, List.flatMap_singleton']
  have unquoted : ¬ w.isQuoted = true := by simp [isQuoted, arithmetic.unquoted]
  rw [expandHome, if_neg unquoted, same]

end Word

def World.names (w : World) : List Text := (w.files.list w.session.directory).toOption.getD []

theorem pattern_unmarked (names : List Text) (words : List Word) (arithmetic : ∀ v ∈ words, v.Arithmetic) :
    ∀ v ∈ words.flatMap (Word.expandPattern names), v.quote = none ∧ v.commands = [] := by
  intro v member
  obtain ⟨u, inWords, member⟩ := List.mem_flatMap.1 member
  rcases u.mem_expand_pattern names v member with rfl | ⟨name, _, rfl⟩
  · exact ⟨(arithmetic v inWords).unquoted, (arithmetic v inWords).noCommand⟩
  · exact ⟨rfl, rfl⟩

theorem expand_no_commands (nested : Nested World) (words : List Word) (none : ∀ v ∈ words, v.commands = []) :
    words.mapM (Word.expandCommands nested) = pure words := by
  have each (v : Word) (member : v ∈ words) : v.expandCommands nested = pure v := by
    rw [Word.expandCommands, none v member]
    rfl
  rw [map_run_congr _ pure words each]
  exact (List.mapM_pure (f := id)).trans (by rw [List.map_id])

theorem expand_command_arithmetic (nested : LineRunner) (words : List Word) (w : World)
    (arithmetic : ∀ v ∈ words, v.Arithmetic) :
    (expandCommand nested words).run.run w = (.ok ((words.flatMap (Word.expandPattern w.names)).map fun v =>
      w.session.bindings.expand v.text), w) := by
  let afterPattern := words.flatMap (Word.expandPattern w.names)
  have unmarked := pattern_unmarked w.names words arithmetic
  have home : words.map (Word.expandHome w.session.home) = words :=
    List.map_congr_left (fun v member => v.expand_home_arithmetic _ (arithmetic v member)) |>.trans (List.map_id' words)
  have commands := expand_no_commands nested.captured afterPattern fun v member => (unmarked v member).2
  have values : (afterPattern.map (Word.expandVariables w.session.bindings)).map Word.text =
      afterPattern.map fun v => w.session.bindings.expand v.text := by
    rw [List.map_map]
    refine List.map_congr_left fun v member => ?_
    simp only [Function.comp, Word.expandVariables, (unmarked v member).1]
  have expanded : (Expansion.expandWords nested.captured words).run.run w =
      (.ok (afterPattern.map (Word.expandVariables w.session.bindings)), w) := by
    refine (Run.run_bind_ok _ _ w w words ?home).trans ((Run.run_bind_ok _ _ w w afterPattern rfl).trans
      ((Run.run_bind_ok _ _ w w afterPattern ?commands).trans rfl))
    case home => exact congrArg (fun words => (Except.ok words, w)) home
    case commands =>
      change (afterPattern.mapM (Word.expandCommands nested.captured)).run.run w = _
      rw [commands]
      rfl
  rw [expandCommand, Run.run_bind_ok _ _ w w _ expanded, ← values]
  rfl

-- With file names in place of the patterns in `line`, an entry of the working directory comes first whose name, its
-- variables expanded, is that of a builtin.
def World.PutsBuiltinFirst (w : World) (line : Text) : Prop :=
  ∃ (words : List Word) (name : Text), scan line = .ok (words.map .word) ∧
    ((words.flatMap (Word.expandPattern w.names)).map Word.text).head? = some name ∧ name ∈ w.names ∧
    ∃ b : Builtin, w.session.bindings.expand name = b.name

theorem builtin_not_arithmetic (b : Builtin) : ∃ c ∈ b.name, ¬ IsArithmetic c :=
  ⟨b.name.headD ' ', by cases b <;> exact List.mem_cons_self, by cases b <;> decide⟩

section Command

variable (host : Host) (sink : Sink) (line : Text) (words : List Word) (w : World)
  (scanned : scan line = .ok (words.map .word)) (arithmetic : ∀ v ∈ words, v.Arithmetic)
  (builtins : ∀ name, Command.find w.files w.session name ≠ none → ∃ b : Builtin, name = b.name)
  (noBuiltin : ¬ w.PutsBuiltinFirst line)

include scanned arithmetic builtins noBuiltin

theorem arithmetic_unresolved : ∀ name ∈ ((words.flatMap (Word.expandPattern w.names)).map fun v =>
    w.session.bindings.expand v.text).head?, Command.find w.files w.session name = none := by
  intro name first
  refine Decidable.byContradiction fun found => ?_
  obtain ⟨b, rfl⟩ := builtins name found
  rw [List.head?_map] at first
  obtain ⟨v, isFirst, value⟩ := Option.map_eq_some_iff.1 first
  obtain ⟨u, inWords, member⟩ := List.mem_flatMap.1 (List.mem_of_mem_head? isFirst)
  rcases u.mem_expand_pattern w.names v member with rfl | ⟨entry, isName, rfl⟩
  · -- the word stands as typed, and a builtin's name has a letter
    have chars := (arithmetic v inWords).chars
    rw [w.session.bindings.expand_no_reference v.text (arithmetic_no_sign '$' v.text (by decide) chars)] at value
    obtain ⟨letter, inName, notArithmetic⟩ := builtin_not_arithmetic b
    rw [← value] at inName
    exact notArithmetic (chars letter inName)
  · refine noBuiltin ⟨words, entry, scanned, ?_, isName, b, value⟩
    rw [List.head?_map, isFirst]
    rfl

theorem run_line_arithmetic_command (parsed : CommandList.ofLine line = .ok ⟨[⟨.simple words, []⟩], false⟩) :
    (runLine host sink line).run.run w = (.ok (w.session.evaluate line), w) := by
  have expanded := expand_list_simple (runLine host) words _ w w (expand_command_arithmetic _ words w arithmetic)
  have unresolved := arithmetic_unresolved line words w scanned arithmetic builtins noBuiltin
  rw [run_line_eq, run_line_phases host _ sink line _ parsed (List.cons_ne_nil _ _),
    Run.run_bind_ok _ _ w w _ expanded]
  exact run_expanded_unknown host _ sink line _ w (is_unknown_simple w _ [] [] unresolved)

end Command

section Answer

variable (s : Session) (t : Text) (e : Expr) (engine : s.engine = Calculator.eval) (derived : Derives .sum e t)
  (plain : e.Plain)

include engine derived

theorem engine_derived : s.engine t = e.denote := by
  rw [engine, eval_of_derives e t derived]

include plain

theorem evaluate_arithmetic :
    (∃ n : Int64, e.denote = .ok (.int n) ∧ s.evaluate t = { output := some (Text.ofInt n.toInt) }) ∨
    ∃ k, (k = .divisionByZero ∨ k = .overflow) ∧ e.denote = .error k ∧
      s.evaluate t = { code := 1, errors := some k.message } := by
  have integer := denote_integer e plain
  rw [Session.evaluate, engine_derived s t e engine derived]
  generalize e.denote = result at integer
  cases integer with
  | value n => exact .inl ⟨n, rfl, rfl⟩
  | divisionByZero => exact .inr ⟨_, .inl rfl, rfl, rfl⟩
  | overflow => exact .inr ⟨_, .inr rfl, rfl, rfl⟩

theorem evaluate_arithmetic_without_empty : (s.evaluate t).withoutEmpty = s.evaluate t := by
  rcases evaluate_arithmetic s t e engine derived plain with ⟨n, _, value⟩ | ⟨k, kinds, _, error⟩
  · have digits : ¬ (Text.ofInt n.toInt).isEmpty = true := by
      cases n.toInt with
      | ofNat m => simp [Text.ofInt, Text.ofNat]
      | negSucc m => simp [Text.ofInt]
    simp [value, Outcome.withoutEmpty, Option.filter_some, digits]
  · rcases kinds with rfl | rfl <;> rw [error] <;> rfl

end Answer

theorem run_line_arithmetic (host : Host) (e : Expr) (t : Text) (w : World) (derived : Derives .sum e t)
    (plain : e.Plain) (engine : w.session.engine = Calculator.eval)
    (builtins : ∀ name, Command.find w.files w.session name ≠ none → ∃ b : Builtin, name = b.name)
    (noBuiltin : ∀ inner, Relation.ReflTransGen NestedIn inner t → ¬ w.PutsBuiltinFirst inner) :
    (runLine host .capture t).run.run w = (.ok (w.session.evaluate t), w) := by
  -- the text in a sub-shell is one of the same expression, but no part of its derivation, so the induction is on length
  induction length : t.length using Nat.strong_induction_on generalizing t with
  | _ n ih =>
      cases parsed : CommandList.ofLine t with
      | error malformed =>
          rw [runLine, runLineWith, parsed]
          rfl
      | ok list =>
          rcases list_of_arithmetic e t derived plain list parsed with
            ⟨words, rfl, scanned, arithmetic⟩ | ⟨body, rfl, inside⟩
          · have clear := noBuiltin t .refl
            exact run_line_arithmetic_command host .capture t words w scanned arithmetic builtins clear parsed
          · have nested : NestedIn body t := ⟨_, parsed, List.mem_singleton.2 rfl⟩
            have shorter := (nested_shorter body t nested).2
            have inner := ih body.length (by omega) body inside
              (fun line within => noBuiltin line (within.tail nested)) rfl
            have same : w.session.evaluate body = w.session.evaluate t := by
              rw [Session.evaluate, Session.evaluate, engine_derived _ body e engine inside,
                engine_derived _ t e engine derived]
            rw [run_line_eq, run_line_with_subshell host _ t body w parsed, inner, same]
            exact congrArg (fun o => (Except.ok o, w))
              (evaluate_arithmetic_without_empty w.session t e engine derived plain)

theorem run_line_blank (host : Host) (sink : Sink) (t : Text) (w : World) (blank : t.isAllBlank = true) :
    (runLine host sink t).run.run w = (.ok {}, w) := by
  have scanned : scan t = .ok [] := (scan_ok_iff t []).2 ⟨.between, [], [], Mode.read_blanks t 0 blank, rfl, rfl⟩
  rw [runLine, runLineWith, CommandList.of_line_blank t scanned]
  rfl

theorem arithmetic_answered (host : Host) (t : Text) (w : World)
    (arithmetic : t.isAllBlank = true ∨ ∃ e, Derives .sum e t ∧ e.Plain) (engine : w.session.engine = Calculator.eval)
    (builtins : ∀ name, Command.find w.files w.session name ≠ none → ∃ b : Builtin, name = b.name)
    (noBuiltin : ∀ line, Relation.ReflTransGen NestedIn line t → ¬ w.PutsBuiltinFirst line) :
    (runLine host .capture t).run.run w = (.ok (w.session.evaluate t), w) ∧
    (t.isAllBlank = true → w.session.evaluate t = {}) ∧
    ∀ e, Derives .sum e t → e.Plain →
      (∃ n : Int64, e.denote = .ok (.int n) ∧ w.session.evaluate t = { output := some (Text.ofInt n.toInt) }) ∨
      ∃ k, (k = .divisionByZero ∨ k = .overflow) ∧ e.denote = .error k ∧
        w.session.evaluate t = { code := 1, errors := some k.message } := by
  have nothing (blank : t.isAllBlank = true) : w.session.evaluate t = {} := by
    rw [Session.evaluate, engine, Calculator.eval, if_pos blank]
    rfl
  refine ⟨?_, nothing, fun e derived plain => evaluate_arithmetic w.session t e engine derived plain⟩
  rcases arithmetic with blank | ⟨e, derived, plain⟩
  · rw [run_line_blank host .capture t w blank, nothing blank]
  · exact run_line_arithmetic host e t w derived plain engine builtins noBuiltin

theorem find_without_files (fs : FileSystem) (s : Session) (name : Text)
    (noFile : ∀ loc content executable, fs.entry? loc ≠ some (.file content executable)) :
    Command.find fs s name = Command.builtin? name := by
  have notFile (path : Text) : fs.isFile path = false := by
    cases opened : fs.open? path with
    | error e => rw [FileSystem.isFile, opened]
    | ok entry =>
        obtain ⟨loc, _, same⟩ := (except_bind_ok_iff _ _ _).1 opened
        cases entry with
        | file content executable =>
            have found : (fs.entry? loc).getD .directory = .file content executable := Except.ok.inj same
            cases entry : fs.entry? loc with
            | none => simp [entry] at found
            | some e =>
                rw [entry] at found
                exact absurd (entry.trans (congrArg some found)) (noFile loc content executable)
        | directory => rw [FileSystem.isFile, opened]
        | link target => rw [FileSystem.isFile, opened]
        | null => rw [FileSystem.isFile, opened]
  have noScript : Command.script? fs s name = none := by
    apply Command.script_none
    intro path isScript
    have file := isScript.2.file
    rw [notFile] at file
    cases file
  have noProgram : Command.program? fs s name = none := by
    cases found : Command.program? fs s name with
    | none => rfl
    | some c =>
        obtain ⟨path, rfl⟩ := Command.program_kind fs s name c found
        have file := ((Command.program_iff fs s name path).1 found).file
        rw [notFile] at file
        cases file
  rw [Command.find, noScript, noProgram, Option.or_none, Option.or_none]

namespace World

def withEcho : World where
  session := .start Calculator.eval (.ofList []) ['/'] ['/']
  files := { entries := [(["echo".toList], .directory)] }

theorem with_echo_builtins (name : Text) (found : Command.find withEcho.files withEcho.session name ≠ none) :
    ∃ b : Builtin, name = b.name := by
  have noFile (loc : Location) (content : Bytes) (executable : Bool) :
      withEcho.files.entry? loc ≠ some (.file content executable) := by
    simp only [withEcho, FileSystem.entry?, List.lookup_cons, List.lookup_nil]
    split
    · simp
    · split <;> simp
  rw [find_without_files _ _ name noFile] at found
  obtain ⟨command, isBuiltin⟩ := Option.ne_none_iff_exists'.1 found
  obtain ⟨b, named, _⟩ := Option.map_eq_some_iff.1 isBuiltin
  exact ⟨b, ((Builtin.of_name_iff name b).1 named).symm⟩

theorem with_echo_names : withEcho.names = ["echo".toList] := rfl

end World

theorem arithmetic_answered_product : ∃ e, Derives .sum e "2 * 3".toList ∧ e.Plain ∧ e.denote = .ok (.int 6) ∧
    World.withEcho.names = ["echo".toList] ∧
    ∀ host, (runLine host .capture "2 * 3".toList).run.run .withEcho =
      (.ok { output := some "6".toList }, .withEcho) := by
  have two := Derives.digit [] [' '] '2' rfl rfl (by decide)
  have three := Derives.digit [' '] [] '3' rfl rfl (by decide)
  have derived := Derives.sumOne _ _ (.productMore .mul _ _ _ _ (.inl rfl) (.productOne _ _ (.signedOne _ _ two))
    (.signedOne _ _ three))
  have plain : (Expr.binary .mul (.number (decimal ['2'])) (.number (decimal ['3']))).Plain := ⟨trivial, trivial⟩
  have six : (Expr.binary .mul (.number (decimal ['2'])) (.number (decimal ['3']))).denote = .ok (.int 6) := by decide
  have noBuiltin (line : Text) (within : Relation.ReflTransGen NestedIn line "2 * 3".toList) :
      ¬ World.withEcho.PutsBuiltinFirst line := by
    let words : List Word := [.bare ['2'], .bare ['*'], .bare ['3']]
    have parsed := CommandList.of_line_one "2 * 3".toList (.simple words) (List.cons_ne_nil _ _) rfl
    rcases Relation.ReflTransGen.cases_tail within with rfl | ⟨inner, _, list, parsed', inside⟩
    · rintro ⟨words', name, scanned, first, isName, _⟩
      have tokens : words.map Token.word = words'.map Token.word := Except.ok.inj scanned
      obtain rfl := List.map_injective_iff.2 (fun _ _ => Token.word.inj) tokens
      rw [World.with_echo_names] at first isName
      obtain rfl := List.mem_singleton.1 isName
      cases first
    · cases Except.ok.inj (parsed.symm.trans parsed')
      cases inside
  refine ⟨_, derived, plain, six, World.with_echo_names, fun host => ?_⟩
  obtain ⟨ran, _, answers⟩ := arithmetic_answered host _ .withEcho (.inr ⟨_, derived, plain⟩) rfl
    World.with_echo_builtins noBuiltin
  rcases answers _ derived plain with ⟨n, value, answer⟩ | ⟨k, _, fails, _⟩
  · obtain rfl : 6 = n := Value.int.inj (Except.ok.inj (six.symm.trans value))
    exact ran.trans (by rw [answer]; rfl)
  · cases six.symm.trans fails

-- A pattern that matches nothing goes away, and the next one is the name of a directory, which is a builtin's.
theorem pattern_runs_builtin : ∃ e, Derives .sum e "2*3 * 4".toList ∧ e.Plain ∧ e.denote = .ok (.int 24) ∧
    World.withEcho.session.engine = Calculator.eval ∧
    (∀ name, Command.find World.withEcho.files World.withEcho.session name ≠
      none → ∃ b : Builtin, name = b.name) ∧
    ∀ host, (runLine host .capture "2*3 * 4".toList).run.run .withEcho =
        (.ok { output := some "4\n".toList }, .withEcho) ∧
      (runLine host .capture "2*3 * 4".toList).run.run .withEcho ≠
        (.ok (World.withEcho.session.evaluate "2*3 * 4".toList),
          .withEcho) := by
  have two := Derives.digit [] [] '2' rfl rfl (by decide)
  have three := Derives.digit [] [' '] '3' rfl rfl (by decide)
  have four := Derives.digit [' '] [] '4' rfl rfl (by decide)
  have front := Derives.productMore .mul _ _ _ _ (.inl rfl) (.productOne _ _ (.signedOne _ _ two))
    (.signedOne _ _ three)
  have derived := Derives.sumOne _ _ (.productMore .mul _ _ _ _ (.inl rfl) front (.signedOne _ _ four))
  have value : (Expr.binary .mul (.binary .mul (.number (decimal ['2'])) (.number (decimal ['3'])))
      (.number (decimal ['4']))).denote = .ok (.int 24) := by decide
  let words : List Word := [.bare "2*3".toList, .bare ['*'], .bare ['4']]
  have parsed := CommandList.of_line_one "2*3 * 4".toList (.simple words) (List.cons_ne_nil _ _) rfl
  have plain : (Expr.binary .mul (.binary .mul (.number (decimal ['2'])) (.number (decimal ['3'])))
      (.number (decimal ['4']))).Plain := ⟨⟨trivial, trivial⟩, trivial⟩
  have arithmetic : ∀ v ∈ words, v.Arithmetic := by
    rcases list_of_arithmetic _ _ derived plain _ parsed with ⟨same, listEq, _, each⟩ | ⟨body, listEq, _⟩
    · cases listEq
      exact each
    · cases listEq
  refine ⟨_, derived, plain, value, rfl, World.with_echo_builtins, fun host => ?_⟩
  have runs : (runLine host .capture "2*3 * 4".toList).run.run .withEcho =
      (.ok { output := some "4\n".toList }, .withEcho) := by
    have expanded := expand_list_simple (runLine host) words _ _ _ (expand_command_arithmetic _ words
      .withEcho arithmetic)
    rw [World.with_echo_names] at expanded
    rw [run_line_eq, run_line_phases host _ .capture _ _ parsed (List.cons_ne_nil _ _),
      Run.run_bind_ok _ _ _ _ _ expanded]
    rfl
  refine ⟨runs, fun answered => ?_⟩
  have answer : World.withEcho.session.evaluate "2*3 * 4".toList =
      { output := some "24".toList } := by
    have answered : World.withEcho.session.engine "2*3 * 4".toList = .ok (.int 24) :=
      (engine_derived _ _ _ rfl derived).trans value
    rw [Session.evaluate, answered]
    rfl
  rw [runs, answer] at answered
  cases answered

end CommandShell
