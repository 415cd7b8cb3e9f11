import CommandShell.Proofs.Builtin.Failures
import CommandShell.Proofs.Execution.Calls
import CommandShell.Proofs.Execution.Pipes

set_option autoImplicit false

namespace CommandShell

structure Effect.IsText (e : Effect) : Prop where
  output : Bytes.IsText e.output
  errors : Bytes.IsText e.errors

theorem Effect.complain_text (code : Int) (message : Text) : (Effect.complain code message).IsText :=
  ⟨.nil, .utf8 _⟩

theorem Outcome.effect_text (o : Outcome) : o.effect.IsText :=
  ⟨⟨_, o.effect_output⟩, .utf8 _⟩

def FileSystem.contents (fs : FileSystem) (directory : Text) : List Text → List Bytes
  | [] => []
  | name :: rest =>
    match fs.open? (Path.join directory name) >>= Entry.read with
    | .ok content => content :: fs.contents directory rest
    | .error _ => []

namespace Builtin

def contents (fs : FileSystem) (s : Session) (b : Builtin) (arguments : List Text) : List Bytes :=
  match b.signature.parse arguments with
  | .ok (.run a) => if b = cat ∨ b = wc then fs.contents s.directory a.values else []
  | _ => []

theorem assign_all_writes (s : Session) (arguments : List Text) : (assignAll s arguments).writes = [] := by
  induction arguments generalizing s with
  | nil => rfl
  | cons argument rest ih =>
      rw [assignAll]
      cases assignment? argument with
      | none => rfl
      | some pair => exact ih _

theorem over_files_text (fs : FileSystem) (s : Session) (write : Text → Bytes → Except BuiltinError (List Bytes))
    (names : List Text) (each : ∀ name, ∀ content ∈ fs.contents s.directory names, ∀ writes,
      write name content = .ok writes → Bytes.IsText writes.flatten) :
    Bytes.IsText (overFiles fs s write names).1.flatten := by
  induction names with
  | nil => exact .nil
  | cons name rest ih =>
      rcases over_files_cons fs s write name rest with ⟨writes, ⟨content, found, wrote⟩, goesOn⟩ | ⟨_, e, stops⟩
      · rw [FileSystem.contents, found] at each
        have first := each name content List.mem_cons_self writes wrote
        have others := ih fun name content member => each name content (List.mem_cons_of_mem _ member)
        rw [goesOn, List.flatten_append]
        exact first.append _ _ others
      · rw [stops]
        exact .nil

theorem print_line_text (s : Session) (text : Text) : Bytes.IsText (printLine s text).writes.flatten := by
  simpa [printLine] using Bytes.IsText.utf8 (text ++ ['\n'])

theorem perform_text (fs : FileSystem) (b : Builtin) (a : Arguments) (input : List Bytes) (s : Session)
    (given : Bytes.IsText input.flatten)
    (files : b = cat ∨ b = wc → ∀ content ∈ fs.contents s.directory a.values, Bytes.IsText content) :
    Bytes.IsText (b.perform fs a input s).writes.flatten := by
  cases b with
  | echo => exact ⟨_, List.append_nil _⟩
  | pwd => exact print_line_text s _
  | dirs => exact print_line_text s _
  | cd =>
      rw [perform]
      cases targetDirectory fs s a.values <;> exact .nil
  | pushd =>
      rw [perform]
      cases targetDirectory fs s a.values with
      | error e => exact .nil
      | ok directory => exact print_line_text _ _
  | popd =>
      rw [perform]
      cases s.directories.pop? with
      | none => exact .nil
      | some pair => exact print_line_text _ _
  | exportVariables =>
      rw [perform]
      by_cases none : a.values.isEmpty = true
      · rw [if_pos none]
        exact ⟨_, List.append_nil _⟩
      · rw [if_neg none, assign_all_writes]
        exact .nil
  | unsetVariables => exact .nil
  | prompt => exact .nil
  | cat =>
      rw [perform]
      by_cases none : a.values.isEmpty = true
      · rw [if_pos none]
        exact given
      · rw [if_neg none]
        refine over_files_text fs s _ a.values fun name content member writes wrote => ?_
        cases wrote
        rw [pieces_flatten]
        exact files (.inl rfl) content member
  | wc =>
      rw [perform]
      by_cases none : a.values.isEmpty = true
      · rw [if_pos none]
        cases decode input.flatten with
        | error e => exact .nil
        | ok text => exact print_line_text _ _
      · rw [if_neg none]
        refine over_files_text fs s _ a.values fun name content member writes wrote => ?_
        obtain ⟨text, _, same⟩ := (except_bind_ok_iff _ _ _).1 wrote
        cases same
        exact ⟨_, List.append_nil _⟩
  | exit => exact .nil

theorem run_text (fs : FileSystem) (b : Builtin) (arguments : List Text) (input : List Bytes) (s : Session)
    (given : Bytes.IsText input.flatten) (files : ∀ content ∈ b.contents fs s arguments, Bytes.IsText content) :
    (b.run fs arguments input s).1.IsText := by
  rw [contents] at files
  rw [run, parse]
  cases parsed : b.signature.parse arguments with
  | error e => exact ⟨.nil, .utf8 _⟩
  | ok request =>
      rw [parsed] at files
      cases request with
      | help => exact ⟨⟨_, List.append_nil _⟩, .nil⟩
      | run a =>
          have written := perform_text fs b a input s given fun reads content member =>
            files content (by simpa [reads] using member)
          change ((b.perform fs a input s).effect b).IsText
          rw [Report.effect]
          cases (b.perform fs a input s).ending with
          | error e => exact ⟨written, .utf8 _⟩
          | ok code => exact ⟨written, .nil⟩

end Builtin

def Call.contents (c : Call) : List Bytes :=
  match c.words with
  | [] => []
  | name :: arguments =>
    match Command.find c.world.files c.world.session name with
    | some (.builtin b) => b.contents c.world.files c.world.session arguments
    | some (.script path) => (c.world.files.open? path >>= Entry.read).toOption.toList
    | some (.program _) => []
    | none => []

-- A command that starts no program and reads no file but texts.
structure Call.Plain (c : Call) : Prop where
  own : ∀ name ∈ c.words.head?, ∀ path, Command.find c.world.files c.world.session name ≠ some (.program path)
  texts : ∀ content ∈ c.contents, Bytes.IsText content

theorem run_script_text (s : Session) (fs : FileSystem) (path : Text) (effect : Effect)
    (ran : s.runScript fs path = .ok effect) : effect.IsText := by
  obtain ⟨text, _, evaluated⟩ := (except_bind_ok_iff _ _ _).1 ran
  cases answer : s.engine text with
  | error e =>
      rw [answer] at evaluated
      cases evaluated
      exact Effect.complain_text _ _
  | ok v =>
      rw [answer] at evaluated
      cases evaluated
      refine ⟨?_, .nil⟩
      cases v.output? with
      | none => exact .nil
      | some text => exact ⟨_, List.append_nil _⟩

theorem run_named_text (host : Host) (w : World) (name : Text) (arguments : List Text) (i : Input)
    (given : Bytes.IsText i.unread) (plain : Call.Plain ⟨name :: arguments, w⟩) :
    (w.runNamed host name arguments (.input i) .capture).1.IsText := by
  obtain ⟨own, texts⟩ := plain
  rw [World.runNamed]
  cases found : Command.find w.files w.session name with
  | none => exact Effect.complain_text _ _
  | some command =>
      simp only [Call.contents, found] at texts
      cases command with
      | builtin b =>
          refine b.run_text w.files arguments _ w.session ?_ texts
          cases b.consumesInput arguments with
          | true => exact (pieces_flatten i.unread).symm ▸ given
          | false => exact .nil
      | script path =>
          cases ran : w.session.runScript w.files path with
          | error e =>
              simp only [World.runCommand, ran, Except.mapError, bind, Except.bind]
              exact Effect.complain_text _ _
          | ok effect =>
              simp only [World.runCommand, ran, Except.mapError, bind, Except.bind]
              exact run_script_text w.session w.files path effect ran
      | program path => exact absurd found (own name rfl path)

end CommandShell
