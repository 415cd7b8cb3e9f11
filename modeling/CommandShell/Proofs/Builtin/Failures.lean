import CommandShell.Proofs.Execution.Pipes
import CommandShell.Proofs.Execution.Sessions
import CommandShell.Proofs.Text.Decoding
import Mathlib.Data.List.TakeDrop
import Mathlib.Data.List.TakeWhile

set_option autoImplicit false

namespace CommandShell

namespace Builtin

structure Assigns (argument name value : Text) : Prop where
  written : argument = name ++ '=' :: value
  named : name ≠ []
  first : '=' ∉ name

def Unassigning (argument : Text) : Prop := '=' ∉ argument ∨ argument.head? = some '='

theorem span_sign (argument : Text) :
    ∃ front back, argument.span (· ≠ '=') = (front, back) ∧ argument = front ++ back ∧ '=' ∉ front ∧
      ∀ c rest, back = c :: rest → c = '=' := by
  refine ⟨_, _, List.span_eq_takeWhile_dropWhile _ _, List.takeWhile_append_dropWhile.symm, ?_, ?_⟩
  · intro member
    simpa using List.mem_takeWhile_imp member
  · intro c rest shape
    have stops := List.head?_dropWhile_not (· ≠ '=') argument
    rw [shape] at stops
    simpa using stops

theorem assignment_cases (argument : Text) :
    (∃ name value, assignment? argument = some (name, value) ∧ Assigns argument name value) ∨
      assignment? argument = none ∧ Unassigning argument := by
  obtain ⟨front, back, cut, whole, apart, sign⟩ := span_sign argument
  rw [assignment?, cut]
  cases back with
  | nil =>
      rw [List.append_nil] at whole
      refine .inr ⟨?_, .inl (whole ▸ apart)⟩
      cases front <;> rfl
  | cons c value =>
      have equals := sign c value rfl
      cases front with
      | nil => exact .inr ⟨rfl, .inr (by rw [whole, equals]; rfl)⟩
      | cons d front => exact .inl ⟨_, _, rfl, by rw [whole, equals], List.cons_ne_nil _ _, apart⟩

def assigned (vars : Variables) (pairs : List (Text × Text)) : Variables :=
  pairs.foldl (fun vars pair => vars.insert pair.1 pair.2) vars

theorem get?_assigned (vars : Variables) (pairs : List (Text × Text)) (name : Text) :
    (assigned vars pairs).get? name = (pairs.reverse.lookup name).or (vars.get? name) := by
  induction pairs generalizing vars with
  | nil => rfl
  | cons pair rest ih =>
      have first : assigned vars (pair :: rest) = assigned (vars.insert pair.1 pair.2) rest := rfl
      have last : [pair].lookup name = if name = pair.1 then some pair.2 else none :=
        Variables.lookup_entry pair.1 pair.2 name []
      rw [first, ih, Variables.get?_insert, List.reverse_cons, List.lookup_append, Option.or_assoc, last]
      by_cases same : name = pair.1
      · rw [if_pos same, if_pos same, Option.some_or]
      · rw [if_neg same, if_neg same, Option.none_or]

theorem assign_all_error (s : Session) (arguments : List Text) (e : BuiltinError)
    (failed : (assignAll s arguments).ending = .error e) :
    ∃ before fault after pairs, arguments = before ++ fault :: after ∧ Unassigning fault ∧
      List.Forall₂ (fun argument (pair : Text × Text) => Assigns argument pair.1 pair.2) before pairs ∧
      (assignAll s arguments).session = { s with bindings := assigned s.bindings pairs } := by
  induction arguments generalizing s with
  | nil => cases failed
  | cons argument rest ih =>
      rw [assignAll] at failed ⊢
      rcases assignment_cases argument with ⟨name, value, read, assigns⟩ | ⟨unread, fault⟩
      · rw [read] at failed ⊢
        obtain ⟨before, fault, after, pairs, split, unassigning, each, left⟩ :=
          ih { s with bindings := s.bindings.insert name value } failed
        exact ⟨argument :: before, fault, after, (name, value) :: pairs, congrArg (argument :: ·) split, unassigning,
          .cons assigns each, left⟩
      · rw [unread]
        exact ⟨[], argument, rest, [], rfl, fault, .nil, rfl⟩

section Files

variable (fs : FileSystem) (s : Session) (write : Text → Bytes → Except BuiltinError (List Bytes))

def Writes (name : Text) (writes : List Bytes) : Prop :=
  ∃ content, fs.open? (Path.join s.directory name) >>= Entry.read = .ok content ∧ write name content = .ok writes

theorem over_files_cons (name : Text) (rest : List Text) :
    (∃ writes, Writes fs s write name writes ∧ overFiles fs s write (name :: rest) =
      (writes ++ (overFiles fs s write rest).1, (overFiles fs s write rest).2)) ∨
    ((∀ writes, ¬ Writes fs s write name writes) ∧ ∃ e, overFiles fs s write (name :: rest) = ([], .error e)) := by
  rw [overFiles]
  cases opened : fs.open? (Path.join s.directory name) with
  | error cause =>
      refine .inr ⟨?_, .opening name cause, rfl⟩
      rintro writes ⟨content, found, _⟩
      rw [opened] at found
      cases found
  | ok entry =>
      cases got : entry.read with
      | error cause =>
          refine .inr ⟨?_, .reading cause, by simp [Except.mapError, bind, Except.bind, got]⟩
          rintro writes ⟨content, found, _⟩
          rw [opened] at found
          cases got.symm.trans found
      | ok content =>
          have found : fs.open? (Path.join s.directory name) >>= Entry.read = .ok content := by rw [opened]; exact got
          cases wrote : write name content with
          | error e =>
              refine .inr ⟨?_, e, by simp [Except.mapError, bind, Except.bind, got, wrote]⟩
              rintro writes ⟨content', found', wrote'⟩
              cases found.symm.trans found'
              cases wrote.symm.trans wrote'
          | ok writes =>
              exact .inl ⟨writes, ⟨content, found, wrote⟩, by simp [Except.mapError, bind, Except.bind, got, wrote]⟩

theorem over_files_ending (names : List Text) :
    (∃ e, (overFiles fs s write names).2 = .error e) ∨ (overFiles fs s write names).2 = .ok 0 := by
  induction names with
  | nil => exact .inr rfl
  | cons name rest ih =>
      rcases over_files_cons fs s write name rest with ⟨writes, _, goesOn⟩ | ⟨_, e, stops⟩
      · rw [goesOn]
        exact ih
      · rw [stops]
        exact .inl ⟨e, rfl⟩

theorem over_files_error (names : List Text) (e : BuiltinError) (failed : (overFiles fs s write names).2 = .error e) :
    ∃ before name after written, names = before ++ name :: after ∧ List.Forall₂ (Writes fs s write) before written ∧
      (∀ writes, ¬ Writes fs s write name writes) ∧ (overFiles fs s write names).1 = written.flatten := by
  induction names with
  | nil => cases failed
  | cons name rest ih =>
      rcases over_files_cons fs s write name rest with ⟨writes, first, goesOn⟩ | ⟨nothing, _, stops⟩
      · rw [goesOn] at failed ⊢
        obtain ⟨before, last, after, written, split, each, nothing, whole⟩ := ih failed
        exact ⟨name :: before, last, after, writes :: written, congrArg (name :: ·) split, .cons first each, nothing,
          congrArg (writes ++ ·) whole⟩
      · rw [stops]
        exact ⟨[], name, rest, [], rfl, .nil, nothing, rfl⟩

def fileWrites : Builtin → Text → Bytes → Except BuiltinError (List Bytes)
  | wc, name, content => do
    let counts := Counts.ofText (← decode content)
    return [Text.utf8 (counts.text ++ ' ' :: name ++ ['\n'])]
  | _, _, content => .ok content.pieces

theorem perform_files (b : Builtin) (reads : b = cat ∨ b = wc) (a : Arguments) (input : List Bytes)
    (given : a.values ≠ []) :
    b.perform fs a input s =
      { writes := (overFiles fs s b.fileWrites a.values).1, ending := (overFiles fs s b.fileWrites a.values).2,
        session := s } := by
  have some : ¬ a.values.isEmpty = true := by simpa using given
  rcases reads with rfl | rfl
  · rw [perform, if_neg some]
    rfl
  · rw [perform, if_neg some]
    rfl

inductive Prints : Builtin → Text → Bytes → Prop where
  | content (file : Text) (content : Bytes)
      (read : fs.open? (Path.join s.directory file) >>= Entry.read = .ok content) : Prints cat file content
  | counts (file : Text) (content : Bytes) (text : Text)
      (read : fs.open? (Path.join s.directory file) >>= Entry.read = .ok content)
      (decoded : Bytes.text? content = some text) :
      Prints wc file (Text.utf8 ((Counts.ofText text).text ++ ' ' :: file ++ ['\n']))

theorem prints_iff (b : Builtin) (reads : b = cat ∨ b = wc) (file : Text) (output : Bytes) :
    Prints fs s b file output ↔ ∃ writes, Writes fs s b.fileWrites file writes ∧ writes.flatten = output := by
  rcases reads with rfl | rfl
  · constructor
    · intro prints
      cases prints with
      | content _ _ read => exact ⟨output.pieces, ⟨output, read, rfl⟩, pieces_flatten output⟩
    · rintro ⟨writes, ⟨content, read, wrote⟩, rfl⟩
      obtain rfl := Except.ok.inj wrote
      rw [pieces_flatten]
      exact .content file content read
  · constructor
    · intro prints
      cases prints with
      | counts _ content text read decoded =>
          refine ⟨[_], ⟨content, read, ?_⟩, List.flatten_singleton⟩
          rw [fileWrites, decode, decoded]
          rfl
    · rintro ⟨writes, ⟨content, read, wrote⟩, rfl⟩
      rw [fileWrites, decode] at wrote
      cases decoded : Bytes.text? content with
      | none =>
          rw [decoded] at wrote
          cases wrote
      | some text =>
          rw [decoded] at wrote
          obtain rfl := Except.ok.inj wrote
          rw [List.flatten_singleton]
          exact .counts file content text read decoded

end Files

section Perform

variable (fs : FileSystem) (b : Builtin) (a : Arguments) (input : List Bytes) (s : Session)

-- A body fails in the session it was given, or succeeds with code 0; except for `export`, which has done part of its
-- work when it fails, and `exit`, which has a code of its own.
theorem perform_cases (ordinary : b ≠ exportVariables) (stays : b ≠ exit) :
    (∃ e, (b.perform fs a input s).ending = .error e ∧ (b.perform fs a input s).session = s) ∨
      (b.perform fs a input s).ending = .ok 0 := by
  cases b with
  | echo => exact .inr rfl
  | pwd => exact .inr rfl
  | dirs => exact .inr rfl
  | unsetVariables => exact .inr rfl
  | prompt => exact .inr rfl
  | exportVariables => exact absurd rfl ordinary
  | exit => exact absurd rfl stays
  | cd =>
      rw [perform]
      cases targetDirectory fs s a.values with
      | error e => exact .inl ⟨e, rfl, rfl⟩
      | ok directory => exact .inr rfl
  | pushd =>
      rw [perform]
      cases targetDirectory fs s a.values with
      | error e => exact .inl ⟨e, rfl, rfl⟩
      | ok directory => exact .inr rfl
  | popd =>
      rw [perform]
      cases s.directories.pop? with
      | none => exact .inl ⟨.stackEmpty, rfl, rfl⟩
      | some pair => exact .inr rfl
  | cat =>
      by_cases none : a.values = []
      · simp [perform, none]
      · rw [perform_files fs s cat (.inl rfl) a input none]
        rcases over_files_ending fs s cat.fileWrites a.values with ⟨e, failed⟩ | done
        · exact .inl ⟨e, failed, rfl⟩
        · exact .inr done
  | wc =>
      by_cases none : a.values = []
      · rw [perform, none]
        cases decode input.flatten with
        | error e => exact .inl ⟨e, rfl, rfl⟩
        | ok text => exact .inr rfl
      · rw [perform_files fs s wc (.inr rfl) a input none]
        rcases over_files_ending fs s wc.fileWrites a.values with ⟨e, failed⟩ | done
        · exact .inl ⟨e, failed, rfl⟩
        · exact .inr done

theorem perform_error (e : BuiltinError) (ordinary : b ≠ exportVariables)
    (failed : (b.perform fs a input s).ending = .error e) : (b.perform fs a input s).session = s := by
  by_cases stays : b = exit
  · subst stays
    cases failed
  · rcases perform_cases fs b a input s ordinary stays with ⟨_, _, same⟩ | done
    · exact same
    · rw [done] at failed
      cases failed

theorem export_error (e : BuiltinError) (failed : (exportVariables.perform fs a input s).ending = .error e) :
    (exportVariables.perform fs a input s).session = (assignAll s a.values).session ∧
      (assignAll s a.values).ending = .error e := by
  rw [perform] at failed ⊢
  split at failed
  · cases failed
  · next given =>
    rw [if_neg given]
    exact ⟨rfl, failed⟩

theorem export_session :
    ∃ bindings, (exportVariables.perform fs a input s).session = { s with bindings } := by
  rw [perform]
  split
  · exact ⟨s.bindings, rfl⟩
  · exact assign_all_keeps s a.values

theorem perform_directories
    (changed : (b.perform fs a input s).session.directories ≠ s.directories) :
    (b.perform fs a input s).ending = .ok 0 := by
  by_cases ordinary : b = exportVariables
  · subst ordinary
    obtain ⟨bindings, only⟩ := export_session fs a input s
    rw [only] at changed
    exact absurd rfl changed
  · by_cases stays : b = exit
    · subst stays
      exact absurd rfl changed
    · rcases perform_cases fs b a input s ordinary stays with ⟨e, failed, same⟩ | done
      · rw [same] at changed
        exact absurd rfl changed
      · exact done

theorem perform_exiting (e : BuiltinError) (failed : (b.perform fs a input s).ending = .error e) :
    (b.perform fs a input s).session.exiting = s.exiting := by
  by_cases ordinary : b = exportVariables
  · subst ordinary
    obtain ⟨bindings, only⟩ := export_session fs a input s
    rw [only]
  · rw [perform_error fs b a input s e ordinary failed]

end Perform

theorem effect_ok (b : Builtin) (r : Report) (code : Int) (done : r.ending = .ok code) :
    r.effect b = { code, writes := r.writes } := by
  rw [Report.effect, done]

theorem effect_error (b : Builtin) (r : Report) (e : BuiltinError) (failed : r.ending = .error e) :
    r.effect b = { Effect.complain 1 (b.name ++ ": ".toList ++ e.message) with writes := r.writes } := by
  rw [Report.effect, failed]

theorem effect_output (b : Builtin) (r : Report) : (r.effect b).output = r.writes.flatten := by
  rw [Report.effect]
  split <;> rfl

theorem notice_nonempty (text : Text) : notice text ≠ [] := by
  intro nothing
  have empty := (Text.utf8_eq_nil_iff (Text.trimEnd text ++ ['\n'])).1 nothing
  simp at empty

theorem errors_iff (b : Builtin) (r : Report) : (r.effect b).errors ≠ [] ↔ ∃ e, r.ending = .error e := by
  constructor
  · intro reported
    cases ended : r.ending with
    | error e => exact ⟨e, rfl⟩
    | ok code =>
        rw [effect_ok b r code ended] at reported
        exact absurd rfl reported
  · rintro ⟨e, failed⟩ nothing
    rw [effect_error b r e failed] at nothing
    have empty := (Text.utf8_eq_nil_iff (b.name ++ ": ".toList ++ e.message ++ ['\n'])).1 nothing
    simp at empty

section Answer

variable (fs : FileSystem) (b : Builtin) (input : List Bytes) (s : Session)

theorem answer_early (early : EarlyExit) : b.answer fs (.error early) input s = (early.effect, s) := rfl

theorem answer_parsed (a : Arguments) : b.answer fs (.ok a) input s =
    ((b.perform fs a input s).effect b, (b.perform fs a input s).session) := rfl

theorem run_parsed (arguments : List Text) (a : Arguments) (parsed : b.signature.parse arguments = .ok (.run a)) :
    b.run fs arguments input s = ((b.perform fs a input s).effect b, (b.perform fs a input s).session) := by
  rw [run, parse, parsed]
  rfl

theorem parsed_of_changed (parsed : Except EarlyExit Arguments) (changed : (b.answer fs parsed input s).2 ≠ s) :
    ∃ a, parsed = .ok a := by
  cases parsed with
  | error early => exact absurd rfl changed
  | ok a => exact ⟨a, rfl⟩

end Answer

-- The command has printed what it prints for each file before the first that it can print nothing for.
def PrintedUpTo (fs : FileSystem) (b : Builtin) (s : Session) (files : List Text) (effect : Effect) : Prop :=
  ∃ before file after outputs, files = before ++ file :: after ∧ List.Forall₂ (Prints fs s b) before outputs ∧
    (∀ output, ¬ Prints fs s b file output) ∧ effect.output = outputs.flatten

-- The session has changed by the assignments before the first argument that is none.
def AssignedUpTo (s last : Session) (arguments : List Text) : Prop :=
  ∃ before fault after pairs, arguments = before ++ fault :: after ∧ Unassigning fault ∧
    List.Forall₂ (fun argument (pair : Text × Text) => Assigns argument pair.1 pair.2) before pairs ∧
    last = { s with bindings := last.bindings } ∧
    ∀ name, last.bindings.get? name = (pairs.reverse.lookup name).or (s.bindings.get? name)

theorem assigned_up_to (s : Session) (arguments : List Text) (e : BuiltinError)
    (failed : (assignAll s arguments).ending = .error e) :
    AssignedUpTo s (assignAll s arguments).session arguments := by
  obtain ⟨before, fault, after, pairs, split, unassigning, each, left⟩ := assign_all_error s arguments e failed
  rw [left]
  exact ⟨before, fault, after, pairs, split, unassigning, each, rfl, get?_assigned s.bindings pairs⟩

theorem printed_up_to (fs : FileSystem) (b : Builtin) (a : Arguments) (input : List Bytes) (s : Session)
    (reads : b = cat ∨ b = wc) (given : a.values ≠ []) (e : BuiltinError)
    (failed : (b.perform fs a input s).ending = .error e) :
    PrintedUpTo fs b s a.values ((b.perform fs a input s).effect b) := by
  rw [perform_files fs s b reads a input given] at failed ⊢
  obtain ⟨before, file, after, written, split, each, nothing, whole⟩ :=
    over_files_error fs s b.fileWrites a.values e failed
  refine ⟨before, file, after, written.map List.flatten, split, ?_, ?_, ?_⟩
  · apply List.forall₂_map_right_iff.2
    apply each.imp
    intro f writes wrote
    exact (prints_iff fs s b reads f writes.flatten).2 ⟨writes, wrote, rfl⟩
  · intro output prints
    obtain ⟨writes, wrote, _⟩ := (prints_iff fs s b reads file output).1 prints
    exact nothing writes wrote
  · rw [effect_output, whole, List.flatten_flatten]

section Failing

variable (fs : FileSystem) (b : Builtin) (input : List Bytes) (s : Session)

theorem reported_iff (a : Arguments) :
    (b.answer fs (.ok a) input s).1.errors ≠ [] ↔ ∃ e, (b.perform fs a input s).ending = .error e := by
  rw [answer_parsed]
  exact errors_iff b (b.perform fs a input s)

theorem kept_of_reported (a : Arguments) (reported : (b.answer fs (.ok a) input s).1.errors ≠ []) :
    (b.answer fs (.ok a) input s).1.code = 1 ∧
      (b ≠ exportVariables → (b.answer fs (.ok a) input s).2 = s) ∧
      (b = exportVariables → AssignedUpTo s (b.answer fs (.ok a) input s).2 a.values) ∧
      (b = cat ∨ b = wc → a.values ≠ [] →
        PrintedUpTo fs b s a.values (b.answer fs (.ok a) input s).1) := by
  obtain ⟨e, failed⟩ := (reported_iff fs b input s a).1 reported
  rw [answer_parsed]
  refine ⟨?_, ?_, ?_, ?_⟩
  · rw [effect_error b _ e failed]
    rfl
  · intro ordinary
    exact perform_error fs b a input s e ordinary failed
  · intro isExport
    subst isExport
    obtain ⟨left, stopped⟩ := export_error fs a input s e failed
    simp only [left]
    exact assigned_up_to s a.values e stopped
  · intro reads given
    exact printed_up_to fs b a input s reads given e failed

theorem success_of_directories (parsed : Except EarlyExit Arguments)
    (changed : (b.answer fs parsed input s).2.directories ≠ s.directories) :
    (b.answer fs parsed input s).1.code = 0 ∧ (b.answer fs parsed input s).1.errors = [] := by
  obtain ⟨a, rfl⟩ := parsed_of_changed fs b input s parsed fun same => changed (congrArg Session.directories same)
  rw [answer_parsed] at changed ⊢
  rw [effect_ok b _ 0 (perform_directories fs b a input s changed)]
  exact ⟨rfl, rfl⟩

theorem success_of_exiting (parsed : Except EarlyExit Arguments)
    (changed : (b.answer fs parsed input s).2.exiting ≠ s.exiting) : (b.answer fs parsed input s).1.errors = [] := by
  obtain ⟨a, rfl⟩ := parsed_of_changed fs b input s parsed fun same => changed (congrArg Session.exiting same)
  by_contra reported
  obtain ⟨e, failed⟩ := (reported_iff fs b input s a).1 reported
  exact changed (perform_exiting fs b a input s e failed)

end Failing

theorem failing_builtin_keeps_session (fs : FileSystem) (b : Builtin) (parsed : Except EarlyExit Arguments) (input : List Bytes)
    (s : Session) :
    let done := b.answer fs parsed input s
    (∀ arguments, parsed = b.parse arguments → b.run fs arguments input s = done) ∧
    (∀ early, parsed = .error early → early.isError = true → done.1.code = 1 ∧ done.1.errors ≠ [] ∧ done.2 = s) ∧
    (∀ early, parsed = .error early → early.isError = false → done.1.errors = [] ∧ done.2 = s) ∧
    (∀ a, parsed = .ok a → (done.1.errors ≠ [] ↔ ∃ e, (b.perform fs a input s).ending = .error e)) ∧
    (∀ a, parsed = .ok a → done.1.errors ≠ [] → done.1.code = 1 ∧
      (b ≠ exportVariables → done.2 = s) ∧
      (b = exportVariables → AssignedUpTo s done.2 a.values) ∧
      (b = cat ∨ b = wc → a.values ≠ [] → PrintedUpTo fs b s a.values done.1)) ∧
    (done.2.directories ≠ s.directories → done.1.code = 0 ∧ done.1.errors = []) ∧
    (done.2.exiting ≠ s.exiting → done.1.errors = []) := by
  refine ⟨?_, ?_, ?_, ?_, ?_, success_of_directories fs b input s parsed, success_of_exiting fs b input s parsed⟩
  · intro arguments answered
    rw [run, ← answered]
  · intro early answered refused
    rw [answered, answer_early, EarlyExit.effect, if_pos refused]
    exact ⟨rfl, notice_nonempty early.output, rfl⟩
  · intro early answered helped
    rw [answered, answer_early, EarlyExit.effect, if_neg (by simp [helped])]
    exact ⟨rfl, rfl⟩
  · intro a answered
    rw [answered]
    exact reported_iff fs b input s a
  · intro a answered
    rw [answered]
    exact kept_of_reported fs b input s a

theorem failing_builtin_keeps_session_partial :
    let fs : FileSystem := { entries := [(["a".toList], .file (Text.utf8 "x".toList) false), (["d".toList], .directory)] }
    let s := Session.start Calculator.eval {} "/".toList "/".toList
    let assignments := ["A=1".toList, "A=2".toList, "=3".toList, "B=4".toList]
    let files := ["a".toList, "missing".toList, "a".toList]
    ((pwd.run fs ["d".toList] [] s).2 = s ∧ (pwd.run fs ["--help".toList] [] s).2 = s) ∧
    (popd.run fs [] [] s).2 = s ∧
    AssignedUpTo s (exportVariables.run fs assignments [] s).2 assignments ∧
    PrintedUpTo fs cat s files (cat.run fs files [] s).1 ∧
    (pushd.run fs ["d".toList] [] s).1.errors = [] ∧
    (exit.run fs ["3".toList] [] s).1.errors = [] := by
  intro fs s assignments files
  have refusal : pwd.parse ["d".toList] = .error ⟨(ArgumentError.unrecognized "d".toList).message, true⟩ := rfl
  have help : pwd.parse ["--help".toList] = .error ⟨pwd.help, false⟩ := rfl
  obtain ⟨isRefused, refused, _⟩ := failing_builtin_keeps_session fs pwd (pwd.parse ["d".toList]) [] s
  obtain ⟨isHelp, _, helped, _⟩ := failing_builtin_keeps_session fs pwd (pwd.parse ["--help".toList]) [] s
  obtain ⟨isPop, _, _, reported, popped, _⟩ := failing_builtin_keeps_session fs popd (.ok {}) [] s
  obtain ⟨isExport, _, _, _, exported, _⟩ :=
    failing_builtin_keeps_session fs exportVariables (.ok { values := assignments }) [] s
  obtain ⟨isCat, _, _, _, printed, _⟩ := failing_builtin_keeps_session fs cat (.ok { values := files }) [] s
  obtain ⟨isPush, _, _, _, _, pushed, _⟩ := failing_builtin_keeps_session fs pushd (.ok { values := ["d".toList] }) [] s
  obtain ⟨isExit, _, _, _, _, _, left⟩ := failing_builtin_keeps_session fs exit (.ok { values := ["3".toList] }) [] s
  obtain ⟨_, empty, _⟩ := popped {} rfl ((reported {} rfl).2 ⟨.stackEmpty, rfl⟩)
  obtain ⟨_, _, assigned, _⟩ := exported { values := assignments } rfl (by decide)
  obtain ⟨_, _, _, stopped⟩ := printed { values := files } rfl (by decide)
  rw [isRefused ["d".toList] rfl, isHelp ["--help".toList] rfl, isPop [] rfl, isExport assignments rfl, isCat files rfl,
    isPush ["d".toList] rfl, isExit ["3".toList] rfl]
  exact ⟨⟨(refused _ refusal rfl).2.2, (helped _ help rfl).2⟩, empty (by decide), assigned rfl,
    stopped (.inl rfl) (by decide), (pushed (by decide)).2, left (by decide)⟩

end Builtin

end CommandShell
