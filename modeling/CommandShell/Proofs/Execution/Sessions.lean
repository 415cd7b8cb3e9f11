import CommandShell.Proofs.Execution.Calls
import CommandShell.Proofs.Execution.Resolution

set_option autoImplicit false

namespace CommandShell

-- `Keeps entered s s'`: the session `s'` is one that `s` can become where only such directories are entered.
structure Session.Keeps (entered : Text → Prop) (s s' : Session) : Prop where
  home : s'.home = s.home
  scriptPaths : s'.scriptPaths = s.scriptPaths
  engine : s'.engine = s.engine
  directories : ∀ d ∈ s'.directories.toList, d ∈ s.directories.toList ∨ entered d
  exiting : s.exiting = true → s'.exiting = true

namespace Session.Keeps

variable (entered : Text → Prop)

theorem refl (s : Session) : Keeps entered s s := ⟨rfl, rfl, rfl, fun _ => .inl, id⟩

theorem trans (first middle last : Session) (before : Keeps entered first middle) (after : Keeps entered middle last) :
    Keeps entered first last where
  home := after.home.trans before.home
  scriptPaths := after.scriptPaths.trans before.scriptPaths
  engine := after.engine.trans before.engine
  directories d member := (after.directories d member).elim (before.directories d) .inr
  exiting marked := after.exiting (before.exiting marked)

theorem weaken {entered entered' : Text → Prop} {s s' : Session} (keeps : Keeps entered s s')
    (holds : ∀ d, entered d → entered' d) : Keeps entered' s s' :=
  { keeps with directories := fun d member => (keeps.directories d member).imp_right (holds d) }

theorem lasting : Lasting fun w w' : World => Keeps entered w.session w'.session where
  refl w := refl entered w.session
  trans first middle last := trans entered first.session middle.session last.session
  console w _ := refl entered w.session
  restored _ _ keeps := { keeps with exiting := id }

end Session.Keeps

namespace Builtin

def askedDirectory (s : Session) : List Text → Text
  | [] => s.home
  | first :: _ => if first.isEmpty then s.home else first

theorem target_directory_eq (fs : FileSystem) (s : Session) (values : List Text) :
    targetDirectory fs s values =
      (s.resolveDirectory fs (askedDirectory s values)).mapError (.directory (askedDirectory s values)) := by
  cases values <;> rfl

theorem target_directory_ok (fs : FileSystem) (s : Session) (values : List Text) (d : Text)
    (found : targetDirectory fs s values = .ok d) : s.resolveDirectory fs (askedDirectory s values) = .ok d := by
  rw [target_directory_eq] at found
  cases resolved : s.resolveDirectory fs (askedDirectory s values) with
  | error e => rw [resolved] at found; cases found
  | ok path => rw [resolved] at found; cases found; rfl

theorem assign_all_keeps (s : Session) (arguments : List Text) :
    ∃ bindings, (assignAll s arguments).session = { s with bindings } := by
  induction arguments generalizing s with
  | nil => exact ⟨s.bindings, rfl⟩
  | cons argument rest ih =>
      rw [assignAll]
      cases assignment? argument with
      | none => exact ⟨s.bindings, rfl⟩
      | some pair => exact ih { s with bindings := s.bindings.insert pair.1 pair.2 }

def entersDirectory (b : Builtin) : Bool := b = cd || b = pushd

theorem perform_keeps (fs : FileSystem) (b : Builtin) (a : Arguments) (input : List Bytes) (s : Session) :
    s.Keeps (fun d => b.entersDirectory = true ∧ s.resolveDirectory fs (askedDirectory s a.values) = .ok d)
      (b.perform fs a input s).session := by
  have same := Session.Keeps.refl
    (fun d => b.entersDirectory = true ∧ s.resolveDirectory fs (askedDirectory s a.values) = .ok d) s
  cases b with
  | echo => exact same
  | pwd => exact same
  | dirs => exact same
  | cd =>
      rw [perform]
      cases found : targetDirectory fs s a.values with
      | error e => exact same
      | ok path =>
          have resolved := target_directory_ok fs s a.values path found
          refine { same with directories := fun d member => ?_ }
          rcases List.mem_cons.1 member with rfl | below
          · exact .inr ⟨rfl, resolved⟩
          · exact .inl (List.mem_cons_of_mem _ below)
  | pushd =>
      rw [perform]
      cases found : targetDirectory fs s a.values with
      | error e => exact same
      | ok path =>
          have resolved := target_directory_ok fs s a.values path found
          refine { same with directories := fun d member => ?_ }
          rcases List.mem_cons.1 member with rfl | below
          · exact .inr ⟨rfl, resolved⟩
          · exact .inl below
  | popd =>
      rw [perform]
      cases popped : s.directories.pop? with
      | none => exact same
      | some pair =>
          have whole := @DirectoryStack.to_list_of_pop? s.directories pair.2 pair.1 popped
          exact { same with directories := fun d member => .inl (by rw [whole]; exact List.mem_cons_of_mem _ member) }
  | exportVariables =>
      rw [perform]
      by_cases none : a.values.isEmpty = true
      · rw [if_pos none]
        exact same
      · obtain ⟨bindings, only⟩ := assign_all_keeps s a.values
        rw [if_neg none, only]
        exact ⟨rfl, rfl, rfl, fun _ => .inl, id⟩
  | unsetVariables => exact ⟨rfl, rfl, rfl, fun _ => .inl, id⟩
  | prompt => exact ⟨rfl, rfl, rfl, fun _ => .inl, id⟩
  | cat =>
      have kept : (cat.perform fs a input s).session = s := by
        rw [perform]
        split <;> rfl
      rwa [kept]
  | wc =>
      have kept : (wc.perform fs a input s).session = s := by
        rw [perform]
        split
        · cases decode input.flatten <;> rfl
        · rfl
      rwa [kept]
  | exit => exact ⟨rfl, rfl, rfl, fun _ => .inl, fun _ => rfl⟩

theorem run_keeps (fs : FileSystem) (b : Builtin) (arguments : List Text) (input : List Bytes) (s : Session) :
    s.Keeps (fun d => b.entersDirectory = true ∧ ∃ a, b.signature.parse arguments = .ok (.run a) ∧
      s.resolveDirectory fs (askedDirectory s a.values) = .ok d) (b.run fs arguments input s).2 := by
  rw [run, parse]
  cases parsed : b.signature.parse arguments with
  | error e => exact .refl _ s
  | ok request =>
      cases request with
      | help => exact .refl _ s
      | run a => exact (perform_keeps fs b a input s).weaken fun d ⟨enters, resolved⟩ => ⟨enters, a, rfl, resolved⟩

end Builtin

-- The directory that a command asks for, if it is `cd` or `pushd` and its arguments are in order.
def Call.askedDirectory? (c : Call) : Option Text :=
  match c.words with
  | [] => none
  | name :: arguments => do
    let b ← Builtin.ofName? name
    if b.entersDirectory then
      match b.signature.parse arguments with
      | .ok (.run a) => some (Builtin.askedDirectory c.world.session a.values)
      | _ => none
    else none

def Call.Enters (c : Call) (d : Text) : Prop :=
  ∃ asked ∈ c.askedDirectory?, c.world.session.resolveDirectory c.world.files asked = .ok d

theorem run_builtin_keeps (w : World) (b : Builtin) (arguments : List Text) (source : Source) :
    w.session.Keeps (fun d => b.entersDirectory = true ∧ ∃ a, b.signature.parse arguments = .ok (.run a) ∧
      w.session.resolveDirectory w.files (Builtin.askedDirectory w.session a.values) = .ok d)
      (w.runBuiltin b arguments source).2.session :=
  b.run_keeps w.files arguments _ w.session

theorem run_program_session (w last : World) (host : Host) (path : Text) (arguments : List Text) (source : Source)
    (stdout : Sink) (effect : Effect) (ran : w.runProgram host path arguments source stdout = .ok (effect, last)) :
    last.session = w.session := by
  cases source with
  | console =>
      obtain ⟨ending, _, same⟩ := (except_bind_ok_iff (host.launch w.files _ w.console.waiting) _ _).1 ran
      cases same
      rfl
  | input i =>
      obtain ⟨ending, _, same⟩ := (except_bind_ok_iff (host.launch w.files _ i.unread) _ _).1 ran
      cases same
      rfl

theorem run_command_session (w last : World) (host : Host) (command : Command) (arguments : List Text) (source : Source)
    (stdout : Sink) (effect : Effect) (other : ∀ b, command ≠ .builtin b)
    (ran : w.runCommand host command arguments source stdout = .ok (effect, last)) : last.session = w.session := by
  cases command with
  | builtin b => exact absurd rfl (other b)
  | script path =>
      obtain ⟨_, _, same⟩ := (except_bind_ok_iff _ _ _).1 ran
      cases same
      rfl
  | program path =>
      cases started : w.runProgram host path arguments source stdout with
      | error e =>
          rw [World.runCommand, started] at ran
          cases ran
      | ok done =>
          rw [World.runCommand, started] at ran
          cases ran
          exact run_program_session w last host path arguments source stdout effect started

theorem run_simple_keeps (host : Host) (call : Call) (source : Source) (stdout stderr : Sink) :
    call.world.session.Keeps call.Enters
      (call.world.runSimple host source stdout stderr call.words).2.session := by
  obtain ⟨words, w⟩ := call
  cases words with
  | nil => exact .refl _ _
  | cons name arguments =>
      change w.session.Keeps _ (w.runNamed host name arguments source stdout).2.session
      rw [World.runNamed]
      cases found : Command.find w.files w.session name with
      | none => exact .refl _ _
      | some command =>
          by_cases builtin : ∃ b, command = .builtin b
          · obtain ⟨b, rfl⟩ := builtin
            refine (run_builtin_keeps w b arguments source).weaken fun d ⟨enters, a, parsed, resolved⟩ => ?_
            have named := (Builtin.of_name_iff name b).2 ((Command.find_builtin_iff w.files w.session name b).1 found)
            exact ⟨_, by simp [Call.askedDirectory?, named, enters, parsed], resolved⟩
          · cases ran : w.runCommand host command arguments source stdout with
            | error e =>
                simp only [ran]
                exact .refl _ _
            | ok done =>
                have same := run_command_session w done.2 host command arguments source stdout done.1
                  (fun b isBuiltin => builtin ⟨b, isBuiltin⟩) ran
                simp only [ran, same]
                exact .refl _ _

def EntersIn (host : Host) (sink : Sink) (line : Text) (w : World) (d : Text) : Prop :=
  ∃ call, Performs host sink line w call ∧ call.Enters d

theorem each_call_keeps (host : Host) (sink : Sink) (line : Text) (w : World) :
    EachCall (fun w' last => Session.Keeps (EntersIn host sink line w) w'.session last.session) host sink line w :=
  fun call performs source stdout stderr =>
    (run_simple_keeps host call source stdout stderr).weaken fun _ enters => ⟨call, performs, enters⟩

theorem run_line_keeps (host : Host) (sink : Sink) (line : Text) (w : World) :
    w.session.Keeps (EntersIn host sink line w) ((runLine host sink line).run.run w).2.session :=
  run_line_lasting _ (Session.Keeps.lasting _) host sink line w (each_call_keeps host sink line w)

theorem performs_keeps (host : Host) (sink : Sink) (line : Text) (w : World) (call : Call)
    (performs : Performs host sink line w call) :
    w.session.Keeps (EntersIn host sink line w) call.world.session :=
  performs_lasting _ (Session.Keeps.lasting _) host sink line w call performs (each_call_keeps host sink line w)

structure Turn where
  sink : Sink
  line : Text
  files : FileSystem
  console : Console

namespace Turn

def world (t : Turn) (s : Session) : World := ⟨s, t.files, t.console⟩

def after (host : Host) (t : Turn) (s : Session) : Session := ((runLine host t.sink t.line).run.run (t.world s)).2.session

end Turn

namespace Session

def after (host : Host) (s : Session) (turns : List Turn) : Session := turns.foldl (fun s t => t.after host s) s

inductive Performed (host : Host) : Session → List Turn → Call → Prop where
  | here (s : Session) (t : Turn) (later : List Turn) (call : Call)
      (performs : Performs host t.sink t.line (t.world s) call) : Performed host s (t :: later) call
  | later (s : Session) (t : Turn) (others : List Turn) (call : Call)
      (performed : Performed host (t.after host s) others call) : Performed host s (t :: others) call

def Entered (host : Host) (s : Session) (turns : List Turn) (d : Text) : Prop :=
  ∃ call, s.Performed host turns call ∧ call.Enters d

theorem keeps_first (host : Host) (s s' : Session) (t : Turn) (later : List Turn)
    (keeps : s.Keeps (EntersIn host t.sink t.line (t.world s)) s') : s.Keeps (s.Entered host (t :: later)) s' :=
  keeps.weaken fun _ ⟨call, performs, enters⟩ => ⟨call, .here s t later call performs, enters⟩

theorem keeps_later (host : Host) (s s' : Session) (t : Turn) (later : List Turn)
    (keeps : (t.after host s).Keeps ((t.after host s).Entered host later) s') : s.Keeps (s.Entered host (t :: later)) s' :=
  .trans _ s (t.after host s) s' (keeps_first host s _ t later (run_line_keeps host t.sink t.line (t.world s)))
    (keeps.weaken fun _ ⟨call, performed, enters⟩ => ⟨call, .later s t later call performed, enters⟩)

theorem after_keeps (host : Host) (s : Session) (turns : List Turn) :
    s.Keeps (s.Entered host turns) (s.after host turns) := by
  induction turns generalizing s with
  | nil => exact .refl _ s
  | cons t later ih => exact keeps_later host s _ t later (ih (t.after host s))

theorem performed_keeps (host : Host) (s : Session) (turns : List Turn) (call : Call)
    (performed : s.Performed host turns call) : s.Keeps (s.Entered host turns) call.world.session := by
  induction performed with
  | here s t later call performs =>
      exact keeps_first host s _ t later (performs_keeps host t.sink t.line (t.world s) call performs)
  | later s t others call performed ih => exact keeps_later host s _ t others ih

theorem sessions_keep (host : Host) (s : Session) (turns : List Turn) :
    (s.after host turns).directories.toList ≠ [] ∧ s.Keeps (s.Entered host turns) (s.after host turns) ∧
    (∀ call, s.Performed host turns call → s.Keeps (s.Entered host turns) call.world.session) ∧
    ∀ t : Turn, (s.after host turns).exiting = true → (s.after host (turns ++ [t])).exiting = true := by
  refine ⟨List.cons_ne_nil _ _, after_keeps host s turns, performed_keeps host s turns, fun t exiting => ?_⟩
  have last : s.after host (turns ++ [t]) = t.after host (s.after host turns) := by simp [after]
  rw [last]
  exact (run_line_keeps host t.sink t.line _).exiting exiting

theorem sessions_keep_root :
    let s := Session.start Calculator.eval {} "/tmp".toList "/home".toList
    let t : Turn := ⟨.capture, "cd /".toList, {}, {}⟩
    let call : Call := ⟨["cd".toList, "/".toList], t.world s⟩
    ∀ host : Host, s.Performed host [t] call ∧ call.Enters "/".toList ∧
      s.Keeps (s.Entered host [t]) call.world.session ∧
      (({ s with exiting := true } : Session).after host []).exiting = true ∧
      (({ s with exiting := true } : Session).after host [t]).exiting = true := by
  intro s t call host
  let words : List Word := [.bare "cd".toList, .bare "/".toList]
  have parsed := CommandList.of_line_one "cd /".toList (.simple words) (List.cons_ne_nil _ _) rfl
  have runs : RunsAs host "cd /".toList (t.world s) ⟨[⟨.simple call.words, []⟩], false⟩ (t.world s) :=
    ⟨⟨_, parsed, List.cons_ne_nil _ _, rfl⟩, rfl, rfl⟩
  have reached : PipelineReached host (runLine host) .capture [⟨.simple call.words, []⟩] (t.world s)
      ⟨.simple call.words, .input {}, .capture, t.world s⟩ := .first _ [] _ _ (.last _ _ _)
  have performed : s.Performed host [t] call := .here s t [] call (.command _ _ _ _ _ _ _ _ _ runs reached)
  obtain ⟨_, _, each, _⟩ := sessions_keep host s [t]
  obtain ⟨_, _, _, marked⟩ := sessions_keep host { s with exiting := true } []
  exact ⟨performed, ⟨"/".toList, rfl, rfl⟩, each call performed, rfl, marked t rfl⟩

end Session

end CommandShell
