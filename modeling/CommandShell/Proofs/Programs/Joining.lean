import CommandShell.Programs.Cat
import CommandShell.Proofs.Builtin.Failures
import CommandShell.Proofs.Programs.Processes
import Mathlib.Data.List.Induction

set_option autoImplicit false

namespace CommandShell.Cat

-- A run has failed where it has said so, and only there.
def Progress.IsHonest (g : Progress) : Prop :=
  g.hasFailed = true ↔ ∃ data, (OutputStream.errors, data) ∈ g.writes ∧ data ≠ []

theorem complain_honest (p : Process) (g : Progress) (message : Text) : (g.complain p message).IsHonest :=
  ⟨fun _ => ⟨p.complaint message, List.mem_cons_self, p.complaint_ne_nil message⟩, fun _ => rfl⟩

theorem write_honest (g after : Progress) (data : Bytes) (kept : after.hasFailed = g.hasFailed)
    (writes : after.writes = (.output, data) :: g.writes) (honest : g.IsHonest) : after.IsHonest := by
  rw [Progress.IsHonest, kept, writes]
  constructor
  · intro failed
    obtain ⟨said, member, some⟩ := honest.1 failed
    exact ⟨said, List.mem_cons_of_mem _ member, some⟩
  · rintro ⟨said, member, some⟩
    rcases List.mem_cons.1 member with same | before
    · cases same
    · exact honest.2 ⟨said, before, some⟩

theorem copy_honest (p : Process) (s : Style) (data : Bytes) (g : Progress) (honest : g.IsHonest) :
    (g.copy p s data).IsHonest := by
  rw [Progress.copy]
  generalize render s g.position data = rendered
  obtain ⟨shown, position⟩ := rendered
  dsimp only
  by_cases nothing : shown.isEmpty = true
  · rw [if_pos nothing]
    exact honest
  · rw [if_neg nothing]
    cases p.streams.output.fault with
    | some fault => exact complain_honest p g _
    | none => exact write_honest g _ shown rfl rfl honest

theorem join_file_honest (p : Process) (input : Bytes) (s : Style) (g : Progress) (name : Text) (honest : g.IsHonest) :
    (joinFile p input s g name).IsHonest := by
  rw [joinFile]
  split
  · exact honest
  · split
    on_goal 2 => split
    all_goals
      dsimp only
      split
      · exact copy_honest p s _ g honest
      · exact complain_honest p g _

theorem join_files_honest (p : Process) (input : Bytes) (s : Style) (names : List Text) (g : Progress)
    (honest : g.IsHonest) : (names.foldl (joinFile p input s) g).IsHonest := by
  induction names generalizing g with
  | nil => exact honest
  | cons name rest ih => exact ih _ (join_file_honest p input s g name honest)

theorem nothing_honest : Progress.IsHonest {} :=
  ⟨fun failed => (by cases failed), fun ⟨_, member, _⟩ => (by cases member)⟩

theorem ending_honest (p : Process) (g : Progress) (honest : g.IsHonest) :
    let e := p.ending (if g.hasFailed then 1 else 0) g.writes.reverse g.taken
    e.files = p.files ∧ (e.code = 0 ∨ e.code = 1) ∧ (e.code = 1 ↔ e.errors ≠ []) := by
  intro e
  have said : e.errors ≠ [] ↔ g.hasFailed = true := by
    refine Iff.trans ?_ honest.symm
    refine (Ending.written_ne_nil_iff e .errors).trans ?_
    simp [e, Process.ending]
  rw [said]
  cases failed : g.hasFailed with
  | true => exact ⟨rfl, .inr (if_pos failed), fun _ => rfl, fun _ => if_pos failed⟩
  | false =>
      have code : e.code = 0 := if_neg (by simp [failed])
      exact ⟨rfl, .inl code, fun one => (by rw [code] at one; cases one), fun never => (by cases never)⟩

theorem program_honest (p : Process) (input : Bytes) :
    let e := program p input
    e.files = p.files ∧ (e.code = 0 ∨ e.code = 1) ∧ (e.code = 1 ↔ e.errors ≠ []) := by
  unfold program
  cases Style.options.split (p.arguments.map Octets.ofText) with
  | error fault =>
      refine ⟨rfl, .inr rfl, fun _ => ?_, fun _ => rfl⟩
      exact (Ending.written_ne_nil_iff _ _).2 ⟨_, List.mem_singleton_self _, by simp [p.complaint_ne_nil]⟩
  | ok read =>
      obtain ⟨letters, names⟩ := read
      dsimp only
      split
      · exact ⟨rfl, .inl rfl, fun failed => (by cases failed), fun said => absurd rfl said⟩
      · split
        · exact ⟨rfl, .inl rfl, fun failed => (by cases failed), fun said => absurd rfl said⟩
        · split
          · refine ⟨rfl, .inr rfl, fun _ => ?_, fun _ => rfl⟩
            exact (Ending.written_ne_nil_iff _ _).2 ⟨_, List.mem_singleton_self _, p.complaint_ne_nil _⟩
          · have joined := join_files_honest p input (letters.foldl Style.turn {})
              (if names.isEmpty then [['-']] else names.map Octets.text) {} nothing_honest
            generalize List.foldl _ _ _ = g at joined ⊢
            have closing (g : Progress) (honest : g.IsHonest) : Progress.IsHonest
                (if g.hasReadInput && p.streams.input.isClosed then
                  g.complain p "closing standard input: Bad file descriptor".toList else g) := by
              split
              · exact complain_honest p g _
              · exact honest
            refine ending_honest p _ ?_
            split
            · exact closing _ (write_honest g _ [0x0D] rfl rfl joined)
            · exact closing g joined

def content? (fs : FileSystem) (path : Text) : Option Bytes := (fs.open? path >>= Entry.read).toOption

-- Names of files: they are read as no option, and stand for no open stream.
structure IsFileName (name : Text) : Prop where
  noOption : (Octets.ofText name).head? ≠ some '-'
  noStream : deviceDescriptor? name ≠ some 0

theorem read_file_content (p : Process) (written : Nat) (name : Text) (noFile : p.streams.output.file = none) :
    (readFile p written name).toOption = content? p.files name := by
  rw [readFile, content?, FileSystem.open?]
  cases p.files.locate name with
  | error e => rfl
  | ok place =>
      have apart : feedsItself p written place 0 = false := by rw [feedsItself, noFile]; rfl
      dsimp only [Except.mapError, bind, Except.bind, Option.bind, Except.toOption]
      cases p.files.entry? place with
      | none => rfl
      | some entry =>
          cases entry with
          | file content executable =>
              simp only [apart]
              rfl
          | _ => rfl

-- What is known once files have been joined as they are.
structure Joined (p : Process) (names : List Text) (g : Progress) : Prop where
  goesOn : g.isStopped = false
  position : g.position = {}
  untaken : g.taken = 0
  unread : g.hasReadInput = false
  output : (p.ending 0 g.writes.reverse 0).output = (names.filterMap (content? p.files)).flatten
  failed : g.hasFailed = true ↔ ∃ name ∈ names, content? p.files name = none

theorem copy_plain (p : Process) (g : Progress) (data : Bytes) (goes : p.streams.output.fault = none) :
    g.copy p {} data = if data.isEmpty then g else
      { g with writes := (.output, data) :: g.writes, written := g.written + data.length } := by
  rw [Progress.copy, render]
  simp only [goes, if_true]

theorem output_after (p : Process) (writes : List (OutputStream × Bytes)) (stream : OutputStream) (data : Bytes) :
    (p.ending 0 ((stream, data) :: writes).reverse 0).output =
      (p.ending 0 writes.reverse 0).output ++ if stream = .output then data else [] := by
  cases stream <;> simp [Process.ending, Ending.output, Ending.written]

theorem join_file_name (p : Process) (input : Bytes) (g : Progress) (name : Text) (isFile : IsFileName name)
    (goesOn : g.isStopped = false) :
    joinFile p input {} g name = match readFile p g.written name with
      | .ok data => g.copy p {} data
      | .error reason => g.complain p (Quoting.name (Octets.ofText name) ++ ": ".toList ++ reason) := by
  have noDash : name ≠ ['-'] := by
    rintro rfl
    exact isFile.noOption rfl
  rw [joinFile, goesOn, if_neg noDash, if_neg isFile.noStream]
  rfl

section Plain

variable (p : Process) (input : Bytes) (noFile : p.streams.output.file = none)
variable (goes : p.streams.output.fault = none)

include noFile goes

theorem joined_next (names : List Text) (g : Progress) (name : Text) (isFile : IsFileName name)
    (joined : Joined p names g) : Joined p (names ++ [name]) (joinFile p input {} g name) := by
  have content := read_file_content p g.written name noFile
  rw [join_file_name p input g name isFile joined.goesOn]
  cases read : readFile p g.written name with
  | error reason =>
      rw [read] at content
      have missing : content? p.files name = none := content.symm
      refine { joined with output := ?_, failed := ?_ }
      · change (p.ending 0 ((.errors, p.complaint _) :: g.writes).reverse 0).output = _
        rw [output_after, joined.output]
        simp [missing]
      · simp [Progress.complain, missing]
  | ok data =>
      rw [read] at content
      have found : content? p.files name = some data := content.symm
      have failed : g.hasFailed = true ↔ ∃ other ∈ names ++ [name], content? p.files other = none := by
        rw [joined.failed]
        simp [found]
      dsimp only
      rw [copy_plain p g data goes]
      by_cases nothing : data.isEmpty = true
      · rw [if_pos nothing]
        have empty : data = [] := List.isEmpty_iff.1 nothing
        refine { joined with output := ?_, failed := failed }
        rw [joined.output]
        simp [found, empty]
      · rw [if_neg nothing]
        refine { joined with output := ?_, failed := failed }
        rw [output_after, joined.output]
        simp [found]

theorem joined_all (names : List Text) (files : ∀ name ∈ names, IsFileName name) :
    Joined p names (names.foldl (joinFile p input {}) {}) := by
  induction names using List.reverseRecOn with
  | nil => exact ⟨rfl, rfl, rfl, rfl, rfl, by simp⟩
  | append_singleton front name ih =>
      rw [List.foldl_append]
      have before := ih fun other member => files other (List.mem_append_left _ member)
      exact joined_next p input noFile goes front _ name (files name (by simp)) before

theorem program_joins (given : p.arguments ≠ []) (files : ∀ name ∈ p.arguments, IsFileName name) :
    let e := program p input
    e.output = (p.arguments.filterMap (content? p.files)).flatten ∧
      (e.code = 0 ↔ ∀ name ∈ p.arguments, content? p.files name ≠ none) ∧ e.taken = 0 := by
  have opened := p.streams.output.open_of_fault goes
  have operands := OptionTable.split_operands Style.options rfl (p.arguments.map Octets.ofText) fun octets member => by
    obtain ⟨name, isName, rfl⟩ := List.mem_map.1 member
    exact (files name isName).noOption
  have back : (p.arguments.map Octets.ofText).map Octets.text = p.arguments := by
    simp [Function.comp_def, Octets.text_of_text]
  have joined := joined_all p input noFile goes p.arguments files
  have whole : program p input =
      let g := p.arguments.foldl (joinFile p input {}) {}
      p.ending (if g.hasFailed then 1 else 0) g.writes.reverse g.taken := by
    rw [program, operands]
    simp [opened, given, back, joined.position, joined.unread]
  rw [whole]
  refine ⟨joined.output, ?_, joined.untaken⟩
  have failed := joined.failed
  cases said : (p.arguments.foldl (joinFile p input {}) {}).hasFailed with
  | true =>
      obtain ⟨name, member, missing⟩ := failed.1 said
      simp only [said]
      exact ⟨fun never => (by cases never), fun all => absurd missing (all name member)⟩
  | false =>
      rw [said] at failed
      simp only [said]
      exact ⟨fun _ name member missing => Bool.false_ne_true (failed.2 ⟨name, member, missing⟩), fun _ => rfl⟩

end Plain

theorem program_passes (p : Process) (input : Bytes) (none : p.arguments = [])
    (goes : p.streams.output.fault = Option.none) (noInputFile : p.streams.input.file = Option.none)
    (comes : p.streams.input.fault = Option.none) :
    let e := program p input
    e.output = input ∧ e.code = 0 ∧ e.taken = input.length := by
  have opened := p.streams.output.open_of_fault goes
  have inputOpen := p.streams.input.open_of_fault comes
  have read : readInput p input 0 0 = .ok input := by
    simp [readInput, comes, noInputFile]
  have style : Style.options.split ([].map Octets.ofText) = .ok ([], []) := rfl
  have joined : joinFile p input {} {} ['-'] = { Progress.copy {} p {} input with taken := input.length, hasReadInput := true } := by
    simp [joinFile, read, Except.toBool]
  rw [program, none, style]
  by_cases nothing : input.isEmpty = true
  · obtain rfl : input = [] := List.isEmpty_iff.1 nothing
    have copied : Progress.copy {} p {} [] = {} := by
      rw [copy_plain p {} [] goes, if_pos nothing]
    simp [opened, joined, copied, inputOpen, Process.ending, Ending.output, Ending.written]
  · have copied : Progress.copy {} p {} input = { writes := [(.output, input)], written := input.length } := by
      rw [copy_plain p {} input goes, if_neg nothing, Nat.zero_add]
    simp [opened, joined, copied, inputOpen, Process.ending, Ending.output, Ending.written]

theorem over_files_content (fs : FileSystem) (s : Session) (names : List Text)
    (absolute : ∀ name ∈ names, Path.isAbsolute name = true)
    (ended : (Builtin.overFiles fs s (fun _ content => .ok content.pieces) names).2 = .ok 0) :
    (Builtin.overFiles fs s (fun _ content => .ok content.pieces) names).1.flatten =
      (names.filterMap (content? fs)).flatten ∧ ∀ name ∈ names, content? fs name ≠ none := by
  induction names with
  | nil => exact ⟨rfl, fun _ member => by cases member⟩
  | cons name rest ih =>
      have others (other : Text) (member : other ∈ rest) := absolute other (List.mem_cons_of_mem name member)
      have path : Path.join s.directory name = name := by
        rw [Path.join, absolute name List.mem_cons_self]
        rfl
      rcases Builtin.over_files_cons fs s (fun _ content => .ok content.pieces) name rest with
        ⟨writes, ⟨content, read, wrote⟩, goesOn⟩ | ⟨_, e, stops⟩
      · obtain rfl := Except.ok.inj wrote
        rw [path] at read
        have found : content? fs name = some content := by
          rw [content?, read]
          rfl
        rw [goesOn] at ended ⊢
        obtain ⟨whole, all⟩ := ih others ended
        refine ⟨?_, List.forall_mem_cons.2 ⟨by simp [found], all⟩⟩
        rw [List.flatten_append, pieces_flatten, whole]
        simp [found]
      · rw [stops] at ended
        cases ended

-- The builtin and the program of this name agree on files that the builtin can read.
theorem joins_as_builtin (p : Process) (input : Bytes) (s : Session) (pieces : List Bytes) (given : p.arguments ≠ [])
    (files : ∀ name ∈ p.arguments, IsFileName name) (absolute : ∀ name ∈ p.arguments, Path.isAbsolute name = true)
    (noFile : p.streams.output.file = none) (goes : p.streams.output.fault = none)
    (ended : (Builtin.cat.perform p.files { values := p.arguments } pieces s).ending = .ok 0) :
    (program p input).output = (Builtin.cat.perform p.files { values := p.arguments } pieces s).writes.flatten ∧
      (program p input).code = 0 := by
  rw [Builtin.perform_files p.files s .cat (.inl rfl) { values := p.arguments } pieces given] at ended ⊢
  obtain ⟨whole, all⟩ := over_files_content p.files s p.arguments absolute ended
  obtain ⟨output, code, _⟩ := program_joins p input noFile goes given files
  exact ⟨output.trans whole.symm, code.2 all⟩

end CommandShell.Cat
