import CommandShell.Execution.Command
import Mathlib.Data.List.Basic

set_option autoImplicit false

namespace CommandShell

theorem Text.split_at_eq (separator : Char) (t : Text) : Text.splitAt separator t = t.splitOn separator := by
  induction t with
  | nil => exact (List.splitOn_nil separator).symm
  | cons c rest ih =>
      rw [Text.splitAt, List.splitOn_cons_eq_if_modifyHead, ih]
      by_cases same : c = separator
      · simp [same]
      · rw [if_neg same, if_neg (by simpa using same)]
        cases parts : List.splitOn separator rest with
        | nil => exact absurd parts (List.splitOn_ne_nil separator rest)
        | cons part others => rfl

namespace Text

variable (separator : Char)

theorem split_at_append (front back : Text) :
    splitAt separator (front ++ separator :: back) = splitAt separator front ++ splitAt separator back := by
  simp only [split_at_eq]
  exact List.splitOnP_append_cons front back (by simp)

theorem split_at_apart (t : Text) : ∀ part ∈ splitAt separator t, separator ∉ part := by
  induction t with
  | nil => simp [splitAt]
  | cons c rest ih =>
      intro part member
      rw [splitAt] at member
      split at member
      · rcases List.mem_cons.1 member with rfl | member
        · simp
        · exact ih part member
      · next other =>
        split at member
        · obtain rfl := List.mem_singleton.1 member
          simpa using Ne.symm other
        · next first others shape =>
          rw [shape] at ih
          rcases List.mem_cons.1 member with rfl | member
          · have apart := ih first List.mem_cons_self
            simpa [apart] using Ne.symm other
          · exact ih part (List.mem_cons_of_mem _ member)

theorem split_at_eq_iff (t : Text) (parts : List Text) :
    splitAt separator t = parts ↔ parts ≠ [] ∧ (∀ part ∈ parts, separator ∉ part) ∧ t = join [separator] parts := by
  constructor
  · rintro rfl
    refine ⟨?_, split_at_apart separator t, ?_⟩
    · rw [split_at_eq]
      exact List.splitOn_ne_nil separator t
    · rw [split_at_eq]
      exact (List.intercalate_splitOn separator).symm
  · rintro ⟨nonempty, apart, rfl⟩
    rw [split_at_eq]
    exact List.splitOn_intercalate separator apart nonempty

end Text

namespace Path

theorem search_entries_eq (value : Text) : searchEntries value = (Text.splitAt ':' value).filter (· ≠ []) := by
  rw [searchEntries]
  congr 1
  funext part
  cases part <;> rfl

theorem search_entries_append (front back : Text) :
    searchEntries (front ++ ':' :: back) = searchEntries front ++ searchEntries back := by
  rw [searchEntries, Text.split_at_append, List.filter_append]
  rfl

theorem parts_eq_nil (path : Text) (relative : isAbsolute path = false) (none : parts path = []) : path = [] := by
  cases path with
  | nil => rfl
  | cons c rest =>
      have other : c ≠ '/' := by simpa [isAbsolute] using relative
      rw [parts, Text.splitAt, if_neg other] at none
      split at none
      · simp at none
      · simp at none

-- A relative path has a component, unless it is empty: a leading `.` is one.
theorem components_eq_nil (path : Text) (relative : isAbsolute path = false) (none : components path = []) :
    path = [] := by
  apply parts_eq_nil path relative
  cases named : parts path with
  | nil => rfl
  | cons first others =>
      by_cases current : first = ['.']
      · simp [components, relative, named, current] at none
      · simp [components, relative, named, current] at none

end Path

theorem Builtin.of_name_iff (name : Text) (b : Builtin) : ofName? name = some b ↔ b.name = name := by
  constructor
  · intro found
    simpa using List.find?_some found
  · rintro rfl
    cases b <;> rfl

namespace Command

def FoundFirst (fs : FileSystem) (name : Text) (directories : List Text) (path : Text) : Prop :=
  ∃ before directory after, directories = before ++ directory :: after ∧ path = Path.join directory name ∧
    fs.isFile path = true ∧ ∀ d ∈ before, fs.isFile (Path.join d name) = false

def IsScript (fs : FileSystem) (s : Session) (name path : Text) : Prop :=
  name ≠ [] ∧ FoundFirst fs (if ".kash".toList <:+ name then name else name ++ ".kash".toList)
    (s.directory :: s.scriptPaths) path

inductive IsProgram (fs : FileSystem) (s : Session) (name : Text) : Text → Prop where
  | absolute (leads : Path.isAbsolute name = true) (file : fs.isFile name = true) : IsProgram fs s name name
  -- One plain component is searched for in the parts of the search path that are not empty.
  | searched (path component : Text) (parts : List Text) (relative : Path.isAbsolute name = false)
      (single : Path.components name = [.normal component]) (some : parts ≠ []) (apart : ∀ part ∈ parts, ':' ∉ part)
      (value : s.bindings.value "PATH".toList = Text.join [':'] parts)
      (found : FoundFirst fs component (parts.filter (· ≠ [])) path) : IsProgram fs s name path
  | relative (nonempty : name ≠ []) (relative : Path.isAbsolute name = false)
      (other : ∀ component, Path.components name ≠ [.normal component])
      (file : fs.isFile (Path.join s.directory name) = true) : IsProgram fs s name (Path.join s.directory name)

theorem file_some (fs : FileSystem) (path found : Text) :
    fs.file? path = some found ↔ found = path ∧ fs.isFile found = true := by
  by_cases file : fs.isFile path = true
  · rw [FileSystem.file?, if_pos file]
    constructor
    · rintro ⟨⟩
      exact ⟨rfl, file⟩
    · rintro ⟨rfl, _⟩
      rfl
  · rw [FileSystem.file?, if_neg file]
    constructor
    · nofun
    · rintro ⟨rfl, isFile⟩
      exact absurd isFile file

theorem file_none (fs : FileSystem) (path : Text) : fs.file? path = none ↔ fs.isFile path = false := by
  simp [FileSystem.file?]

theorem in_directories_iff (fs : FileSystem) (name : Text) (directories : List Text) (path : Text) :
    fs.inDirectories name directories = some path ↔ FoundFirst fs name directories path := by
  rw [FileSystem.inDirectories, List.findSome?_eq_some_iff]
  simp only [file_some, file_none, and_assoc]
  rfl

theorem in_directories_append (fs : FileSystem) (name : Text) (directories more : List Text) :
    fs.inDirectories name (directories ++ more) =
      (fs.inDirectories name directories).or (fs.inDirectories name more) :=
  List.findSome?_append

section Find

variable (fs : FileSystem) (s : Session) (name : Text)

theorem builtin_iff (b : Builtin) : builtin? name = some (.builtin b) ↔ b.name = name := by
  rw [builtin?, Option.map_eq_some_iff, ← Builtin.of_name_iff]
  simp

theorem script_name_eq :
    scriptName name = if ".kash".toList <:+ name then name else name ++ ".kash".toList := by
  have same : scriptExtension.isSuffixOf name = true ↔ ".kash".toList <:+ name := List.isSuffixOf_iff_suffix
  rw [scriptName]
  by_cases ends : ".kash".toList <:+ name
  · rw [if_pos ends, if_pos (same.2 ends)]
  · rw [if_neg ends, if_neg (mt same.1 ends)]
    rfl

theorem script_iff (path : Text) : script? fs s name = some (.script path) ↔ IsScript fs s name path := by
  rw [script?, IsScript, ← script_name_eq, ← in_directories_iff]
  by_cases empty : name = []
  · simp [empty]
  · simp [empty]

theorem file_program_iff (path : Text) :
    fs.program? (Path.searchEntries (s.bindings.value "PATH".toList)) s.directory name = some path ↔
      IsProgram fs s name path := by
  rw [FileSystem.program?]
  by_cases leads : Path.isAbsolute name = true
  · rw [if_pos leads, file_some]
    constructor
    · rintro ⟨rfl, file⟩
      exact .absolute leads file
    · intro isProgram
      cases isProgram with
      | absolute _ file => exact ⟨rfl, file⟩
      | searched _ component parts relative => simp [leads] at relative
      | relative _ relative => simp [leads] at relative
  · rw [if_neg leads]
    have relative : Path.isAbsolute name = false := by simpa using leads
    split
    · next none =>
      have empty := Path.components_eq_nil name relative none
      constructor
      · nofun
      · intro isProgram
        cases isProgram with
        | absolute leads' => exact absurd leads' leads
        | searched _ component parts _ single =>
            rw [none] at single
            cases single
        | relative nonempty => exact absurd empty nonempty
    · next component single =>
      rw [in_directories_iff]
      constructor
      · intro found
        obtain ⟨some, apart, value⟩ := (Text.split_at_eq_iff ':' (s.bindings.value "PATH".toList) _).1 rfl
        rw [Path.search_entries_eq] at found
        exact .searched path component _ relative single some apart value found
      · intro isProgram
        cases isProgram with
        | absolute leads' => exact absurd leads' leads
        | searched _ other parts _ single' some apart value found =>
            rw [single] at single'
            cases single'
            rwa [Path.search_entries_eq, (Text.split_at_eq_iff ':' _ parts).2 ⟨some, apart, value⟩]
        | relative _ _ other => exact absurd single (other component)
    · next none single =>
      rw [file_some]
      constructor
      · rintro ⟨rfl, file⟩
        refine .relative ?_ relative single file
        rintro rfl
        exact none rfl
      · intro isProgram
        cases isProgram with
        | absolute leads' => exact absurd leads' leads
        | searched _ component parts _ single' => exact absurd single' (single component)
        | relative _ _ _ file => exact ⟨rfl, file⟩

theorem program_iff (path : Text) : program? fs s name = some (.program path) ↔ IsProgram fs s name path := by
  rw [program?, Option.map_eq_some_iff, ← file_program_iff]
  simp

theorem script_kind (c : Command) (found : script? fs s name = some c) : ∃ path, c = .script path := by
  rw [script?] at found
  split at found
  · cases found
  · obtain ⟨path, _, same⟩ := Option.map_eq_some_iff.1 found
    exact ⟨path, same.symm⟩

theorem program_kind (c : Command) (found : program? fs s name = some c) : ∃ path, c = .program path := by
  obtain ⟨path, _, same⟩ := Option.map_eq_some_iff.1 found
  exact ⟨path, same.symm⟩

theorem script_none (no : ∀ path, ¬ IsScript fs s name path) : script? fs s name = none := by
  cases found : script? fs s name with
  | none => rfl
  | some c =>
      obtain ⟨path, rfl⟩ := script_kind fs s name c found
      exact absurd ((script_iff fs s name path).1 found) (no path)

theorem find_named (b : Builtin) (named : b.name = name) : find fs s name = some (.builtin b) := by
  rw [find, (builtin_iff name b).2 named]
  rfl

theorem find_unnamed (unnamed : ∀ b : Builtin, b.name ≠ name) :
    find fs s name = (script? fs s name).or (program? fs s name) := by
  have none : builtin? name = none := by
    cases found : builtin? name with
    | none => rfl
    | some c =>
        obtain ⟨b, _, rfl⟩ := Option.map_eq_some_iff.1 found
        exact absurd ((builtin_iff name b).1 found) (unnamed b)
  rw [find, none]
  rfl

theorem find_builtin_iff (b : Builtin) : find fs s name = some (.builtin b) ↔ b.name = name := by
  constructor
  · intro found
    by_contra other
    by_cases named : ∃ b' : Builtin, b'.name = name
    · obtain ⟨b', same⟩ := named
      rw [find_named fs s name b' same] at found
      cases found
      exact other same
    · rw [find_unnamed fs s name (fun b' same => named ⟨b', same⟩)] at found
      rcases Option.or_eq_some_iff.1 found with script | ⟨_, program⟩
      · obtain ⟨path, same⟩ := script_kind fs s name _ script
        cases same
      · obtain ⟨path, same⟩ := program_kind fs s name _ program
        cases same
  · exact find_named fs s name b

theorem unnamed_of_find (c : Command) (found : find fs s name = some c) (other : ∀ b, c ≠ .builtin b) (b : Builtin) :
    b.name ≠ name := by
  intro named
  rw [find_named fs s name b named] at found
  cases found
  exact other b rfl

theorem find_script_iff (path : Text) :
    find fs s name = some (.script path) ↔ (∀ b : Builtin, b.name ≠ name) ∧ IsScript fs s name path := by
  constructor
  · intro found
    have unnamed := unnamed_of_find fs s name _ found nofun
    rw [find_unnamed fs s name unnamed] at found
    rcases Option.or_eq_some_iff.1 found with script | ⟨_, program⟩
    · exact ⟨unnamed, (script_iff fs s name path).1 script⟩
    · obtain ⟨_, same⟩ := program_kind fs s name _ program
      cases same
  · rintro ⟨unnamed, isScript⟩
    rw [find_unnamed fs s name unnamed, (script_iff fs s name path).2 isScript]
    rfl

theorem find_program_iff (path : Text) :
    find fs s name = some (.program path) ↔
      (∀ b : Builtin, b.name ≠ name) ∧ (∀ p, ¬ IsScript fs s name p) ∧ IsProgram fs s name path := by
  constructor
  · intro found
    have unnamed := unnamed_of_find fs s name _ found nofun
    rw [find_unnamed fs s name unnamed] at found
    rcases Option.or_eq_some_iff.1 found with script | ⟨none, program⟩
    · obtain ⟨_, same⟩ := script_kind fs s name _ script
      cases same
    · refine ⟨unnamed, fun p isScript => ?_, (program_iff fs s name path).1 program⟩
      rw [(script_iff fs s name p).2 isScript] at none
      cases none
  · rintro ⟨unnamed, no, isProgram⟩
    rw [find_unnamed fs s name unnamed, script_none fs s name no, (program_iff fs s name path).2 isProgram]
    rfl

end Find

theorem FoundFirst.file (fs : FileSystem) (name : Text) (directories : List Text) (path : Text)
    (found : FoundFirst fs name directories path) : fs.isFile path = true := by
  obtain ⟨_, _, _, _, _, file, _⟩ := found
  exact file

theorem IsProgram.file (fs : FileSystem) (s : Session) (name path : Text) (isProgram : IsProgram fs s name path) :
    fs.isFile path = true := by
  cases isProgram with
  | absolute _ file => exact file
  | searched _ _ _ _ _ _ _ _ found => exact found.file
  | relative _ _ _ file => exact file

end Command

def Session.extendPath (s : Session) (more : Text) : Session :=
  { s with bindings := s.bindings.insert "PATH".toList (s.bindings.value "PATH".toList ++ ':' :: more) }

def Session.extendScripts (s : Session) (more : List Text) : Session := { s with scriptPaths := s.scriptPaths ++ more }

theorem Session.extend_path_value (s : Session) (more : Text) :
    (s.extendPath more).bindings.value "PATH".toList = s.bindings.value "PATH".toList ++ ':' :: more := by
  rw [extendPath, Variables.value, Variables.get?_insert, if_pos rfl]
  rfl

namespace Command

section Extend

variable (fs : FileSystem) (s : Session) (name : Text)

theorem program_append (entries more : List Text) (directory path : Text)
    (found : fs.program? entries directory name = some path) :
    fs.program? (entries ++ more) directory name = some path := by
  rw [FileSystem.program?] at found ⊢
  by_cases leads : Path.isAbsolute name = true
  · rw [if_pos leads] at found ⊢
    exact found
  · rw [if_neg leads] at found ⊢
    split at found
    · cases found
    · rw [in_directories_append, found]
      rfl
    · exact found

theorem program_extend_path (more : Text) (c : Command) (found : program? fs s name = some c) :
    program? fs (s.extendPath more) name = some c := by
  obtain ⟨path, isProgram, rfl⟩ := Option.map_eq_some_iff.1 found
  rw [program?, Session.extend_path_value, Path.search_entries_append]
  exact Option.map_eq_some_iff.2 ⟨path, program_append fs name _ _ _ path isProgram, rfl⟩

theorem find_extend_path (more : Text) (c : Command) (found : find fs s name = some c) :
    find fs (s.extendPath more) name = some c := by
  have scripts : script? fs (s.extendPath more) name = script? fs s name := rfl
  by_cases named : ∃ b : Builtin, b.name = name
  · obtain ⟨b, same⟩ := named
    rw [find_named fs s name b same] at found
    rw [find_named fs (s.extendPath more) name b same, found]
  · have unnamed : ∀ b : Builtin, b.name ≠ name := fun b same => named ⟨b, same⟩
    rw [find_unnamed fs s name unnamed] at found
    rw [find_unnamed fs (s.extendPath more) name unnamed, scripts]
    rcases Option.or_eq_some_iff.1 found with script | ⟨none, program⟩
    · rw [script]
      rfl
    · rw [none]
      exact program_extend_path fs s name more c program

theorem script_extend_scripts (more : List Text) :
    ∃ further : Option Text, script? fs (s.extendScripts more) name = (script? fs s name).or (further.map script) := by
  by_cases empty : name.isEmpty = true
  · exact ⟨none, by simp [script?, empty]⟩
  · refine ⟨fs.inDirectories (scriptName name) more, ?_⟩
    rw [script?, script?, if_neg empty, if_neg empty, ← Option.map_or, ← in_directories_append]
    rfl

theorem find_extend_scripts (more : List Text) :
    find fs (s.extendScripts more) name = find fs s name ∨
      (∃ path, find fs (s.extendScripts more) name = some (.script path)) ∧
        (find fs s name = none ∨ ∃ path, find fs s name = some (.program path)) := by
  have programs : program? fs (s.extendScripts more) name = program? fs s name := rfl
  by_cases named : ∃ b : Builtin, b.name = name
  · obtain ⟨b, same⟩ := named
    rw [find_named fs s name b same, find_named fs (s.extendScripts more) name b same]
    exact .inl rfl
  · have unnamed : ∀ b : Builtin, b.name ≠ name := fun b same => named ⟨b, same⟩
    obtain ⟨further, scripts⟩ := script_extend_scripts fs s name more
    rw [find_unnamed fs s name unnamed, find_unnamed fs (s.extendScripts more) name unnamed, scripts, programs]
    cases first : script? fs s name with
    | some c => exact .inl rfl
    | none =>
        cases further with
        | none => exact .inl rfl
        | some path =>
            refine .inr ⟨⟨path, rfl⟩, ?_⟩
            cases program : program? fs s name with
            | none => exact .inl rfl
            | some c =>
                obtain ⟨found, rfl⟩ := program_kind fs s name c program
                exact .inr ⟨found, rfl⟩

end Extend

theorem command_resolution (fs : FileSystem) (s : Session) (name : Text) :
    (∀ b : Builtin, find fs s name = some (.builtin b) ↔ b.name = name) ∧
    (∀ path, find fs s name = some (.script path) ↔ (∀ b : Builtin, b.name ≠ name) ∧ IsScript fs s name path) ∧
    (∀ path, find fs s name = some (.program path) ↔
      (∀ b : Builtin, b.name ≠ name) ∧ (∀ p, ¬ IsScript fs s name p) ∧ IsProgram fs s name path) ∧
    find fs s [] = none ∧
    (∀ path, find fs s name = some (.script path) ∨ find fs s name = some (.program path) → fs.isFile path = true) ∧
    (∀ more c, find fs s name = some c → find fs (s.extendPath more) name = some c) ∧
    (∀ more c, find fs s name = some c → (∀ path, c ≠ .program path) → find fs (s.extendScripts more) name = some c) ∧
    (∀ more, find fs (s.extendScripts more) name = find fs s name ∨
      (∃ path, find fs (s.extendScripts more) name = some (.script path)) ∧
        (find fs s name = none ∨ ∃ path, find fs s name = some (.program path))) := by
  refine ⟨find_builtin_iff fs s name, find_script_iff fs s name, find_program_iff fs s name, rfl, ?_,
    find_extend_path fs s name, ?_, find_extend_scripts fs s name⟩
  · intro path found
    rcases found with script | program
    · obtain ⟨_, _, first⟩ := (find_script_iff fs s name path).1 script
      exact first.file
    · obtain ⟨_, _, isProgram⟩ := (find_program_iff fs s name path).1 program
      exact isProgram.file
  · intro more c found other
    rcases find_extend_scripts fs s name more with same | ⟨_, none | ⟨path, program⟩⟩
    · rw [same, found]
    · rw [none] at found
      cases found
    · rw [program] at found
      cases found
      exact absurd rfl (other path)

theorem command_resolution_ls :
    let fs : FileSystem :=
      { entries := [(["bin".toList], .directory), (["bin".toList, "ls".toList], .file [] true),
          (["opt".toList], .directory), (["opt".toList, "ls.kash".toList], .file [] false)] }
    let s := Session.start Calculator.eval (.ofList [("PATH".toList, "/bin".toList)]) "/".toList "/".toList
    (find fs s "ls".toList = some (.program "/bin/ls".toList) ∧ fs.isFile "/bin/ls".toList = true ∧
      find fs (s.extendPath "/opt".toList) "ls".toList = some (.program "/bin/ls".toList)) ∧
    find fs (s.extendScripts ["/opt".toList]) "ls".toList = some (.script "/opt/ls.kash".toList) ∧
    find fs s "echo".toList = some (.builtin .echo) ∧
      find fs (s.extendScripts ["/opt".toList]) "echo".toList = some (.builtin .echo) := by
  intro fs s
  have program : find fs s "ls".toList = some (.program "/bin/ls".toList) := rfl
  obtain ⟨_, _, _, _, file, path, _⟩ := command_resolution fs s "ls".toList
  obtain ⟨builtin, _, _, _, _, _, scripts, _⟩ := command_resolution fs s "echo".toList
  have echo := (builtin .echo).2 rfl
  exact ⟨⟨program, file _ (.inr program), path _ _ program⟩, rfl, echo, scripts _ _ echo nofun⟩

end Command

end CommandShell
