import CommandShell.Programs.Launch
import CommandShell.Execution.Line
import CommandShell.Proofs.Programs.Joining

set_option autoImplicit false

namespace CommandShell.Programs

variable (installed : Installed) (files : FileSystem)

-- The file at a path is a program, or names one that runs it, after so many interpreters.
inductive Loads : (interpreters : Nat) → (path name : Text) → List Text → Loaded → Prop where
  | program (path name : Text) (arguments : List Text) (place : Location) (content : Bytes) (program : Program)
      (located : files.locate path = .ok place) (runs : files.entry? place = some (.file content true))
      (known : installed.lookup place = some program) : Loads 0 path name arguments { program, name, arguments }
  | interpreter (n : Nat) (path name : Text) (arguments : List Text) (place : Location) (content : Bytes)
      (other : Text) (option : List Text) (loaded : Loaded) (located : files.locate path = .ok place)
      (runs : files.entry? place = some (.file content true)) (unknown : installed.lookup place = none)
      (line : interpreter? content = some (other, option)) (rest : Loads n other other (option ++ path :: arguments) loaded) :
      Loads (n + 1) path name arguments loaded

theorem load_ok_iff (times : Nat) (path name : Text) (arguments : List Text) (loaded : Loaded) :
    load installed files times path name arguments = .ok loaded ↔
      ∃ n < times, Loads installed files n path name arguments loaded := by
  induction times generalizing path name arguments with
  | zero =>
      constructor
      · intro never
        cases never
      · rintro ⟨n, never, _⟩
        cases never
  | succ times ih =>
      constructor
      · intro done
        rw [load] at done
        cases located : files.locate path with
        | error e =>
            rw [located] at done
            cases done
        | ok place =>
            rw [located] at done
            dsimp only at done
            split at done
            · rename_i content runs
              cases known : installed.lookup place with
              | some program =>
                  rw [known] at done
                  cases done
                  exact ⟨0, Nat.zero_lt_succ times, .program path name arguments place content program located runs known⟩
              | none =>
                  rw [known] at done
                  cases line : interpreter? content with
                  | none =>
                      rw [line] at done
                      cases done
                  | some pair =>
                      obtain ⟨other, option⟩ := pair
                      rw [line] at done
                      obtain ⟨n, below, rest⟩ := (ih other other (option ++ path :: arguments)).1 done
                      exact ⟨n + 1, Nat.succ_lt_succ below,
                        .interpreter n path name arguments place content other option loaded located runs known line rest⟩
            · cases done
      · rintro ⟨n, below, loads⟩
        cases loads with
        | program _ _ _ place content program located runs known =>
            rw [load, located]
            simp [runs, known]
        | interpreter n _ _ _ place content other option _ located runs unknown line rest =>
            rw [load, located]
            have later := (ih other other (option ++ path :: arguments)).2 ⟨n, Nat.lt_of_succ_lt_succ below, rest⟩
            simp [runs, unknown, line, later]

-- Nothing but the program itself can keep it from being started.
structure Startable (i : Invocation) (here : Location) : Prop where
  noNul : ∀ text ∈ i.texts, '\x00' ∉ text
  located : files.locate i.directory = .ok here
  isDirectory : files.entry? here = some .directory
  fits : isOversized i = false
  isPath : i.path.contains '/' = true

theorem start_ok (i : Invocation) (here : Location) (startable : Startable files i here) (n : Nat)
    (few : n ≤ maxInterpreters) (loaded : Loaded)
    (loads : Loads installed { files with here } n i.path i.name i.arguments loaded) (input : Bytes) :
    start installed files i input = .ok (loaded.program
      { files := { files with here }, name := loaded.name, arguments := loaded.arguments,
        environment := visible i.environment, streams := i.streams } input) := by
  have found : loadNamed installed { files with here } (visible i.environment) i = .ok loaded := by
    rw [loadNamed, if_pos startable.isPath]
    exact (load_ok_iff installed { files with here } (maxInterpreters + 1) i.path i.name i.arguments loaded).2
      ⟨n, Nat.lt_succ_of_le few, loads⟩
  have noNul : ¬ i.texts.any (·.contains '\x00') = true := by
    simpa using startable.noNul
  have isHere : ¬ files.entry? here ≠ some .directory := not_not_intro startable.isDirectory
  have fits : ¬ isOversized i = true := by simp [startable.fits]
  simp only [start, if_neg noNul, startable.located, if_neg fits]
  change (if files.entry? here ≠ some .directory then _ else _ : Except LaunchError Ending) = _
  rw [if_neg isHere]
  rw [found]
  rfl

theorem host_starts_cat (i : Invocation) (here : Location) (startable : Startable files i here) (content : Bytes)
    (located : FileSystem.locate { files with here } i.path = .ok (binary "cat"))
    (runs : files.entry? (binary "cat") = some (.file content true)) (input : Bytes) :
    host.launch files i input = .ok (Cat.program
      { files := { files with here }, name := i.name, arguments := i.arguments, environment := visible i.environment,
        streams := i.streams } input) :=
  start_ok (Programs.installed (launchWithin 31)) files i here startable 0 (Nat.zero_le _)
    { program := Cat.program, name := i.name, arguments := i.arguments }
    (.program i.path i.name i.arguments (binary "cat") content Cat.program located runs rfl) input

-- Behind a pipe the program does what the builtin of this name does.
theorem run_program_cat (w : World) (path : Text) (here : Location)
    (startable : Startable w.files (w.invocation path []) here) (content : Bytes)
    (located : FileSystem.locate { w.files with here } path = .ok (binary "cat"))
    (runs : w.files.entry? (binary "cat") = some (.file content true)) (i : Input) :
    w.runProgram host path [] (.input i) .capture = .ok ({ writes := [i.unread] }, w) := by
  have started := host_starts_cat w.files (w.invocation path []) here startable content located runs i.unread
  let p : Process :=
    { files := { w.files with here }, name := path, environment := visible (w.invocation path []).environment }
  let e := Cat.program p i.unread
  obtain ⟨output, code, _⟩ : e.output = i.unread ∧ e.code = 0 ∧ e.taken = i.unread.length :=
    Cat.program_passes p i.unread rfl rfl rfl rfl
  obtain ⟨kept, _, honest⟩ : e.files = p.files ∧ (e.code = 0 ∨ e.code = 1) ∧ (e.code = 1 ↔ e.errors ≠ []) :=
    Cat.program_honest p i.unread
  have silent : e.errors = [] := by
    by_contra said
    have failed := honest.2 said
    rw [code] at failed
    cases failed
  rw [World.runProgram]
  dsimp only
  rw [started]
  change Except.ok ((⟨e.code, [e.output], e.errors⟩ : Effect), w.withFiles e.files) = _
  rw [output, code, silent, kept]
  rfl

end CommandShell.Programs
