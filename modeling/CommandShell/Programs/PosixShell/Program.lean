import CommandShell.Programs.Basic
import CommandShell.Programs.PosixShell.Run

set_option autoImplicit false

namespace CommandShell.PosixShell

inductive Origin where
  | input
  | file (path : Text)
  | text (commands : Text) (thenInput : Bool)
deriving DecidableEq, Repr

structure Request where
  turned : List (Switch × Bool) := []
  isText : Bool := false
  rest : List Text := []

abbrev RequestFault := Text

namespace Request

def isOn (q : Request) (s : Switch) : Bool := (q.turned.lookup s).getD false

def turn (q : Request) (s : Switch) (isOn : Bool) : Request := { q with turned := (s, isOn) :: q.turned }

-- All switches with whether they are on. Those that have not been decided on count as on.
def listing (q : Request) (isReadable : Bool) : Text :=
  let line (s : Switch) (name : Text) : Text :=
    let isOn := (q.turned.lookup s).getD true
    if isReadable then
      name ++ List.replicate (16 - name.length) ' ' ++ (if isOn then "on\n" else "off\n").toList
    else "set ".toList ++ (if isOn then "-o " else "+o ").toList ++ name ++ ['\n']
  (if isReadable then "Current option settings\n".toList else []) ++
    Switch.table.flatMap fun (s, name, _) => line s name.toList

def ofCluster (isOn : Bool) (q : Request) : Text → Except RequestFault (Request × Text)
  | [] => .ok (q, [])
  | 'c' :: letters => ofCluster isOn { q with isText := true } letters
  | 'l' :: letters => ofCluster isOn q letters
  | 'o' :: letters => do
    match q.rest with
    | [] =>
      let (after, shown) ← ofCluster isOn q letters
      return (after, q.listing isOn ++ shown)
    | name :: rest => match Switch.ofName? name with
      | some s => ofCluster isOn { q.turn s isOn with rest } letters
      | none => throw ("Illegal option -o ".toList ++ name)
  | c :: letters => match Switch.ofLetter? c with
    | some s => ofCluster isOn (q.turn s isOn) letters
    | none => .error ("Illegal option -".toList ++ [c])

def ofArguments : (count : Nat) → Request → List Text → Except RequestFault (Request × Text)
  | 0, q, rest => .ok ({ q with rest }, [])
  | count + 1, q, arguments =>
    let cluster (isOn : Bool) (letters : Text) (rest : List Text) : Except RequestFault (Request × Text) := do
      let (q, shown) ← ofCluster isOn { q with rest } letters
      let (q, more) ← ofArguments count q q.rest
      return (q, shown ++ more)
    match arguments with
    | ['-'] :: rest => .ok ({ q with rest }, [])
    | ['-', '-'] :: rest => .ok ({ q with rest }, [])
    | ('-' :: letters) :: rest => cluster true letters rest
    | ('+' :: letters) :: rest => cluster false letters rest
    | _ => .ok ({ q with rest := arguments }, [])

def origin (q : Request) : Except RequestFault (Origin × Option Text × List Text) :=
  match q.isText, q.rest with
  | true, [] => .error "-c requires an argument".toList
  | true, commands :: rest => .ok (.text commands (q.isOn .stdin), rest.head?, rest.tail)
  | false, [] => .ok (.input, none, [])
  | false, first :: rest =>
    if q.isOn .stdin then .ok (.input, none, q.rest) else .ok (.file first, some first, rest)

end Request

def initialVariables : List (Text × Text) :=
  [("IFS", " \t\n"), ("OPTIND", "1"), ("PATH", String.ofList standardPath), ("PS1", "# "), ("PS2", "> "),
   ("PS4", "+ ")].map fun (name, value) => (name.toList, value.toList)

-- The variables of a shell. What would change how words are read is not taken from the environment.
def variablesFor (environment : List (Text × Text)) : List (Text × Variable) :=
  let set (value : Text) (isExported : Bool) (bindings : List (Text × Variable)) (name : Text) :=
    let before := (bindings.lookup name).getD {}
    Own.insertVariable name { before with value := some value, isExported := before.isExported || isExported }
      bindings
  let initial := initialVariables.foldl (fun all (name, value) => set value false all name) []
  let named := environment.filter fun (name, _) => isName name
  let imported := named.foldl (fun all (name, value) => set value true all name) initial
  let fixed := ["IFS", "OPTIND"].map String.toList
  let reset := initialVariables.filter fun (name, _) => fixed.contains name
  let all := reset.foldl (fun all (name, value) => set value false all name) imported
  set "1".toList false all "PPID".toList

def directoryFor (fs : FileSystem) (environment : List (Text × Text)) : Text :=
  let told := (environment.lookup "PWD".toList).getD []
  let isRight := Path.isAbsolute told && (fs.locate (Octets.text told)).toOption == some fs.here
  if isRight then told else Octets.ofText fs.here.path

def Own.start (p : Process) : Own :=
  let environment := p.environment.entries.map fun (name, value) => (Octets.ofText name, Octets.ofText value)
  let directory := directoryFor p.files environment
  let bindings := variablesFor environment
  let before := (bindings.lookup "PWD".toList).getD {}
  { name := Octets.ofText p.name
    bindings := Own.insertVariable "PWD".toList { before with value := some directory, isExported := true }
      bindings
    descriptors :=
      (if p.streams.input.isClosed then [] else [(0, 0)]) ++
        (if p.streams.output.isClosed then [] else [(1, 1)]) ++ [(2, 2)]
    here := p.files.here
    directory
    process := mainProcess }

def Shared.start (p : Process) (input : Bytes) : Shared where
  system := {
    files := p.files
    input
    streams := p.streams
    channels := #[.input, .stream .output, .stream .errors] }
  nextProcess := mainProcess + 1

namespace Runner

open Shell

def takeInput : Shell Text := do
  match ← channelNumber? 0 with
  | none => return []
  | some number =>
    let data := ((← get).shared.system.unread number).toOption.getD []
    modifySystem (·.consume number data.length)
    return (Octets.ofBytes data).filter (· ≠ '\x00')

def turnSwitches (q : Request) : Shell Unit := do
  let chosen := (Switch.table.map fun (s, _) => s).filter q.isOn
  modifyOwn fun o => { o with switches := chosen }
  if q.isOn .interactive && (q.turned.lookup .monitor).getD true then
    complain "can't access tty; job control turned off".toList

def runOrigin (r : Runner) (q : Request) : Shell Unit := do
  match q.origin with
  | .error fault => fail fault
  | .ok (origin, name, arguments) =>
    let setArguments : Shell Unit := do
      modifyOwn fun o => { o with name := name.getD o.name, arguments }
      turnSwitches q
    match origin with
    | .text commands thenInput =>
      setArguments
      let _ ← r.runText {} commands
      if thenInput then discard <| r.runFile (← takeInput)
    | .file path =>
      let text ← readCommands path
      setArguments
      discard <| r.runFile text
    | .input =>
      setArguments
      modifyOwn fun o => { o with switches := .stdin :: o.switches.filter (· ≠ .stdin) }
      discard <| r.runFile (← takeInput)

def runArguments (r : Runner) (arguments : List Text) : Shell Unit := do
  match Request.ofArguments (arguments.length + 1) {} arguments with
  | .error fault => fail fault
  | .ok (q, shown) =>
    print shown
    flush
    r.runOrigin q

end Runner

def program (launch : Launcher) : Program := fun p input =>
  let r := Runner.within launch Runner.maxDepth
  let start : State := { own := .start p, shared := .start p input }
  let whole : StateM State Death := do
    let death ← r.runToEnd (r.runArguments (p.arguments.map Octets.ofText))
    r.runJobs maxRounds
    return death
  let (death, state) := whole.run start
  let system := state.shared.system
  { files := { system.files with here := p.files.here }
    code := death.code
    signal := death.signal
    writes := system.writes.reverse
    taken := system.taken }

end CommandShell.PosixShell
