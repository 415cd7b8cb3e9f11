import CommandShell.Programs.PosixShell.Fields
import CommandShell.Programs.PosixShell.Options

set_option autoImplicit false

namespace CommandShell.PosixShell

-- Parts of a line that is read. Characters after a backslash never separate fields.
structure LineRead where
  chunks : List Chunk := []
  taken : Nat := 0
  isCut : Bool := false

namespace LineRead

def add (l : LineRead) (c : Char) (isEscaped : Bool) : LineRead :=
  { l with chunks := ⟨[.char c isEscaped], if isEscaped then .nowhere else .atSeparators⟩ :: l.chunks }

def ofInput (isRaw : Bool) : (isEscaped : Bool) → LineRead → Bytes → LineRead
  | _, l, [] => { l with isCut := true }
  | isEscaped, l, b :: rest =>
    let l := { l with taken := l.taken + 1 }
    let c := Char.ofNat b.toNat
    if b = 0 then ofInput isRaw isEscaped l rest
    else if isEscaped then ofInput isRaw false (if c = '\n' then l else l.add c true) rest
    else if c = '\\' && !isRaw then ofInput isRaw true l rest
    else if c = '\n' then l
    else ofInput isRaw false (l.add c false) rest

def joined (l : LineRead) : List Chunk :=
  l.chunks.foldl (fun done chunk => match done with
    | next :: rest =>
      if next.splitting = chunk.splitting then ⟨chunk.glyphs ++ next.glyphs, next.splitting⟩ :: rest
      else chunk :: done
    | [] => [chunk]) []

end LineRead

namespace Shell

def variableLine (start name : Text) (v : Variable) : Text :=
  start ++ name ++ match v.value with
    | some value => '=' :: quoted value
    | none => []

def printVariables (start : Text) (p : Variable → Bool) : Shell Unit := do
  for (name, v) in (← own).bindings do
    if p v then printLine (variableLine start name v)

def markVariables (mark : Variable → Variable) : List Text → Shell Unit
  | [] => return
  | argument :: rest => do
    let (name, value) := argument.span (· ≠ '=')
    let o ← own
    if value.isEmpty && (o.entry? name).isSome then
      modifyOwn (·.setVariable name (mark ((o.entry? name).getD {})))
    else
      if !isName name then fail (name ++ ": bad variable name".toList)
      if !value.isEmpty then setValue name value.tail false
      modifyOwn fun o => o.setVariable name (mark ((o.entry? name).getD {}))
    markVariables mark rest

def markOrPrint (name : String) (isMarked : Variable → Bool) (mark : Variable → Variable)
    (arguments : List Text) : Shell Int := do
  let (given, arguments) ← options (Options.plain "p") arguments
  if given.isEmpty && !arguments.isEmpty then markVariables mark arguments
  else printVariables (name.toList ++ [' ']) isMarked
  return 0

def exportVariables : List Text → Shell Int :=
  markOrPrint "export" Variable.isExported fun v => { v with isExported := true }

def protectVariables : List Text → Shell Int :=
  markOrPrint "readonly" Variable.isReadOnly fun v => { v with isReadOnly := true }

def localize : List Text → Shell Unit
  | [] => return
  | ['-'] :: rest => do
    modifyOwn fun o => match o.saved with
      | scope :: others => { o with saved := (.switches o.switches :: scope) :: others }
      | [] => o
    localize rest
  | argument :: rest => do
    let (name, value) := argument.span (· ≠ '=')
    if value.isEmpty && !isName name then fail (name ++ ": bad variable name".toList)
    makeLocal name
    if !value.isEmpty then setValue name value.tail false
    localize rest

def localVariables (arguments : List Text) : Shell Int := do
  if (← own).saved.isEmpty then fail "not in a function".toList
  localize arguments
  return 0

def unsetEach (isFunction : Bool) : List Text → Shell Unit
  | [] => return
  | name :: rest => do
    if isFunction then
      modifyOwn fun o => { o with functions := o.functions.filter (·.1 ≠ name) }
    else if isName name then unsetVariable name
    else fail (name ++ ": bad variable name".toList)
    unsetEach isFunction rest

def unset (arguments : List Text) : Shell Int := do
  let (given, arguments) ← options (Options.plain "vf") arguments
  unsetEach ((given.getLast?.map Prod.fst) == some 'f') arguments
  return 0

def setArguments (arguments : List Text) : Shell Unit :=
  modifyOwn fun o => { o with arguments, optionIndex := 1, optionOffset := none }

def shift (arguments : List Text) : Shell Int := do
  let n ← match arguments with
    | [] => pure 1
    | text :: _ => number text
  let o ← own
  if o.arguments.length < n then fail "can't shift that many".toList
  setArguments (o.arguments.drop n.toNat)
  return 0

def turn (s : Switch) (isOn : Bool) : Shell Unit := modifyOwn fun o =>
  let rival := if s = .vi then some Switch.emacs else if s = .emacs then some Switch.vi else none
  let others := o.switches.filter fun other => other ≠ s && !(isOn && some other = rival)
  { o with switches := if isOn then s :: others else others }

def turnLetter (c : Char) (isOn : Bool) : Shell Unit := do
  match Switch.ofLetter? c with
  | some s => turn s isOn
  | none => fail ("Illegal option -".toList ++ [c])

def turnName (name : Text) (isOn : Bool) : Shell Unit := do
  match Switch.ofName? name with
  | some s => modifyOwn fun o =>
    let others := o.switches.filter (· ≠ s)
    { o with switches := if isOn then s :: others else others }
  | none => fail ("Illegal option -o ".toList ++ name)

def printSwitches (isReadable : Bool) : Shell Unit := do
  if isReadable then printLine "Current option settings".toList
  let o ← own
  for (s, name, _) in Switch.table do
    let name := name.toList
    printLine <|
      if isReadable then
        name ++ List.replicate (16 - name.length) ' ' ++ (if o.has s then "on" else "off").toList
      else "set ".toList ++ (if o.has s then "-o " else "+o ").toList ++ name

def turnCluster (isOn : Bool) : Text → List Text → Shell (List Text)
  | [], rest => return rest
  | 'o' :: letters, rest => do
    match rest with
    | [] => printSwitches isOn
    | name :: _ => turnName name isOn
    turnCluster isOn letters rest.tail
  | c :: letters, rest => do
    turnLetter c isOn
    turnCluster isOn letters rest

def turnSwitches : (count : Nat) → List Text → Shell (Option (List Text))
  | 0, _ => return none
  | count + 1, arguments => do
    match arguments with
    | [] => return none
    | ['-', '-'] :: rest => return some rest
    | ['-'] :: rest =>
      turn .xtrace false
      turn .verbose false
      return if rest.isEmpty then none else some rest
    | ('-' :: letters) :: rest => do turnSwitches count (← turnCluster true letters rest)
    | ('+' :: letters) :: rest => do turnSwitches count (← turnCluster false letters rest)
    | _ => return some arguments

def setParameters (arguments : List Text) : Shell Int := do
  if arguments.isEmpty then printVariables [] (·.value.isSome)
  else match ← turnSwitches (arguments.length + 1) arguments with
    | some arguments => setArguments arguments
    | none => pure ()
  return 0

structure OptionStep where
  letter : Char := '?'
  argument : Option Text := none
  complaint : Option Text := none
  index : Nat
  offset : Option Nat := none
  isDone : Bool := false

def declared? (letter : Char) : Text → Option Bool
  | [] => none
  | c :: rest =>
    let hasArgument := rest.head? == some ':'
    if c = letter then some hasArgument
    else declared? letter (if hasArgument then rest.tail else rest)
termination_by text => text.length
decreasing_by
  simp only [List.length_cons]
  split
  · rw [List.length_tail]; omega
  · omega

def nextOption (letters : Text) (arguments : List Text) (index : Nat) (offset : Option Nat) : OptionStep :=
  let isQuiet := letters.head? = some ':'
  let inside : Text := match offset with
    | some n => if 1 < index then (arguments[index - 2]?.getD []).drop n else []
    | none => []
  let start : Option (Text × Nat) :=
    if !inside.isEmpty then some (inside, index)
    else match arguments[index - 1]? with
      | some ('-' :: c :: rest) => some (c :: rest, index + 1)
      | _ => none
  match start with
  | none => { index, isDone := true }
  | some (cluster, next) =>
    if inside.isEmpty && cluster = ['-'] then { index := next, isDone := true }
    else
      let letter := cluster.head?.getD '?'
      let rest := cluster.tail
      let whole := (arguments[next - 2]?.getD []).length
      let offset := some (whole - rest.length)
      match declared? letter letters with
      | none =>
        if isQuiet then { argument := some [letter], index := next, offset }
        else { complaint := some ("Illegal option -".toList ++ [letter]), index := next, offset }
      | some false => { letter, argument := some [], index := next, offset }
      | some true =>
        if !rest.isEmpty then { letter, argument := some rest, index := next }
        else match arguments[next - 1]? with
          | some argument => { letter, argument := some argument, index := next + 1 }
          | none =>
            if isQuiet then { letter := ':', argument := some [letter], index := next }
            else { complaint := some ("No arg for -".toList ++ letter :: " option".toList), index := next }

def getopts (arguments : List Text) : Shell Int := do
  match (← options [] arguments).2 with
  | letters :: name :: rest =>
    let o ← own
    let whole := if rest.isEmpty then o.arguments else rest
    let isLost := whole.length + 1 < o.optionIndex
    let step := nextOption letters whole (if isLost then 1 else o.optionIndex)
      (if isLost then none else o.optionOffset)
    match step.complaint with
    | some complaint =>
      writeErrors (complaint ++ ['\n'])
      unsetVariable "OPTARG".toList
    | none => pure ()
    match step.argument with
    | some argument => setValue "OPTARG".toList argument false
    | none => pure ()
    setValue "OPTIND".toList (Text.ofNat step.index) false
    setValue name [step.letter] false
    modifyOwn fun o => { o with optionIndex := step.index, optionOffset := step.offset }
    return if step.isDone then 1 else 0
  | _ => fail "Usage: getopts optstring var [arg...]".toList

def setFields : List Text → List (List Glyph) → Shell Unit
  | [], _ => return
  | name :: rest, fields => do
    setValue name (Glyph.text (fields.head?.getD [])) false
    setFields rest fields.tail

def read (arguments : List Text) : Shell Int := do
  let (given, names) ← options [('p', true), ('r', false)] arguments
  if names.isEmpty then fail "arg count".toList
  let isRaw := given.any (·.1 = 'r')
  let number? ← channelNumber? 0
  let system := (← get).shared.system
  let input := (number?.map fun number => (system.unread number).toOption.getD []).getD []
  let line := LineRead.ofInput isRaw false {} input
  match number? with
  | some number => modifySystem (·.consume number line.taken)
  | none => pure ()
  let o ← own
  setFields names (Fields.split o.separators (some names.length) line.joined)
  return if line.isCut then 1 else 0

end Shell

end CommandShell.PosixShell
