import CommandShell.Programs.PosixShell.Lookup
import CommandShell.Programs.PosixShell.Options

set_option autoImplicit false

namespace CommandShell.PosixShell

def byBucket {α : Type} (count : Nat) (key : Text → Nat) (entries : List (Text × α)) : List (Text × α) :=
  (List.range count).flatMap fun bucket => entries.filter fun (name, _) => key name % count = bucket

def nameKey (name : Text) : Nat :=
  name.foldl (fun n c => n + c.toNat) ((name.head?.map Char.toNat).getD 0 * 16)

namespace Shell

def aliasLine (name value : Text) : Text := name ++ '=' :: quoted value

def setAlias (name value : Text) : Shell Unit := modifyOwn fun o =>
  { o with aliases :=
      if (o.aliases.lookup name).isSome then
        o.aliases.map fun (other, before) => (other, if other = name then value else before)
      else o.aliases ++ [(name, value)] }

def aliasBuckets : Nat := 39

def aliasEach : List Text → (status : Int) → Shell Int
  | [], status => return status
  | argument :: rest, status => do
    let (name, value) := (argument.drop 1).span (· ≠ '=')
    match value with
    | _ :: value =>
      setAlias (argument.take 1 ++ name) value
      aliasEach rest status
    | [] => match (← own).aliases.lookup argument with
      | some value =>
        printLine (aliasLine argument value)
        aliasEach rest status
      | none =>
        writeErrors ("alias: ".toList ++ argument ++ " not found\n".toList)
        aliasEach rest 1

def aliases (arguments : List Text) : Shell Int := do
  if arguments.isEmpty then
    for (name, value) in byBucket aliasBuckets nameKey (← own).aliases do
      printLine (aliasLine name value)
    return 0
  else aliasEach arguments 0

def unaliasEach : List Text → (status : Int) → Shell Int
  | [], status => return status
  | name :: rest, status => do
    if ((← own).aliases.lookup name).isSome then
      modifyOwn fun o => { o with aliases := o.aliases.filter (·.1 ≠ name) }
      unaliasEach rest status
    else
      writeErrors ("unalias: ".toList ++ name ++ " not found\n".toList)
      unaliasEach rest 1

def unsetAliases (arguments : List Text) : Shell Int := do
  let (given, arguments) ← options (Options.plain "a") arguments
  if given.isEmpty then unaliasEach arguments 0
  else
    modifyOwn fun o => { o with aliases := [] }
    return 0

def describedMeaning (mode : LookupMode) (name : Text) : Shell (Meaning × Bool) := do
  let o ← own
  let remembered? := if mode.searchPath.isSome then none else o.found.lookup name
  match remembered?, o.functions.lookup name with
  | some known, none => return (.program (some known.index), true)
  | _, _ =>
    if name.contains '/' then
      let isThere := ((← files).open? (Octets.text name)).toBool
      return (if isThere then .program none else .unknown .notFound, false)
    return (← meaning mode name, false)

def programPath (mode : LookupMode) (name : Text) : Option Nat → Shell Text
  | none => return name
  | some index => do return pathIn (((← places mode.searchPath)[index]?).getD []) name

def describe (mode : LookupMode) (isLong : Bool) (name : Text) : Shell Int := do
  let say (long : Text) (short : Text) : Shell Int := do
    printLine (if isLong then name ++ long else short)
    return 0
  match Keyword.table.lookup name, (← own).aliases.lookup name with
  | some _, _ => say " is a shell keyword".toList name
  | none, some value => say (" is an alias for ".toList ++ value) ("alias ".toList ++ aliasLine name value)
  | none, none =>
    let (found, isRemembered) ← describedMeaning mode name
    match found with
    | .function _ => say " is a shell function".toList name
    | .utility u =>
      say (if u.isSpecial then " is a special shell builtin" else " is a shell builtin").toList name
    | .program index =>
      let path ← programPath mode name index
      say ((if isRemembered then " is a tracked alias for " else " is ").toList ++ path) path
    | .unknown _ =>
      if isLong then printLine (name ++ ": not found".toList)
      return 127

def describeEach : List Text → (status : Int) → Shell Int
  | [], status => return status
  | name :: rest, status => do
    let result ← describe {} true name
    describeEach rest (if result = 0 then status else result)

def command (arguments : List Text) : Shell Int := do
  let (given, arguments) ← options (Options.plain "pvV") arguments
  let isLong := given.any (·.1 = 'V')
  let mode : LookupMode := { searchPath := if given.any (·.1 = 'p') then some standardPath else none }
  match arguments with
  | name :: _ => if isLong || given.any (·.1 = 'v') then describe mode isLong name else return 0
  | [] => return 0

def commandBuckets : Nat := 31

def hashEach : List Text → (status : Int) → Shell Int
  | [], status => return status
  | name :: rest, status => do
    forget name
    match ← meaning {} name with
    | .unknown cause =>
      complain (name ++ ": ".toList ++ describeExec cause)
      hashEach rest 1
    | _ => hashEach rest status

def hash (arguments : List Text) : Shell Int := do
  let (given, arguments) ← options (Options.plain "r") arguments
  if !given.isEmpty then
    modifyOwn fun o => { o with found := [] }
    return 0
  if arguments.isEmpty then
    for (name, known) in byBucket commandBuckets nameKey (← own).found do
      printLine ((← programPath {} name (some known.index)) ++ if known.isStale then ['*'] else [])
    return 0
  hashEach arguments 0

end Shell

end CommandShell.PosixShell
