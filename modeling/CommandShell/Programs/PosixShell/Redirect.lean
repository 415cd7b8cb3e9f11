import CommandShell.Programs.PosixShell.Expansion

set_option autoImplicit false

namespace CommandShell.PosixShell

def describeAccess (missing : String) (e : FileError) : Text :=
  if e = .notFound ∨ e = .notADirectory then missing.toList else e.reason.1

namespace Shell

def addChannel (c : Channel) : Shell Nat := do
  let (number, system) := (← get).shared.system.add c
  modifySystem fun _ => system
  return number

def channelOf (fs : FileSystem) (place : Location) (access : Access) : Except FileError Channel :=
  match fs.entry? place with
  | some .directory => if access.writes then .error .isADirectory else .ok .directory
  | some .null => .ok .null
  | some (.file _ _) => .ok (.file place 0 access)
  | _ => .error .notFound

def accessOf : FileMode → Access
  | .read => { reads := true, writes := false }
  | .write | .overwrite => { reads := false, writes := true }
  | .append => { reads := false, writes := true, appends := true }
  | .readWrite => { reads := true, writes := true }

def openFile (mode : FileMode) (path : Text) : Shell (Except FileError Nat) := do
  let fs ← files
  let access := accessOf mode
  let name := Octets.text path
  match deviceDescriptor? path with
  | some fd => match (← own).descriptors.get? fd with
    | some number => return .ok number
    | none => return .error .notFound
  | none =>
    match fs.locate name with
    | .ok place =>
      match channelOf fs place access with
      | .error e => return .error e
      | .ok channel =>
        if mode = .write ∨ mode = .overwrite then
          modifySystem fun s => { s with files := s.files.setContent place [] }
        return .ok (← addChannel channel)
    | .error .notFound =>
      if !access.writes then return .error .notFound
      match fs.vacancy (FileSystem.maxLinks + 1) name with
      | .error e => return .error e
      | .ok place =>
        modifySystem fun s => { s with files := s.files.put place (.file [] false) }
        return .ok (← addChannel (.file place 0 access))
    | .error e => return .error e

def prepare (substitute : Substitute) : Redirection → Shell Prepared
  | .file fd mode path => do return .file fd mode (← expandText substitute .start path)
  | .document fd number => return .document fd number
  | .copy fd target => do
    match ← expandText substitute .start target with
    | ['-'] => return .copy fd none
    | [c] =>
      if c.isDigit then return .copy fd (some (c.toNat - '0'.toNat))
      else fail "Syntax error: Bad fd number".toList
    | _ => fail "Syntax error: Bad fd number".toList

def prepareAll (substitute : Substitute) : List Redirection → Shell (List Prepared)
  | [] => return []
  | r :: rest => do
    let first ← prepare substitute r
    return first :: (← prepareAll substitute rest)

def setDescriptor (fd number : Nat) : Shell Unit :=
  modifyOwn fun o => { o with descriptors := o.descriptors.set fd number }

def isProtected (mode : FileMode) (path : Text) : Shell Bool := do
  return mode = .write && (← own).has .noclobber && (← files).isFile (Octets.text path)

-- Leads a descriptor elsewhere. If it `closes` before another is copied to it, a complaint that would go
-- there is lost.
def apply (substitute : Substitute) (closes : Bool) : Prepared → Shell Unit
  | .file fd mode path => do
    let cause (missing : String) (e : FileError) : Text := path ++ ": ".toList ++ describeAccess missing e
    if ← isProtected mode path then fail ("cannot create ".toList ++ path ++ ": File exists".toList)
    match ← openFile mode path with
    | .ok number => setDescriptor fd number
    | .error e =>
      if mode = .read then fail ("cannot open ".toList ++ cause "No such file" e)
      else fail ("cannot create ".toList ++ cause "Directory nonexistent" e)
  | .copy fd none => modifyOwn fun o => { o with descriptors := o.descriptors.close fd }
  | .copy fd (some source) => do
    if fd = source then return
    match ← channelNumber? source with
    | some number => setDescriptor fd number
    | none =>
      if closes then modifyOwn fun o => { o with descriptors := o.descriptors.close fd }
      fail (Text.ofNat source ++ ": Bad file descriptor".toList)
  | .document fd number => do
    let pieces := ((← own).documents[number]?).getD []
    let text ← expandDocument substitute pieces
    setDescriptor fd (← addChannel (.pipe (Octets.bytes text) []))

-- Leads descriptors elsewhere. Those that are led back later are put away first, at the first time; `moved`
-- are those that have been.
def applyAll (substitute : Substitute) (leadsBack : Bool) : (moved : List Nat) → List Prepared → Shell Unit
  | _, [] => return
  | moved, p :: rest => do
    apply substitute (leadsBack && !moved.contains p.fd) p
    applyAll substitute leadsBack (p.fd :: moved) rest

def redirectSafely (substitute : Substitute) (prepared : List Prepared) : Shell Bool :=
  tryCatch (do applyAll substitute true [] prepared; return true) fun stop =>
    match stop with
    | .failed => return false
    | other => throw other

end Shell

end CommandShell.PosixShell
