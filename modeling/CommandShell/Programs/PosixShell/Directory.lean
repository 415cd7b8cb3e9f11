import CommandShell.Programs.PosixShell.Options

set_option autoImplicit false

namespace CommandShell.PosixShell

namespace Directory

def step (path : List Text) (name : Text) : List Text :=
  if name = ['.', '.'] then path.dropLast
  else if name = ['.'] then path
  else path ++ [name]

def startsDouble (path : Text) : Bool :=
  path.take 2 == ['/', '/'] && path[2]? != some '/'

def along (directory path : Text) : Text :=
  let whole := if Path.isAbsolute path then path else directory ++ '/' :: path
  let front := if startsDouble (if Path.isAbsolute path then path else directory) then ['/', '/'] else ['/']
  front ++ Text.join ['/'] ((Path.parts whole).foldl step [])

def isRooted (path : Text) : Bool :=
  Path.isAbsolute path || path == ['.'] || path == ['.', '.'] || "./".toList.isPrefixOf path ||
    "../".toList.isPrefixOf path

end Directory

namespace Shell

def isPhysical (given : List Options.Given) : Bool :=
  (given.getLast?.map Prod.fst) == some 'P'

def setDirectory (path : Option Text) (keepsOld : Bool) : Shell Unit := do
  let o ← own
  if keepsOld then setValue "OLDPWD".toList o.directory true
  let directory := path.getD (Octets.ofText o.here.path)
  modifyOwn fun o => { o with directory }
  setValue "PWD".toList directory true

def moveTo (path : Text) (physical : Bool) : Shell Bool := do
  let o ← own
  let target := if physical then path else Directory.along o.directory path
  let fs ← files
  match fs.locate (Octets.text target) with
  | .error _ => return false
  | .ok place =>
    if fs.entry? place ≠ some .directory then return false
    modifyOwn fun o => { o with here := place }
    setDirectory (if physical then none else some target) true
    modifyOwn fun o => { o with
      found := o.found.map fun (name, known) => (name, { known with isStale := true }) }
    return true

def findDirectory (fs : FileSystem) (path : Text) : List Text → Option (Text × Bool)
  | [] => none
  | place :: rest =>
    let whole := if place.isEmpty then path else place ++ '/' :: path
    if fs.isDirectory (Octets.text whole) then some (whole, !place.isEmpty) else findDirectory fs path rest

def changeDirectory (arguments : List Text) : Shell Int := do
  let (given, arguments) ← options (Options.plain "LP") arguments
  let o ← own
  let (path, shows) := match arguments.head? with
    | none => (o.value "HOME".toList, false)
    | some ['-'] => (o.value "OLDPWD".toList, true)
    | some path => (path, false)
  let shown := if path.isEmpty then ['.'] else path
  let fs ← files
  let places := if Directory.isRooted path then none else o.value? "CDPATH".toList
  let found? := places.bind fun places => findDirectory fs shown (Text.splitAt ':' places)
  let (target, alsoShows) := found?.getD (shown, false)
  if !(← moveTo target (isPhysical given)) then fail ("can't cd to ".toList ++ shown)
  if shows || alsoShows then printLine (← own).directory
  return 0

def workingDirectory (arguments : List Text) : Shell Int := do
  let (given, _) ← options (Options.plain "LP") arguments
  let o ← own
  printLine (if isPhysical given then Octets.ofText o.here.path else o.directory)
  return 0

def permissionLetters (bits : Nat) : Text :=
  (if bits.testBit 2 then ['r'] else []) ++ (if bits.testBit 1 then ['w'] else []) ++
    if bits.testBit 0 then ['x'] else []

def allBits : Nat := 0x1FF

def permissionText (bits : Nat) : Text :=
  "u=".toList ++ permissionLetters (bits / 64) ++ ",g=".toList ++ permissionLetters (bits / 8 % 8) ++
    ",o=".toList ++ permissionLetters (bits % 8)

def classBits? (c : Char) : Option Nat :=
  [('u', 0o700), ('g', 0o070), ('o', 0o007), ('a', 0o777)].lookup c

-- The bits that a letter of a permission gives to everyone; a class gives what it has itself.
def grantedBits? (bits : Nat) (c : Char) : Option Nat :=
  match c with
  | 'r' => some 0o444
  | 'w' => some 0o222
  | 'x' => some 0o111
  | 'X' => some (if bits &&& 0o111 = 0 then 0 else 0o111)
  | 's' | 't' => some 0
  | 'u' => some (bits / 64 * 0o111)
  | 'g' => some (bits / 8 % 8 * 0o111)
  | 'o' => some (bits % 8 * 0o111)
  | _ => none

def applyActions (who : Nat) : (length : Nat) → (bits : Nat) → Text → Option Nat
  | 0, bits, _ => some bits
  | _ + 1, bits, [] => some bits
  | length + 1, bits, action :: rest => do
    let (letters, rest) := rest.span fun c => !"+-=".toList.contains c
    let granted ← letters.foldlM (fun all c => (grantedBits? bits c).map (all ||| ·)) 0
    let chosen := granted &&& who
    let bits ← match action with
      | '+' => some (bits ||| chosen)
      | '-' => some (bits - (bits &&& chosen))
      | '=' => some ((bits - (bits &&& who)) ||| chosen)
      | _ => none
    applyActions who length bits rest

def applyClause (bits : Nat) (clause : Text) : Option Nat := do
  let (classes, actions) := clause.span fun c => (classBits? c).isSome
  if actions.isEmpty then none
  let who := classes.foldl (fun all c => all ||| (classBits? c).getD 0) 0
  applyActions (if classes.isEmpty then allBits else who) actions.length bits actions

def mask (arguments : List Text) : Shell Int := do
  let (given, arguments) ← options (Options.plain "S") arguments
  let before := (← own).mask
  match arguments with
  | [] =>
    let octal := Nat.toDigits 8 before
    printLine <|
      if given.isEmpty then List.replicate (4 - octal.length) '0' ++ octal
      else permissionText (allBits - before)
    return 0
  | text :: _ =>
    if (text.head?.map Char.isDigit).getD false then
      if !text.all fun c => '0' ≤ c && c ≤ '7' then failNumber text
      let value := text.foldl (fun n c => n * 8 + (c.toNat - '0'.toNat)) 0
      modifyOwn fun o => { o with mask := value % (allBits + 1) }
    else
      match (Text.splitAt ',' text).foldlM applyClause (allBits - before) with
      | some bits => modifyOwn fun o => { o with mask := allBits - bits }
      | none => fail ("Illegal mode: ".toList ++ text)
    return 0

end Shell

end CommandShell.PosixShell
