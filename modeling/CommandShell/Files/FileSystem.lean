import CommandShell.Text.Utf8
import CommandShell.Files.Path

set_option autoImplicit false

namespace CommandShell

inductive FileError where
  | notFound
  -- The rights to read, write and search are not modelled: no operation on files yields this, only starting a program.
  | permissionDenied
  | notADirectory
  | isADirectory
  | nameTooLong
  | tooManyLinks
  | nulInName
  | notUtf8
  | badDescriptor
deriving DecidableEq, Repr

namespace FileError

def reason : FileError → Text × Option Nat
  | notFound => ("No such file or directory".toList, some 2)
  | permissionDenied => ("Permission denied".toList, some 13)
  | notADirectory => ("Not a directory".toList, some 20)
  | isADirectory => ("Is a directory".toList, some 21)
  | nameTooLong => ("File name too long".toList, some 36)
  | tooManyLinks => ("Too many levels of symbolic links".toList, some 40)
  | nulInName => ("file name contained an unexpected NUL byte".toList, none)
  | notUtf8 => ("stream did not contain valid UTF-8".toList, none)
  | badDescriptor => ("Bad file descriptor".toList, some 9)

def describe : Text × Option Nat → Text
  | (text, some number) => text ++ " (os error ".toList ++ Text.ofNat number ++ [')']
  | (text, none) => text

def message (e : FileError) : Text := describe e.reason

end FileError

abbrev Location := List Text

namespace Location

def path : Location → Text
  | [] => ['/']
  | names => names.flatMap ('/' :: ·)

end Location

inductive Entry where
  | file (content : Bytes) (executable : Bool)
  | directory
  | link (target : Text)
  -- A device that is always empty and keeps nothing.
  | null
deriving DecidableEq, Repr

namespace Entry

-- Opening a directory succeeds; reading it does not.
def read : Entry → Except FileError Bytes
  | file content _ => .ok content
  | directory => .error .isADirectory
  | link _ => .error .notFound
  | null => .ok []

end Entry

structure FileSystem where
  -- A directory is listed in this order, which is any.
  entries : List (Location × Entry) := []
  here : Location := []
  once : (entries.map Prod.fst).Nodup := by decide
  named : ∀ loc ∈ entries.map Prod.fst, ∀ name ∈ loc, '/' ∉ name := by decide

namespace FileSystem

def maxNameBytes : Nat := 255

def maxPathBytes : Nat := 4095

def maxLinks : Nat := 40

def entry? (fs : FileSystem) (loc : Location) : Option Entry :=
  if loc = [] then some .directory else fs.entries.lookup loc

inductive Reach where
  | arrived (loc : Location)
  | link (directory : Location) (target : Text) (rest : List Text)

def descend (fs : FileSystem) (loc : Location) : List Text → Except FileError Reach
  | [] => .ok (.arrived loc)
  | name :: rest =>
    if fs.entry? loc ≠ some .directory then .error .notADirectory
    else if name = ['.'] then fs.descend loc rest
    else if name = ['.', '.'] then fs.descend loc.dropLast rest
    else if maxNameBytes < Text.byteLength name then .error .nameTooLong
    else match fs.entry? (loc ++ [name]) with
      | none => .error .notFound
      | some (.link target) => .ok (.link loc target rest)
      | some _ => fs.descend (loc ++ [name]) rest

-- The names to walk along for `path`; a final separator asks for a directory.
def steps (path : Text) : List Text :=
  Path.parts path ++ if path.getLast? = some '/' then [['.']] else []

def follow (fs : FileSystem) (links : Nat) (loc : Location) (names : List Text) :
    Except FileError Location :=
  match fs.descend loc names with
  | .error e => .error e
  | .ok (.arrived loc) => .ok loc
  | .ok (.link directory target rest) =>
    match links with
    | 0 => .error .tooManyLinks
    | links + 1 => fs.follow links (if Path.isAbsolute target then [] else directory) (steps target ++ rest)

def resolve (fs : FileSystem) (path : Text) : Except FileError Location :=
  if path.contains '\x00' then .error .nulInName
  else if path.isEmpty then .error .notFound
  else fs.follow maxLinks (if Path.isAbsolute path then [] else fs.here) (steps path)

-- The location that a path handed to the system names; such a path has a limited length.
def locate (fs : FileSystem) (path : Text) : Except FileError Location :=
  if !path.contains '\x00' && maxPathBytes < Text.byteLength path then .error .nameTooLong
  else fs.resolve path

def open? (fs : FileSystem) (path : Text) : Except FileError Entry := do
  let loc ← fs.locate path
  return (fs.entry? loc).getD .directory

-- The absolute path of what `path` names, free of links, `.` and `..`. It is found name by name, so the
-- length of `path` does not matter.
def canonical (fs : FileSystem) (path : Text) : Except FileError Text := do
  return (← fs.resolve path).path

-- The location of a file to be made at `path`, in a directory that exists. A link that leads nowhere says
-- where.
def vacancy (fs : FileSystem) : (links : Nat) → (path : Text) → Except FileError Location
  | 0, _ => .error .tooManyLinks
  | links + 1, path => do
    if path.isEmpty then throw .notFound
    let (name, above) := path.reverse.span (· ≠ '/')
    if name.isEmpty then throw .isADirectory
    let up ← fs.locate (if above.isEmpty then ['.'] else above.reverse)
    if fs.entry? up ≠ some .directory then throw .notADirectory
    if maxNameBytes < Text.byteLength name then throw .nameTooLong
    match fs.entry? (up ++ [name.reverse]) with
    | some (.link target) =>
      fs.vacancy links (if Path.isAbsolute target then target else up.path ++ '/' :: target)
    | _ => return up ++ [name.reverse]

def isFile (fs : FileSystem) (path : Text) : Bool :=
  match fs.open? path with
  | .ok (.file _ _) => true
  | _ => false

def isDirectory (fs : FileSystem) (path : Text) : Bool :=
  match fs.open? path with
  | .ok .directory => true
  | _ => false

def readText (fs : FileSystem) (path : Text) : Except FileError Text := do
  match Bytes.text? (← (← fs.open? path).read) with
  | some text => return text
  | none => throw .notUtf8

def below (fs : FileSystem) (loc : Location) : List Text :=
  fs.entries.filterMap fun (other, _) =>
    if other.dropLast = loc then other.getLast? else none

def list (fs : FileSystem) (path : Text) : Except FileError (List Text) := do
  let loc ← fs.locate path
  if fs.entry? loc = some .directory then return fs.below loc else throw .notADirectory

def ancestors (loc : Location) : List Location :=
  (List.range loc.length).map fun n => loc.take n

def insertEntry (loc : Location) (entry : Entry) : List (Location × Entry) → List (Location × Entry)
  | [] => [(loc, entry)]
  | first :: rest =>
    if loc < first.1 then (loc, entry) :: first :: rest else first :: insertEntry loc entry rest

theorem insert_entry_perm (loc : Location) (entry : Entry) (entries : List (Location × Entry)) :
    (insertEntry loc entry entries).Perm ((loc, entry) :: entries) := by
  induction entries with
  | nil => exact .refl _
  | cons first rest ih =>
      by_cases before : loc < first.1
      · rw [insertEntry, if_pos before]
      · rw [insertEntry, if_neg before]
        exact (ih.cons first).trans (.swap (loc, entry) first rest)

theorem insert_entry_once (loc : Location) (entry : Entry) (entries : List (Location × Entry))
    (once : (entries.map Prod.fst).Nodup) :
    ((insertEntry loc entry (entries.filter (·.1 ≠ loc))).map Prod.fst).Nodup := by
  have absent : loc ∉ (entries.filter (·.1 ≠ loc)).map Prod.fst := by simp
  have others : ((entries.filter (·.1 ≠ loc)).map Prod.fst).Nodup := once.sublist (List.filter_sublist.map Prod.fst)
  exact ((insert_entry_perm loc entry _).map Prod.fst).symm.nodup (List.nodup_cons.2 ⟨absent, others⟩)

theorem insert_entry_named (loc : Location) (entry : Entry) (entries : List (Location × Entry))
    (isNamed : ∀ name ∈ loc, '/' ∉ name) (named : ∀ other ∈ entries.map Prod.fst, ∀ name ∈ other, '/' ∉ name) :
    ∀ other ∈ (insertEntry loc entry (entries.filter (·.1 ≠ loc))).map Prod.fst, ∀ name ∈ other, '/' ∉ name := by
  intro other member
  rcases List.mem_cons.1 (((insert_entry_perm loc entry _).map Prod.fst).mem_iff.1 member) with rfl | member
  · exact isNamed
  · exact named other ((List.filter_sublist.map Prod.fst).subset member)

-- No entry can have a name with a separator in it.
def place (fs : FileSystem) (loc : Location) (entry : Entry) : FileSystem :=
  if isNamed : ∀ name ∈ loc, '/' ∉ name then
    { fs with
      entries := insertEntry loc entry (fs.entries.filter (·.1 ≠ loc))
      once := insert_entry_once loc entry fs.entries fs.once
      named := insert_entry_named loc entry fs.entries isNamed fs.named }
  else fs

def put (fs : FileSystem) (loc : Location) (entry : Entry) : FileSystem :=
  let missing := (ancestors loc).filter fun up => (fs.entry? up).isNone
  (missing.foldl (fun fs up => fs.place up .directory) fs).place loc entry

def content (fs : FileSystem) (loc : Location) : Bytes :=
  match fs.entry? loc with
  | some (.file content _) => content
  | _ => []

def setContent (fs : FileSystem) (loc : Location) (content : Bytes) : FileSystem :=
  let change (other : Location) (entry : Entry) : Entry :=
    match entry with
    | .file before executable => .file (if other = loc then content else before) executable
    | _ => entry
  have same : (fs.entries.map fun (other, entry) => (other, change other entry)).map Prod.fst =
      fs.entries.map Prod.fst := by rw [List.map_map]; rfl
  { fs with
    entries := fs.entries.map fun (other, entry) => (other, change other entry)
    once := same ▸ fs.once
    named := same ▸ fs.named }

def remove (fs : FileSystem) (loc : Location) : FileSystem :=
  have kept := (List.filter_sublist (p := fun entry => !loc.isPrefixOf entry.1) (l := fs.entries)).map Prod.fst
  { fs with
    entries := fs.entries.filter fun entry => !loc.isPrefixOf entry.1
    once := fs.once.sublist kept
    named := fun other member => fs.named other (kept.subset member) }

end FileSystem

end CommandShell
