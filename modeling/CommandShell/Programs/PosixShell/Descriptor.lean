import CommandShell.Execution.Host
import CommandShell.Text.Octets

set_option autoImplicit false

namespace CommandShell.PosixShell

structure Access where
  reads : Bool
  writes : Bool
  appends : Bool := false
deriving DecidableEq, Repr

inductive Channel where
  | input
  | stream (s : OutputStream)
  | file (place : Location) (offset : Nat) (access : Access)
  -- Bytes that wait to be read: those in front, and later ones, the last piece first.
  | pipe (front : Bytes) (back : List Bytes)
  | directory
  | null
deriving DecidableEq, Repr

structure System where
  files : FileSystem
  channels : Array Channel := #[]
  input : Bytes := []
  taken : Nat := 0
  writes : List (OutputStream × Bytes) := []
  streams : Streams := {}

def overwrite (content : Bytes) (offset : Nat) (data : Bytes) : Bytes :=
  content.take offset ++ List.replicate (offset - content.length) 0 ++ data ++
    content.drop (offset + data.length)

namespace System

def channel? (s : System) (number : Nat) : Option Channel := s.channels[number]?

def setChannel (s : System) (number : Nat) (c : Channel) : System :=
  { s with channels := s.channels.setIfInBounds number c }

def add (s : System) (c : Channel) : Nat × System :=
  (s.channels.size, { s with channels := s.channels.push c })

def whole (front : Bytes) (back : List Bytes) : Bytes :=
  if back.isEmpty then front else front ++ back.reverse.flatten

def unread (s : System) (number : Nat) : Except FileError Bytes :=
  match s.channel? number with
  | some .input => match s.streams.input.fault with
    | some fault => .error fault
    | none => .ok s.input
  | some (.file place offset access) =>
    if access.reads then .ok ((s.files.content place).drop offset) else .error .badDescriptor
  | some (.pipe front back) => .ok (whole front back)
  | some .null => .ok []
  | some .directory => .error .isADirectory
  | some (.stream _) | none => .error .badDescriptor

def file? (s : System) (number : Nat) : Option (Location × Nat) :=
  match s.channel? number with
  | some (.file place offset access) =>
    some (place, if access.appends then (s.files.content place).length else offset)
  | some .input => s.streams.input.file.map fun (place, offset) => (place, offset + s.taken)
  | some (.stream .output) => s.streams.output.file.map fun (place, offset) =>
    let written := s.writes.foldl (fun n (stream, data) => if stream = .output then n + data.length else n) 0
    (place, offset + written)
  | _ => none

def writeFault? (s : System) (number : Nat) : Option FileError :=
  match s.channel? number with
  | some (.stream .output) => s.streams.output.fault
  | some (.file _ _ access) => if access.writes then none else some .badDescriptor
  | some .input | some .directory | none => some .badDescriptor
  | _ => none

def consume (s : System) (number n : Nat) : System :=
  match s.channel? number with
  | some .input => { s with input := s.input.drop n, taken := s.taken + n }
  | some (.file place offset access) => s.setChannel number (.file place (offset + n) access)
  | some (.pipe front back) => s.setChannel number (.pipe ((whole front back).drop n) [])
  | _ => s

def write? (s : System) (number : Nat) (data : Bytes) : Option System :=
  if (s.writeFault? number).isSome then none
  else match s.channel? number with
    | some (.stream stream) => some { s with writes := (stream, data) :: s.writes }
    | some (.file place offset access) =>
      let content := s.files.content place
      let offset := if access.appends then content.length else offset
      let files := s.files.setContent place (overwrite content offset data)
      some ({ s with files }.setChannel number (.file place (offset + data.length) access))
    | some (.pipe front back) => some (s.setChannel number (.pipe front (data :: back)))
    | _ => some s

end System

abbrev Descriptors := List (Nat × Nat)

namespace Descriptors

def get? (d : Descriptors) (fd : Nat) : Option Nat := d.lookup fd

def close (d : Descriptors) (fd : Nat) : Descriptors := d.filter (·.1 ≠ fd)

def set (d : Descriptors) (fd channel : Nat) : Descriptors := (fd, channel) :: d.close fd

end Descriptors

end CommandShell.PosixShell
