import CommandShell.Text.Utf8

set_option autoImplicit false

namespace CommandShell

namespace Bytes

def pieceLength : Nat := 8192

def pieces (data : Bytes) : List Bytes :=
  if _h : data = [] then [] else data.take pieceLength :: pieces (data.drop pieceLength)
termination_by data.length
decreasing_by
  have := List.length_pos_iff.2 _h
  simp only [List.length_drop, pieceLength]
  omega

end Bytes

structure Input where
  unread : Bytes := []
deriving DecidableEq, Repr

namespace Input

def read (i : Input) (n : Nat) : Bytes × Input := (i.unread.take n, ⟨i.unread.drop n⟩)

def readText? (i : Input) : Option Text × Input := (Bytes.text? i.unread, {})

end Input

structure Capture where
  -- What was written, the last piece first.
  writes : List Bytes := []
deriving DecidableEq, Repr

namespace Capture

def bytes (c : Capture) : Bytes := c.writes.reverse.flatten

def write (c : Capture) (data : Bytes) : Capture := ⟨data :: c.writes⟩

theorem bytes_write (c : Capture) (data : Bytes) : (c.write data).bytes = c.bytes ++ data := by
  simp [bytes, write]

def take (c : Capture) : Bytes × Capture := (c.bytes, {})

def text? (c : Capture) : Option Text := Bytes.written? c.bytes

end Capture

inductive Sink where
  | console
  | capture
deriving DecidableEq, Repr

inductive Source where
  | console
  | input (i : Input)
deriving DecidableEq, Repr

-- The streams the shell was started with. All that is written is taken: a write that fails is not modelled.
structure Console where
  -- Input nobody has taken yet.
  waiting : Bytes := []
  -- Input that the shell has taken but not used.
  buffered : Bytes := []
  output : Capture := {}
  -- Output of the shell that is held back until its line is complete.
  held : Bytes := []
  errors : Capture := {}
deriving DecidableEq, Repr

namespace Console

def maxHeld : Nat := 1024

def splitLines (data : Bytes) : Bytes × Bytes :=
  let tail := (data.reverse.takeWhile (· ≠ 0x0A)).reverse
  (data.take (data.length - tail.length), tail)

def flush (c : Console) : Console := { c with output := c.output.write c.held, held := [] }

-- Holds back part of a line, unless it is too long for that. What there is no room beside leaves first.
def hold (c : Console) (data : Bytes) : Console :=
  let c := if maxHeld < c.held.length + data.length then c.flush else c
  if maxHeld ≤ data.length then { c with output := c.output.write data }
  else { c with held := c.held ++ data }

def write (c : Console) (data : Bytes) : Console :=
  let (lines, tail) := splitLines data
  if lines.isEmpty then c.hold tail
  else { c with output := (c.output.write c.held).write lines, held := [] }.hold tail

-- Output of a program, which what the shell holds back does not delay.
def writeThrough (c : Console) (data : Bytes) : Console := { c with output := c.output.write data }

def writeErrors (c : Console) (data : Bytes) : Console := { c with errors := c.errors.write data }

def splitLine (buffered waiting : Bytes) : Bytes × Bytes × Bytes :=
  match buffered.span (· ≠ 0x0A) with
  | (line, newline :: rest) => (line ++ [newline], rest, waiting)
  | (line, []) =>
    if _h : waiting = [] then (line, [], [])
    else
      let (more, left) := splitLine (waiting.take Bytes.pieceLength) (waiting.drop Bytes.pieceLength)
      (line ++ more, left)
termination_by waiting.length
decreasing_by
  have := List.length_pos_iff.2 _h
  simp only [List.length_drop, Bytes.pieceLength]
  omega

-- Takes one line of input; an empty one means that the input has ended.
def takeLine (c : Console) : Bytes × Console :=
  let (line, buffered, waiting) := splitLine c.buffered c.waiting
  (line, { c with buffered, waiting })

def unread (c : Console) : List Bytes :=
  if c.buffered.isEmpty then c.waiting.pieces else c.buffered :: c.waiting.pieces

def consume (c : Console) : Console := { c with buffered := [], waiting := [] }

end Console

end CommandShell
