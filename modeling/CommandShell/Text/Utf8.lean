import CommandShell.Text.Basic

set_option autoImplicit false

namespace CommandShell

namespace Text

def utf8 (t : Text) : Bytes := t.flatMap String.utf8EncodeChar

def byteLength : Text → Nat
  | [] => 0
  | c :: rest => c.utf8Size + byteLength rest

def splitBytes : Nat → Text → Text × Text
  | _, [] => ([], [])
  | bytes, c :: rest =>
    if c.utf8Size ≤ bytes then
      let (before, after) := splitBytes (bytes - c.utf8Size) rest
      (c :: before, after)
    else ([], c :: rest)

end Text

namespace Utf8

def isContinuation (b : UInt8) : Bool := 0x80 ≤ b && b ≤ 0xBF

def isSecondOfThree (lead b : UInt8) : Bool :=
  if lead = 0xE0 then 0xA0 ≤ b && b ≤ 0xBF
  else if lead = 0xED then 0x80 ≤ b && b ≤ 0x9F
  else isContinuation b

def isSecondOfFour (lead b : UInt8) : Bool :=
  if lead = 0xF0 then 0x90 ≤ b && b ≤ 0xBF
  else if lead = 0xF4 then 0x80 ≤ b && b ≤ 0x8F
  else isContinuation b

def low (b : UInt8) : Nat := b.toNat % 64

def two (a b : UInt8) : Char := Char.ofNat (a.toNat % 32 * 64 + low b)

def three (a b c : UInt8) : Char := Char.ofNat ((a.toNat % 16 * 64 + low b) * 64 + low c)

def four (a b c d : UInt8) : Char :=
  Char.ofNat (((a.toNat % 8 * 64 + low b) * 64 + low c) * 64 + low d)

-- How many bytes after the lead byte `a` belong to its unit, and the character they complete, if any.
def unit (a : UInt8) (rest : Bytes) : Option Char × Nat :=
  if a < 0x80 then (some (Char.ofNat a.toNat), 0)
  else if 0xC2 ≤ a && a ≤ 0xDF then
    match rest with
    | b :: _ => if isContinuation b then (some (two a b), 1) else (none, 0)
    | [] => (none, 0)
  else if 0xE0 ≤ a && a ≤ 0xEF then
    match rest with
    | b :: c :: _ =>
      if isSecondOfThree a b then if isContinuation c then (some (three a b c), 2) else (none, 1)
      else (none, 0)
    | [b] => (none, if isSecondOfThree a b then 1 else 0)
    | [] => (none, 0)
  else if 0xF0 ≤ a && a ≤ 0xF4 then
    match rest with
    | b :: c :: d :: _ =>
      if isSecondOfFour a b then
        if isContinuation c then if isContinuation d then (some (four a b c d), 3) else (none, 2)
        else (none, 1)
      else (none, 0)
    | [b, c] => (none, if isSecondOfFour a b then if isContinuation c then 2 else 1 else 0)
    | [b] => (none, if isSecondOfFour a b then 1 else 0)
    | [] => (none, 0)
  else (none, 0)

-- Characters, with `none` for each broken part; the first `skip` bytes belong to an earlier unit.
def unitsFrom : Nat → Bytes → List (Option Char)
  | _, [] => []
  | 0, a :: rest => (unit a rest).1 :: unitsFrom (unit a rest).2 rest
  | skip + 1, _ :: rest => unitsFrom skip rest

def units (bytes : Bytes) : List (Option Char) := unitsFrom 0 bytes

end Utf8

namespace Bytes

def text? (bytes : Bytes) : Option Text := (Utf8.units bytes).mapM id

def lossyText (bytes : Bytes) : Text := (Utf8.units bytes).map (·.getD '\uFFFD')

-- The text of what was written: nothing written is no text, not an empty one.
def written? (bytes : Bytes) : Option Text := if bytes.isEmpty then none else some (lossyText bytes)

end Bytes

end CommandShell
