import CommandShell.Text.ClusterBreak
import CommandShell.Text.Utf8

set_option autoImplicit false

namespace CommandShell

structure ClusterEnd where
  last : ClusterBreak
  pictograph : Bool
  joinedPictograph : Bool
  consonant : Bool
  linkedConsonant : Bool
  openRegional : Bool
deriving DecidableEq, Repr

namespace ClusterEnd

def start (c : Char) : ClusterEnd where
  last := .ofChar c
  pictograph := pictographRanges.has c
  joinedPictograph := false
  consonant := consonantRanges.has c
  linkedConsonant := false
  openRegional := ClusterBreak.ofChar c = .regional

def extend (e : ClusterEnd) (c : Char) : ClusterEnd :=
  let next := ClusterBreak.ofChar c
  let isMark := (next == .extend && c.toNat != 0x200C) || next == .joiner
  { last := next
    pictograph := pictographRanges.has c || (e.pictograph && next == .extend)
    joinedPictograph := e.pictograph && next == .joiner
    consonant := consonantRanges.has c || (e.consonant && isMark)
    linkedConsonant := e.consonant && isMark && (e.linkedConsonant || linkerRanges.has c)
    openRegional := next == .regional && !e.openRegional }

def joinsHangul : ClusterBreak → ClusterBreak → Bool
  | .hangulLead, next => [.hangulLead, .hangulVowel, .hangulOpen, .hangulClosed].contains next
  | .hangulOpen, next | .hangulVowel, next => next == .hangulVowel || next == .hangulTail
  | .hangulClosed, next | .hangulTail, next => next == .hangulTail
  | _, _ => false

def isControl : ClusterBreak → Bool
  | .carriageReturn | .lineFeed | .control => true
  | _ => false

def joins (e : ClusterEnd) (c : Char) : Bool :=
  let next := ClusterBreak.ofChar c
  if e.last = .carriageReturn ∧ next = .lineFeed then true
  else if isControl e.last || isControl next then false
  else joinsHangul e.last next || next == .extend || next == .joiner || next == .spacingMark ||
    e.last == .prepend || (e.joinedPictograph && pictographRanges.has c) ||
    (e.linkedConsonant && consonantRanges.has c) || (e.openRegional && next == .regional)

end ClusterEnd

namespace Text

def clustersFrom (e : ClusterEnd) (current : Text) : Text → List Text
  | [] => [current.reverse]
  | c :: rest =>
    if e.joins c then clustersFrom (e.extend c) (c :: current) rest
    else current.reverse :: clustersFrom (.start c) [c] rest

def clusters : Text → List Text
  | [] => []
  | c :: rest => clustersFrom (.start c) [c] rest

structure Edited where
  kept : Text := []
  counts : List UInt8 := []
deriving DecidableEq, Repr

def dropBytes (bytes : Nat) : Text → Text
  | [] => []
  | c :: rest => if bytes = 0 then c :: rest else dropBytes (bytes - c.utf8Size) rest

namespace Edited

def step (e : Edited) (cluster : Text) : Edited :=
  if cluster = ['\x08'] then
    match e.counts with
    | [] => e
    | count :: counts => { kept := dropBytes count.toNat e.kept, counts }
  else { kept := cluster.reverse ++ e.kept, counts := UInt8.ofNat (byteLength cluster) :: e.counts }

end Edited

-- Each backspace character takes away the cluster before it; of one with 256 bytes or more, only as many
-- bytes as are left over beyond a multiple of 256.
def applyBackspaces (text : Text) : Text := ((clusters text).foldl Edited.step {}).kept.reverse

end Text

end CommandShell
