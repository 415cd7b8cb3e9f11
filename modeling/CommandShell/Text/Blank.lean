import CommandShell.Text.Basic

set_option autoImplicit false

namespace CommandShell

def blankRanges : CodeRanges :=
  [(0x09, 0x0D), (0x20, 0x20), (0x85, 0x85), (0xA0, 0xA0), (0x1680, 0x1680), (0x2000, 0x200A),
   (0x2028, 0x2029), (0x202F, 0x202F), (0x205F, 0x205F), (0x3000, 0x3000)]

def isBlank (c : Char) : Bool := blankRanges.has c

namespace Text

def isAllBlank (t : Text) : Bool := t.all isBlank

def dropEndWhile (p : Char → Bool) (t : Text) : Text :=
  (t.reverse.dropWhile p).reverse

def trimEnd (t : Text) : Text := dropEndWhile isBlank t

-- Lines end at a newline; a last line without one counts, an empty one does not.
def lineCount : Text → Nat
  | [] => 0
  | c :: rest => (if c = '\n' ∨ rest = [] then 1 else 0) + lineCount rest

-- A word is a maximal run without blanks: one ends where a blank or the end follows it.
def wordCount : Text → Nat
  | [] => 0
  | c :: rest =>
    let atEnd := match rest with
      | [] => true
      | next :: _ => isBlank next
    (if !isBlank c && atEnd then 1 else 0) + wordCount rest

end Text

end CommandShell
