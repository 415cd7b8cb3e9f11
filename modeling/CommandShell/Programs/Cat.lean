import CommandShell.Programs.Basic
import CommandShell.Programs.Quoting

set_option autoImplicit false

namespace CommandShell.Cat

structure Style where
  numbersLines : Bool := false
  numbersText : Bool := false
  squeezesBlank : Bool := false
  showsEnds : Bool := false
  showsTabs : Bool := false
  showsControls : Bool := false
deriving DecidableEq, Repr

namespace Style

def options : OptionTable where
  letters := "benstuvAET".toList
  words :=
    [("number-nonblank", 'b'), ("number", 'n'), ("squeeze-blank", 's'), ("show-nonprinting", 'v'),
     ("show-ends", 'E'), ("show-tabs", 'T'), ("show-all", 'A'), ("help", '?'), ("version", '!')].map
      fun (word, letter) => (word.toList, letter)
  isMixed := true

def turn (s : Style) (letter : Char) : Style :=
  match letter with
  | 'b' => { s with numbersText := true }
  | 'n' => { s with numbersLines := true }
  | 's' => { s with squeezesBlank := true }
  | 'v' => { s with showsControls := true }
  | 'E' => { s with showsEnds := true }
  | 'T' => { s with showsTabs := true }
  | 'e' => { s with showsControls := true, showsEnds := true }
  | 't' => { s with showsControls := true, showsTabs := true }
  | 'A' => { s with showsControls := true, showsEnds := true, showsTabs := true }
  | _ => s

end Style

structure Position where
  isInside : Bool := false
  -- Blank lines just passed; two are as good as more.
  blanks : Nat := 0
  number : Nat := 0
  -- A carriage return is held back, since a newline may follow.
  holdsReturn : Bool := false
deriving DecidableEq, Repr

def numberText (n : Nat) : Text :=
  let digits := Text.ofNat n
  List.replicate (6 - digits.length) ' ' ++ digits ++ ['\t']

def byteText (s : Style) (b : UInt8) : Text :=
  let n := b.toNat
  let caret (n : Nat) : Text := if n = 127 then "^?".toList else ['^', Char.ofNat (n + 64)]
  if b = 0x09 then if s.showsTabs then "^I".toList else ['\t']
  else if !s.showsControls then [Char.ofNat n]
  else if n < 32 || n = 127 then caret n
  else if n < 127 then [Char.ofNat n]
  else if n < 160 || n = 255 then "M-".toList ++ caret (n - 128)
  else "M-".toList ++ [Char.ofNat (n - 128)]

def isNumbering (s : Style) : Bool := s.numbersLines || s.numbersText

def heldReturn (p : Position) : Text := if p.holdsReturn then ['\r'] else []

def showByte (s : Style) (p : Position) (b : UInt8) : Text × Position :=
  if b = 0x0A then
    if p.isInside then
      let ending := if !s.showsEnds then heldReturn p else if p.holdsReturn then "^M$".toList else ['$']
      (ending ++ ['\n'], { p with isInside := false, blanks := 0, holdsReturn := false })
    else
      let blanks := min 2 (p.blanks + 1)
      if blanks = 2 && s.squeezesBlank then ([], { p with blanks })
      else
        let isNumbered := s.numbersLines && !s.numbersText
        let number := if isNumbered then p.number + 1 else p.number
        ((if isNumbered then numberText number else []) ++ (if s.showsEnds then ['$'] else []) ++ ['\n'],
          { p with blanks, number })
  else
    let starts := !p.isInside && isNumbering s
    let number := if starts then p.number + 1 else p.number
    let front := heldReturn p ++ if starts then numberText number else []
    let after := { p with isInside := true, blanks := 0, number, holdsReturn := false }
    if b = 0x0D && s.showsEnds && !s.showsControls then (front, { after with holdsReturn := true })
    else (front ++ byteText s b, after)

def showAll (s : Style) : Position → (done : List Text) → Bytes → List Text × Position
  | p, done, [] => (done, p)
  | p, done, b :: rest =>
    let (text, p) := showByte s p b
    showAll s p (text :: done) rest

def render (s : Style) (p : Position) (data : Bytes) : Bytes × Position :=
  if s = {} then (data, p)
  else
    let (pieces, p) := showAll s p [] data
    (Octets.bytes pieces.reverse.flatten, p)

structure Progress where
  position : Position := {}
  writes : List (OutputStream × Bytes) := []
  written : Nat := 0
  hasFailed : Bool := false
  isStopped : Bool := false
  taken : Nat := 0
  hasReadInput : Bool := false

namespace Progress

def complain (g : Progress) (p : Process) (message : Text) : Progress :=
  { g with writes := (.errors, p.complaint message) :: g.writes, hasFailed := true }

def copy (g : Progress) (p : Process) (s : Style) (data : Bytes) : Progress :=
  let (shown, position) := render s g.position data
  if shown.isEmpty then { g with position }
  else match p.streams.output.fault with
    | some fault => { g.complain p ("write error: ".toList ++ fault.reason.1) with isStopped := true }
    | none =>
      { g with position, writes := (.output, shown) :: g.writes, written := g.written + shown.length }

end Progress

-- Whether the output would run behind the input for ever, since they are one file.
def feedsItself (p : Process) (written : Nat) (place : Location) (passed : Nat) : Bool :=
  p.streams.output.file.any fun (output, offset) =>
    output = place && passed < max (p.files.content place).length (offset + written)

def readFile (p : Process) (written : Nat) (name : Text) : Except Text Bytes := do
  let place ← (p.files.locate name).mapError fun e => e.reason.1
  match p.files.entry? place with
  | some (.file content _) =>
    if feedsItself p written place 0 then throw "input file is output file".toList
    return content
  | some .null => return []
  | _ => throw FileError.isADirectory.reason.1

def readInput (p : Process) (input : Bytes) (written taken : Nat) : Except Text Bytes :=
  match p.streams.input.fault with
  | some fault => .error fault.reason.1
  | none =>
    if p.streams.input.file.any fun (place, offset) => feedsItself p written place (offset + taken) then
      .error "input file is output file".toList
    else .ok (input.drop taken)

def reopenInput (p : Process) (input : Bytes) (written taken : Nat) : Except Text Bytes :=
  match p.streams.input.file with
  | none => if p.streams.input.isClosed then .error FileError.notFound.reason.1
    else readInput p input written taken
  | some (place, _) =>
    if feedsItself p written place 0 then .error "input file is output file".toList
    else .ok (p.files.content place)

def joinFile (p : Process) (input : Bytes) (s : Style) (g : Progress) (name : Text) : Progress :=
  let add (g : Progress) (data : Except Text Bytes) : Progress :=
    match data with
    | .ok data => g.copy p s data
    | .error reason => g.complain p (Quoting.name (Octets.ofText name) ++ ": ".toList ++ reason)
  if g.isStopped then g
  else if name = ['-'] then
    let data := readInput p input g.written g.taken
    let taken := if data.toBool then input.length else g.taken
    { add g data with taken, hasReadInput := true }
  else if deviceDescriptor? name = some 0 then
    let data := reopenInput p input g.written g.taken
    let taken := if data.toBool && p.streams.input.file.isNone then input.length else g.taken
    { add g data with taken }
  else add g (readFile p g.written name)

def program : Program := fun p input =>
  match Style.options.split (p.arguments.map Octets.ofText) with
  | .error fault => p.misused fault.message
  | .ok (letters, names) =>
    if letters.contains '?' then
      p.ending 0 [(.output, Text.utf8 ("Usage: ".toList ++ p.name ++ " [OPTION]... [FILE]...\n".toList))] 0
    else if letters.contains '!' then p.ending 0 [] 0
    else if p.streams.output.isClosed then
      p.ending 1 [(.errors, p.complaint "standard output: Bad file descriptor".toList)] 0
    else
      let style := letters.foldl Style.turn {}
      let names := if names.isEmpty then [['-']] else names.map Octets.text
      let g := names.foldl (joinFile p input style) {}
      let g := if g.position.holdsReturn then { g with writes := (.output, [0x0D]) :: g.writes } else g
      let g :=
        if g.hasReadInput && p.streams.input.isClosed then
          g.complain p "closing standard input: Bad file descriptor".toList
        else g
      p.ending (if g.hasFailed then 1 else 0) g.writes.reverse g.taken

end CommandShell.Cat
