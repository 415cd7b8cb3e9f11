import CommandShell.Programs.Quoting

set_option autoImplicit false

namespace CommandShell.Translate

inductive Element where
  | char (c : Char)
  | range (first last : Char)
  | named (k : CharClass)
  | equivalents (c : Char)
  -- A character so many times; without a number, as often as there is room for.
  | repeated (c : Char) (count : Option Nat)
deriving DecidableEq, Repr

inductive Fault where
  | noClassName
  | noEquivalent
  | unknownClass (name : Text)
  | longEquivalent (text : Text)
  | illegalCount (text : Text)
  | reversed (first last : Char)
deriving DecidableEq, Repr

def Fault.message : Fault → Text
  | noClassName => "missing character class name '[::]'".toList
  | noEquivalent => "missing equivalence class character '[==]'".toList
  | unknownClass name => "invalid character class ".toList ++ Quoting.string (Quoting.printable name)
  | longEquivalent text =>
    Quoting.printable text ++ ": equivalence class operand must be a single character".toList
  | illegalCount text =>
    "invalid repeat count ".toList ++ Quoting.string (Quoting.printable text) ++ " in [c*n] construct".toList
  | reversed first last =>
    "range-endpoints of '".toList ++ Quoting.rangeEnd first ++ '-' :: Quoting.rangeEnd last ++
      "' are in reverse collating sequence order".toList

abbrev Written := Char × Bool

def isOctal (c : Char) : Bool := '0' ≤ c && c ≤ '7'

def octalValue (digits : Text) : Nat := digits.foldl (fun n c => n * 8 + (c.toNat - '0'.toNat)) 0

def trailingWarning : Text := "warning: an unescaped backslash at end of string is not portable".toList

def ambiguousWarning (digits : Text) : Text :=
  "warning: the ambiguous octal escape \\".toList ++ digits ++
    " is being\n\tinterpreted as the 2-byte sequence \\0".toList ++ digits.take 2 ++ ", ".toList ++
    digits.drop 2

def unescape : (length : Nat) → Text → List Written × List Text
  | 0, _ => ([], [])
  | _ + 1, [] => ([], [])
  | _ + 1, ['\\'] => ([('\\', false)], [trailingWarning])
  | length + 1, '\\' :: c :: rest =>
    if isOctal c then
      let digits := ((c :: rest).take 3).takeWhile isOctal
      let isAmbiguous := 255 < octalValue digits
      let used := if isAmbiguous then digits.take 2 else digits
      let (others, warnings) := unescape length ((c :: rest).drop used.length)
      ((Char.ofNat (octalValue used), true) :: others,
        if isAmbiguous then ambiguousWarning digits :: warnings else warnings)
    else
      let (others, warnings) := unescape length rest
      let letters := "abfnrtv".toList.zip ['\x07', '\x08', '\x0c', '\n', '\r', '\t', '\x0b']
      (((letters.lookup c).getD c, true) :: others, warnings)
  | length + 1, c :: rest =>
    let (others, warnings) := unescape length rest
    ((c, false) :: others, warnings)

def startsWith (c : Char) (text : List Written) : Bool := text.head? == some (c, false)

def upTo (mark : Char) : List Written → Option (Text × List Written)
  | [] => none
  | (c, isEscaped) :: rest =>
    if c = mark && !isEscaped && startsWith ']' rest then some ([], rest.tail)
    else (upTo mark rest).map fun (before, after) => (c :: before, after)

def startsRepeat (text : List Written) : Bool :=
  startsWith '*' text && startsWith ']' (text.tail.dropWhile fun (c, _) => c.isDigit)

def maxCount : Nat := 0x7FFFFFFFFFFFFFFE

def repeatCount (digits : Text) : Except Fault (Option Nat) :=
  if digits.isEmpty then .ok none
  else
    let isOctalNumber := digits.head? = some '0'
    let value :=
      if isOctalNumber then octalValue digits
      else digits.foldl (fun n c => n * 10 + (c.toNat - '0'.toNat)) 0
    if digits.all (if isOctalNumber then isOctal else Char.isDigit) && value ≤ maxCount then
      .ok (if value = 0 then none else some value)
    else .error (.illegalCount digits)

def takeRepeat (text : List Written) : Except Fault (Option (Element × List Written)) :=
  match text with
  | (c, _) :: star :: rest =>
    let (inside, after) := rest.span fun written => !written.2 && written.1 ≠ ']'
    if star = ('*', false) && startsWith ']' after then do
      let count ← repeatCount (inside.map Prod.fst)
      return some (.repeated c count, after.tail)
    else .ok none
  | _ => .ok none

def takeNamed (mark : Char) (text : List Written) : Except Fault (Option (Element × List Written)) :=
  match upTo mark text with
  | none => .ok none
  | some (name, after) =>
    if mark = ':' then
      if name.isEmpty then .error .noClassName
      else match CharClass.table.lookup name with
        | some k => .ok (some (.named k, after))
        | none => if startsRepeat text then .ok none else .error (.unknownClass name)
    else match name with
      | [] => .error .noEquivalent
      | [c] => .ok (some (.equivalents c, after))
      | _ => if startsRepeat text then .ok none else .error (.longEquivalent name)

def takeBracket (text : List Written) : Except Fault (Option (Element × List Written)) := do
  if !startsWith '[' text then return none
  let inside := text.tail
  let named ←
    if startsWith ':' inside then takeNamed ':' inside.tail
    else if startsWith '=' inside then takeNamed '=' inside.tail
    else pure none
  match named with
  | some found => return some found
  | none => takeRepeat inside

-- The elements of a list. The last two characters only stand for themselves.
def elements : (length : Nat) → List Written → Except Fault (List Element)
  | 0, _ => .ok []
  | _ + 1, [] => .ok []
  | length + 1, (c, isEscaped) :: rest => do
    if rest.length < 2 then return .char c :: (← elements length rest)
    match ← takeBracket ((c, isEscaped) :: rest) with
    | some (element, after) => return element :: (← elements length after)
    | none =>
      match rest with
      | ('-', false) :: (last, _) :: after =>
        if last < c then throw (.reversed c last)
        return .range c last :: (← elements length after)
      | _ => return .char c :: (← elements length rest)

def ofText (text : Text) : List Text × Except Fault (List Element) :=
  let (written, warnings) := unescape text.length text
  (warnings, elements written.length written)

def allChars : List Char := (List.range 256).map Char.ofNat

-- How often a repetition is written out at most; no list it stands beside is longer.
def maxRepeats : Nat := 100000

def Element.chars : Element → List Char
  | char c => [c]
  | range first last => (List.range (last.toNat + 1 - first.toNat)).map fun n => Char.ofNat (first.toNat + n)
  | named k => allChars.filter k.has
  | equivalents c => [c]
  | repeated c count => List.replicate (min (count.getD 0) maxRepeats) c

def Element.size : Element → Nat
  | range first last => last.toNat + 1 - first.toNat
  | named k => (allChars.filter k.has).length
  | repeated _ count => count.getD 0
  | _ => 1

def isOpen : Element → Bool
  | .repeated _ none => true
  | _ => false

def has (list : List Element) (c : Char) : Bool :=
  list.any fun e => match e with
    | .char own | .equivalents own => c == own
    | .range first last => first ≤ c && c ≤ last
    | .named k => k.has c
    | .repeated own count => c == own && count != none

def size (list : List Element) : Nat := list.foldl (fun n e => n + e.size) 0

end CommandShell.Translate
