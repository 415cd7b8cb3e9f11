import CommandShell.Programs.PosixShell.Binary64

set_option autoImplicit false

namespace CommandShell.PosixShell

namespace Escape

def table : List (Char × Char) :=
  [('\\', '\\'), ('a', '\x07'), ('b', '\x08'), ('e', '\x1b'), ('f', '\x0c'), ('n', '\n'), ('r', '\r'),
   ('t', '\t'), ('v', '\x0b')]

def isOctal (c : Char) : Bool := '0' ≤ c && c ≤ '7'

def take (text : Text) : Char × Text :=
  match text with
  | [] => ('\\', [])
  | c :: rest =>
    if isOctal c then
      let digits := (text.take 3).takeWhile isOctal
      let value := digits.foldl (fun n c => n * 8 + (c.toNat - '0'.toNat)) 0
      (Char.ofNat (value % 256), text.drop digits.length)
    else match table.lookup c with
      | some meant => (meant, rest)
      | none => ('\\', text)

-- A text with its escapes replaced, and whether one of them ends all output. An octal number may have one
-- more digit after a zero.
def replace : (length : Nat) → Text → Text × Bool
  | 0, text => (text, false)
  | _ + 1, [] => ([], false)
  | length + 1, '\\' :: rest =>
    match rest with
    | 'c' :: _ => ([], true)
    | _ =>
      let number := match rest with
        | '0' :: d :: more => if isOctal d then d :: more else rest
        | _ => rest
      let (c, rest) := take number
      let (text, ends) := replace length rest
      (c :: text, ends)
  | length + 1, c :: rest =>
    let (text, ends) := replace length rest
    (c :: text, ends)

def replaceAll (text : Text) : Text × Bool := replace text.length text

end Escape

inductive Count where
  | given (n : Nat)
  | argument
deriving DecidableEq, Repr

structure Directive where
  spelling : Text
  flags : Text
  width : Count
  precision : Option Count
  letter : Char
deriving DecidableEq, Repr

inductive FormatPart where
  | char (c : Char)
  | directive (d : Directive)
  | incomplete
deriving DecidableEq, Repr

namespace FormatPart

def takeCount (text : Text) : Count × Text :=
  match text with
  | '*' :: rest => (.argument, rest)
  | _ =>
    let (digits, rest) := text.span fun c => c.isDigit || c == '*'
    (.given (Arithmetic.takeDigits 10 0 digits).1, rest)

def takeDirective (text : Text) : Option (Directive × Text) :=
  let (flags, rest) := text.span fun c => "#-+ 0".toList.contains c
  let (width, rest) := takeCount rest
  let (precision, rest) := match rest with
    | '.' :: rest =>
      let (count, rest) := takeCount rest
      (some count, rest)
    | _ => (none, rest)
  match rest with
  | letter :: after =>
    let spelling := '%' :: text.take (text.length - after.length)
    some ({ spelling, flags, width, precision, letter }, after)
  | [] => none

def parts : (length : Nat) → Text → List FormatPart
  | 0, _ => []
  | _ + 1, [] => []
  | length + 1, '\\' :: rest =>
    let (c, rest) := Escape.take rest
    char c :: parts length rest
  | length + 1, '%' :: '%' :: rest => char '%' :: parts length rest
  | length + 1, '%' :: rest => match takeDirective rest with
    | some (d, rest) => directive d :: parts length rest
    | none => [incomplete]
  | length + 1, c :: rest => char c :: parts length rest

def ofText (format : Text) : List FormatPart := parts format.length format

end FormatPart

structure Layout where
  flags : Text
  width : Int
  precision : Option Nat
deriving DecidableEq, Repr

namespace Layout

def has (l : Layout) (flag : Char) : Bool := l.flags.contains flag

def fill (l : Layout) (allowsZeros : Bool) (front body : Text) : Text :=
  let missing := l.width.natAbs - (front.length + body.length)
  if l.has '-' || l.width < 0 then front ++ body ++ List.replicate missing ' '
  else if l.has '0' && allowsZeros then front ++ List.replicate missing '0' ++ body
  else List.replicate missing ' ' ++ front ++ body

def string (l : Layout) (text : Text) : Text :=
  l.fill false [] (match l.precision with
    | some n => text.take n
    | none => text)

def sign (l : Layout) (isNegative : Bool) : Text :=
  if isNegative then ['-'] else if l.has '+' then ['+'] else if l.has ' ' then [' '] else []

def digits (l : Layout) (base n : Nat) : Text :=
  let digits := if n = 0 then [] else Nat.toDigits base n
  List.replicate (l.precision.getD 1 - digits.length) '0' ++ digits

def integer (l : Layout) (n : Int) : Text :=
  l.fill l.precision.isNone (l.sign (n < 0)) (l.digits 10 n.natAbs)

def natural (l : Layout) (letter : Char) (n : Nat) : Text :=
  match letter with
  | 'o' =>
    let digits := l.digits 8 n
    let digits := if l.has '#' && digits.head? ≠ some '0' then '0' :: digits else digits
    l.fill l.precision.isNone [] digits
  | 'x' => l.fill l.precision.isNone (if l.has '#' && n ≠ 0 then "0x".toList else []) (l.digits 16 n)
  | 'X' =>
    l.fill l.precision.isNone (if l.has '#' && n ≠ 0 then "0X".toList else [])
      ((l.digits 16 n).map Char.toUpper)
  | _ => l.fill l.precision.isNone [] (l.digits 10 n)

def real (l : Layout) (letter : Char) (value : Binary64) : Text :=
  let body := value.text letter.toLower l.precision (l.has '#')
  let sign := l.sign value.isNegative
  let (front, body) :=
    if letter.toLower = 'a' && value.isFinite then (sign ++ body.take 2, body.drop 2) else (sign, body)
  let text := l.fill value.isFinite front body
  if letter.isUpper then text.map Char.toUpper else text

end Layout

inductive NumberFault where
  | notNumeric
  | trailing
  | outOfRange
deriving DecidableEq, Repr

namespace NumberFault

def message (argument : Text) : NumberFault → Text
  | notNumeric => argument ++ ": expected numeric value".toList
  | trailing => argument ++ ": not completely converted".toList
  | outOfRange => argument ++ ": Numerical result out of range".toList

end NumberFault

namespace FormatArgument

def quotedCode? (argument : Text) : Option Nat :=
  match argument with
  | '"' :: rest => some ((rest.head?.map Char.toNat).getD 0)
  | '\'' :: rest => some ((rest.head?.map Char.toNat).getD 0)
  | _ => none

def fault? (rest : Text) (isOut : Bool) : Option NumberFault :=
  if !rest.isEmpty then some .trailing else if isOut then some .outOfRange else none

def integer (confine : Int → Int) (argument : Text) : Int × Option NumberFault :=
  match quotedCode? argument, Arithmetic.takeInteger Arithmetic.takeNatural argument with
  | some code, _ => (code, none)
  | none, some (n, rest) => (confine n, fault? rest (confine n ≠ n))
  | none, none => (0, if argument.isEmpty then none else some .notNumeric)

def maxNatural : Int := 0xFFFFFFFFFFFFFFFF

def confineSigned (n : Int) : Int := max Arithmetic.minValue (min n Arithmetic.maxValue)

def confineNatural (n : Int) : Int := if n < -maxNatural then maxNatural else min n maxNatural

def signed (argument : Text) : Int × Option NumberFault := integer confineSigned argument

def natural (argument : Text) : Nat × Option NumberFault :=
  let (n, fault) := integer confineNatural argument
  ((n % (maxNatural + 1)).toNat, fault)

def real (argument : Text) : Binary64 × Option NumberFault :=
  match quotedCode? argument, Binary64.take? argument with
  | some code, _ => ((Binary64.nearest code 1).1, none)
  | none, some ((value, isOut), rest) => (value, fault? rest isOut)
  | none, none => (.zero, if argument.isEmpty then none else some .notNumeric)

end FormatArgument

end CommandShell.PosixShell
