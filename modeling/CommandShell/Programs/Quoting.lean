import CommandShell.Text.CharClass
import CommandShell.Text.Octets

set_option autoImplicit false

namespace CommandShell.Quoting

def controlLetter? (c : Char) : Option Char :=
  [('\x07', 'a'), ('\x08', 'b'), ('\x0c', 'f'), ('\n', 'n'), ('\r', 'r'), ('\t', 't'), ('\x0b', 'v')].lookup c

def octal (c : Char) : Text :=
  let n := c.toNat
  [n / 64, n / 8 % 8, n % 8].map fun d => Char.ofNat ('0'.toNat + d)

def escape (c : Char) : Text :=
  '\\' :: match controlLetter? c with
    | some letter => [letter]
    | none => octal c

def isPrintable (c : Char) : Bool := CharClass.print.has c

def string (text : Text) : Text :=
  let inner := text.flatMap fun c =>
    if c = '\'' || c = '\\' then ['\\', c] else if isPrintable c then [c] else escape c
  '\'' :: inner ++ ['\'']

def printable (text : Text) : Text :=
  text.flatMap fun c => if isPrintable c then [c] else escape c

def rangeEnd (c : Char) : Text := if isPrintable c then [c] else '\\' :: octal c

def isStrong (c : Char) : Bool := !isPrintable c || "!\"$&()*;<=>?[\\^`|".toList.contains c

def needsQuotes (isFirst isWhole : Bool) (c : Char) : Bool :=
  isStrong c || c == ' ' || c == '\'' || c == ':' || (isFirst && (c == '~' || c == '#')) ||
    (isWhole && (c == '{' || c == '}'))

def shellInside : (inEscapes : Bool) → Text → Text
  | _, [] => []
  | inEscapes, c :: rest =>
    if c = '\'' then "'\\''".toList ++ shellInside false rest
    else if isPrintable c then (if inEscapes then "''".toList else []) ++ c :: shellInside false rest
    else (if inEscapes then [] else "'$'".toList) ++ escape c ++ shellInside true rest

def name (text : Text) : Text :=
  let isWhole := text.length = 1
  let needs := text.zipIdx.any fun (c, n) => needsQuotes (n = 0) isWhole c
  if text.isEmpty then "''".toList
  else if !needs then text
  else if text.contains '\'' && !text.any isStrong then '"' :: text ++ ['"']
  else '\'' :: shellInside false text ++ ['\'']

end CommandShell.Quoting
