import CommandShell.Programs.PosixShell.Arithmetic

set_option autoImplicit false

namespace CommandShell.PosixShell

-- The integer next to a quotient; half way between two it is the even one.
def roundDiv (n d : Nat) : Nat :=
  let q := n / d
  let twice := 2 * (n % d)
  if twice < d then q else if twice = d then q + q % 2 else q + 1

inductive Binary64 where
  | nan (isNegative : Bool)
  | infinite (isNegative : Bool)
  | finite (isNegative : Bool) (mantissa : Nat) (exponent : Int)
deriving DecidableEq, Repr

namespace Binary64

def mantissaBits : Nat := 53

def minExponent : Int := -1074

def maxExponent : Int := 971

def zero : Binary64 := finite false 0 minExponent

def isNegative : Binary64 → Bool
  | nan s | infinite s | finite s _ _ => s

def negate : Binary64 → Binary64
  | nan s => nan !s
  | infinite s => infinite !s
  | finite s m e => finite (!s) m e

def two : Nat := 2

def ten : Nat := 10

def nearest (n d : Nat) : Binary64 × Bool :=
  if n = 0 then (zero, false)
  else
    let scaled (e : Int) : Nat × Nat :=
      let factor := Nat.pow two e.natAbs
      if e < 0 then (n * factor, d) else (n, d * factor)
    let estimate : Int := (Nat.log2 n : Int) - Nat.log2 d - mantissaBits
    let isWide := Nat.pow two mantissaBits ≤ (scaled estimate).1 / (scaled estimate).2
    let e := max minExponent (if isWide then estimate + 1 else estimate)
    let (above, below) := scaled e
    let m := roundDiv above below
    let (m, e) := if m = Nat.pow two mantissaBits then (m / 2, e + 1) else (m, e)
    if maxExponent < e then (infinite false, true)
    else (finite false m e, m < Nat.pow two (mantissaBits - 1) && above % below != 0)

-- Digits of a base, with a point among them or not: their value without the point, how many there are, and
-- how many of them are after the point.
def takeDigits (base : Nat) (text : Text) : (Nat × Nat × Nat) × Text :=
  let isDigit (c : Char) : Bool := (Arithmetic.digitValue? base c).isSome
  let (whole, rest) := text.span isDigit
  let (part, after) := match rest with
    | '.' :: rest => rest.span isDigit
    | _ => ([], rest)
  let digits := whole ++ part
  if digits.isEmpty then ((0, 0, 0), text)
  else (((Arithmetic.takeDigits base 0 digits).1, digits.length, part.length), after)

def takeExponent (letter : Char) (text : Text) : Int × Text :=
  match text with
  | c :: rest =>
    if c.toLower = letter then
      let (isNegative, digits) := match rest with
        | '-' :: digits => (true, digits)
        | '+' :: digits => (false, digits)
        | _ => (false, rest)
      if (digits.head?.map Char.isDigit).getD false then
        let (value, after) := Arithmetic.takeDigits 10 0 digits
        (if isNegative then -value else value, after)
      else (0, text)
    else (0, text)
  | [] => (0, text)

-- Exponents beyond this lead out of the range whatever the digits are, unless there are more of them.
def farExponent : Nat := 1100

def scale (base value count : Nat) (exponent : Int) : Binary64 × Bool :=
  let far : Int := farExponent + 4 * count
  if value = 0 then (zero, false)
  else if far < exponent then (infinite false, true)
  else if exponent < -far then (zero, true)
  else if exponent < 0 then nearest value (Nat.pow base exponent.natAbs)
  else nearest (value * Nat.pow base exponent.natAbs) 1

def takeHex (text : Text) : Option ((Binary64 × Bool) × Text) :=
  let ((value, count, after), rest) := takeDigits 16 text
  if count = 0 then none
  else
    let (exponent, rest) := takeExponent 'p' rest
    some (scale two value count (exponent - 4 * after), rest)

def takeDecimal (text : Text) : Option ((Binary64 × Bool) × Text) :=
  let ((value, count, after), rest) := takeDigits 10 text
  if count = 0 then none
  else
    let (exponent, rest) := takeExponent 'e' rest
    some (scale ten value count (exponent - after), rest)

def afterWord? (word : String) (text : Text) : Option Text :=
  let word := word.toList
  if (text.take word.length).map Char.toLower = word then some (text.drop word.length) else none

def dropNote (text : Text) : Text :=
  match text with
  | '(' :: inner => match inner.dropWhile isNameChar with
    | ')' :: rest => rest
    | _ => text
  | _ => text

def takeUnsigned (text : Text) : Option ((Binary64 × Bool) × Text) :=
  match (afterWord? "infinity" text).or (afterWord? "inf" text), afterWord? "nan" text with
  | some rest, _ => some ((infinite false, false), rest)
  | none, some rest => some ((nan false, false), dropNote rest)
  | none, none => ((afterWord? "0x" text).bind takeHex).or (takeDecimal text)

def take? (text : Text) : Option ((Binary64 × Bool) × Text) :=
  match text.dropWhile Arithmetic.isBlank with
  | '-' :: rest => (takeUnsigned rest).map fun ((value, isOut), rest) => ((value.negate, isOut), rest)
  | '+' :: rest => takeUnsigned rest
  | rest => takeUnsigned rest

def exact (mantissa : Nat) (exponent : Int) : Nat × Nat :=
  if exponent < 0 then (mantissa * Nat.pow 5 exponent.natAbs, exponent.natAbs)
  else (mantissa * Nat.pow two exponent.natAbs, 0)

def withPoint (digits : Text) (places : Nat) (isForced : Bool) : Text :=
  let padded := List.replicate (places + 1 - digits.length) '0' ++ digits
  let whole := padded.length - places
  padded.take whole ++ (if places = 0 && !isForced then [] else '.' :: padded.drop whole)

def fixed (mantissa : Nat) (exponent : Int) (places : Nat) (isForced : Bool) : Text :=
  let (n, scale) := exact mantissa exponent
  let value :=
    if places < scale then roundDiv n (Nat.pow ten (scale - places)) else n * Nat.pow ten (places - scale)
  withPoint (Text.ofNat value) places isForced

def leading (mantissa : Nat) (exponent : Int) (places : Nat) : Nat × Int :=
  let (n, scale) := exact mantissa exponent
  if n = 0 then (0, 0)
  else
    let count := (Text.ofNat n).length
    let first : Int := (count : Int) - 1 - scale
    if count ≤ places + 1 then (n * Nat.pow ten (places + 1 - count), first)
    else
      let value := roundDiv n (Nat.pow ten (count - places - 1))
      if value = Nat.pow ten (places + 1) then (value / 10, first + 1) else (value, first)

def exponentText (e : Int) : Text :=
  let digits := Text.ofNat e.natAbs
  'e' :: (if e < 0 then '-' else '+') :: List.replicate (2 - digits.length) '0' ++ digits

def scientific (mantissa : Nat) (exponent : Int) (places : Nat) (isForced : Bool) : Text :=
  let (value, first) := leading mantissa exponent places
  withPoint (Text.ofNat value) places isForced ++ exponentText first

def trimZeros (text : Text) : Text :=
  if text.contains '.' then
    let trimmed := text.reverse.dropWhile (· = '0')
    (if trimmed.head? = some '.' then trimmed.tail else trimmed).reverse
  else text

def general (mantissa : Nat) (exponent : Int) (precision : Nat) (isForced : Bool) : Text :=
  let count := max precision 1
  let first := (leading mantissa exponent (count - 1)).2
  if -4 ≤ first && first < count then
    let text := fixed mantissa exponent (count - 1 - first).toNat isForced
    if isForced then text else trimZeros text
  else
    let (digits, tail) := (scientific mantissa exponent (count - 1) isForced).span (· ≠ 'e')
    (if isForced then digits else trimZeros digits) ++ tail

def hexadecimal (mantissa : Nat) (exponent : Int) (places : Option Nat) (isForced : Bool) : Text :=
  let fractionDigits := 13
  let bits := mantissaBits - 1
  -- A short mantissa of a larger exponent is made long; only the least exponent keeps short ones.
  let shift := min (bits - Nat.log2 mantissa) (exponent - minExponent).toNat
  let (m, e) := if mantissa = 0 then (0, 0) else (mantissa * Nat.pow two shift, exponent - shift + bits)
  let all := Nat.toDigits 16 m
  let padded := List.replicate (fractionDigits + 1 - all.length) '0' ++ all
  let digits := match places with
    | some n =>
      if n < fractionDigits then
        let value := roundDiv m (Nat.pow 16 (fractionDigits - n))
        let short := Nat.toDigits 16 value
        List.replicate (n + 1 - short.length) '0' ++ short
      else padded ++ List.replicate (n - fractionDigits) '0'
    | none => padded.take 1 ++ ((padded.drop 1).reverse.dropWhile (· = '0')).reverse
  let count := digits.length - 1
  "0x".toList ++ withPoint digits count isForced ++ 'p' :: (if e < 0 then '-' else '+') :: Text.ofNat e.natAbs

def text (letter : Char) (precision : Option Nat) (isForced : Bool) : Binary64 → Text
  | nan _ => "nan".toList
  | infinite _ => "inf".toList
  | finite _ m e =>
    match letter with
    | 'f' => fixed m e (precision.getD 6) isForced
    | 'e' => scientific m e (precision.getD 6) isForced
    | 'g' => general m e (precision.getD 6) isForced
    | _ => hexadecimal m e precision isForced

def isFinite : Binary64 → Bool
  | finite _ _ _ => true
  | _ => false

end Binary64

end CommandShell.PosixShell
