import CommandShell.Text.Basic

set_option autoImplicit false

namespace CommandShell

inductive NumberError where
  | empty
  | invalidDigit
  | tooLarge
  | tooSmall
deriving DecidableEq, Repr

namespace NumberError

def message : NumberError → Text
  | empty => "cannot parse integer from empty string".toList
  | invalidDigit => "invalid digit found in string".toList
  | tooLarge => "number too large to fit in target type".toList
  | tooSmall => "number too small to fit in target type".toList

end NumberError

namespace Number

def min : Int := -0x80000000

def max : Int := 0x7FFFFFFF

def digits (negative : Bool) : Int → Text → Except NumberError Int
  | n, [] => .ok n
  | n, c :: rest =>
    match digit? c with
    | none => .error .invalidDigit
    | some d =>
      let n := if negative then n * 10 - d else n * 10 + d
      if n < min then .error .tooSmall
      else if max < n then .error .tooLarge
      else digits negative n rest

def parse : Text → Except NumberError Int
  | [] => .error .empty
  | ['+'] => .error .invalidDigit
  | ['-'] => .error .invalidDigit
  | '+' :: rest => digits false 0 rest
  | '-' :: rest => digits true 0 rest
  | text => digits false 0 text

end Number

end CommandShell
