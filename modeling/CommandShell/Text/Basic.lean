
set_option autoImplicit false

namespace CommandShell

abbrev Text := List Char

abbrev Bytes := List UInt8

abbrev CodeRanges := List (Nat × Nat)

namespace CodeRanges

def has (ranges : CodeRanges) (c : Char) : Bool :=
  ranges.any fun (low, high) => low ≤ c.toNat && c.toNat ≤ high

end CodeRanges

def digit? (c : Char) : Option Nat :=
  if '0' ≤ c ∧ c ≤ '9' then some (c.toNat - '0'.toNat) else none

namespace Text

def ofNat (n : Nat) : Text := Nat.toDigits 10 n

def ofInt : Int → Text
  | .ofNat n => ofNat n
  | .negSucc n => '-' :: ofNat (n + 1)

def join (separator : Text) (parts : List Text) : Text :=
  separator.intercalate parts

def splitAt (separator : Char) : Text → List Text
  | [] => [[]]
  | c :: rest =>
    if c = separator then [] :: splitAt separator rest
    else match splitAt separator rest with
      | [] => [[c]]
      | part :: parts => (c :: part) :: parts

def before (a b : Text) : Bool := decide (a < b)

def sort (texts : List Text) : List Text :=
  texts.mergeSort fun a b => !before b a

end Text

end CommandShell
