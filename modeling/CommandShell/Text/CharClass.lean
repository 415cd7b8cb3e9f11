import CommandShell.Text.Basic

set_option autoImplicit false

namespace CommandShell

-- Named classes of characters; only ASCII is classified.
inductive CharClass where
  | alnum
  | alpha
  | blank
  | cntrl
  | digit
  | graph
  | lower
  | print
  | punct
  | space
  | upper
  | xdigit
deriving DecidableEq, Repr

namespace CharClass

def table : List (Text × CharClass) :=
  [("alnum", alnum), ("alpha", alpha), ("blank", blank), ("cntrl", cntrl), ("digit", digit),
   ("graph", graph), ("lower", lower), ("print", print), ("punct", punct), ("space", space),
   ("upper", upper), ("xdigit", xdigit)].map fun (name, k) => (name.toList, k)

def has (k : CharClass) (c : Char) : Bool :=
  match k with
  | alnum => c.isAlphanum
  | alpha => c.isAlpha
  | blank => c == ' ' || c == '\t'
  | cntrl => c < ' ' || c == '\x7f'
  | digit => c.isDigit
  | graph => '!' ≤ c && c ≤ '~'
  | lower => c.isLower
  | print => ' ' ≤ c && c ≤ '~'
  | punct => '!' ≤ c && c ≤ '~' && !c.isAlphanum
  | space => c == ' ' || ('\t' ≤ c && c ≤ '\r')
  | upper => c.isUpper
  | xdigit => c.isDigit || ('a' ≤ c && c ≤ 'f') || ('A' ≤ c && c ≤ 'F')

end CharClass

end CommandShell
