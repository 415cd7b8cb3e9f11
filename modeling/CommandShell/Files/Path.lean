import CommandShell.Text.Basic

set_option autoImplicit false

namespace CommandShell

namespace Path

inductive Component where
  | root
  | current
  | parent
  | normal (name : Text)
deriving DecidableEq, Repr

namespace Component

def name? : Component → Option Text
  | normal name => some name
  | _ => none

end Component

def isAbsolute (path : Text) : Bool := path.head? == some '/'

-- An absolute path replaces the base; a separator is added where the base does not end in one.
def join (base path : Text) : Text :=
  if isAbsolute path || base.isEmpty then path
  else if base.getLast? = some '/' then base ++ path
  else base ++ '/' :: path

def parts (path : Text) : List Text :=
  (Text.splitAt '/' path).filter (!·.isEmpty)

def components (path : Text) : List Component :=
  let inner := parts path
  let leading :=
    if isAbsolute path then [.root]
    else if inner.head? = some ['.'] then [.current]
    else []
  leading ++ (inner.filter (· ≠ ['.'])).map fun part => if part = ['.', '.'] then .parent else .normal part

def names (path : Text) : List Text := (components path).filterMap Component.name?

end Path

end CommandShell
