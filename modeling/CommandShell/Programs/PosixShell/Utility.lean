import CommandShell.Text.Basic

set_option autoImplicit false

namespace CommandShell.PosixShell

inductive Utility where
  | dot
  | colon
  | bracket
  | aliases
  | background
  | leaveLoop
  | changeDirectory
  | command
  | nextRound
  | echo
  | eval
  | exec
  | exit
  | export
  | failure
  | foreground
  | getopts
  | hash
  | jobs
  | kill
  | local
  | printf
  | workingDirectory
  | read
  | readonly
  | leave
  | set
  | shift
  | test
  | times
  | trap
  | success
  | type
  | limit
  | mask
  | unsetAliases
  | unset
  | wait
deriving DecidableEq, Repr

namespace Utility

def table : List (Text × Utility) :=
  [(".", dot), (":", colon), ("[", bracket), ("alias", aliases), ("bg", background), ("break", leaveLoop),
   ("cd", changeDirectory), ("chdir", changeDirectory), ("command", command), ("continue", nextRound),
   ("echo", echo), ("eval", eval), ("exec", exec), ("exit", exit), ("export", «export»), ("false", failure),
   ("fg", foreground), ("getopts", getopts), ("hash", hash), ("jobs", jobs), ("kill", kill),
   ("local", «local»), ("printf", printf), ("pwd", workingDirectory), ("read", read), ("readonly", readonly),
   ("return", leave), ("set", set), ("shift", shift), ("test", test), ("times", times), ("trap", trap),
   ("true", success), ("type", type), ("ulimit", limit), ("umask", mask), ("unalias", unsetAliases),
   ("unset", unset), ("wait", wait)].map fun (name, u) => (name.toList, u)

def ofName? (name : Text) : Option Utility := table.lookup name

def isSpecial : Utility → Bool
  | dot | colon | leaveLoop | nextRound | eval | exec | exit | «export» | «local» | readonly | leave | set
  | shift | times | trap | unset => true
  | _ => false

def assigns : Utility → Bool
  | «export» | «local» | readonly => true
  | _ => false

end Utility

end CommandShell.PosixShell
