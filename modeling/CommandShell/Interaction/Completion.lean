import CommandShell.Builtin.Basic
import CommandShell.Session.Basic
import CommandShell.Text.Blank

set_option autoImplicit false

namespace CommandShell

structure Completion where
  start : Nat
  candidates : List Text
deriving DecidableEq, Repr

namespace Completion

def splitWord (text : Text) : Text × Text :=
  let word := (text.reverse.takeWhile (!isBlank ·)).reverse
  (text.take (text.length - word.length), word)

def ofVariables (vars : Variables) (start : Text) : List Text :=
  (vars.names.filter start.isPrefixOf).map ('$' :: ·)

def isCommandPosition (text : Text) : Bool :=
  match (Text.trimEnd text).getLast? with
  | none => true
  | some c => c == '|' || c == ';' || c == '('

def ofBuiltins (word : Text) : List Text := (Builtin.all.map Builtin.name).filter word.isPrefixOf

def splitPath (path : Text) : Text × Text :=
  let name := (path.reverse.takeWhile (· ≠ '/')).reverse
  (path.take (path.length - name.length), name)

def offers (start name : Text) : Bool :=
  start.isPrefixOf name && (name.head? != some '.' || start.head? == some '.')

def ofFiles (fs : FileSystem) (directory word : Text) : List Text :=
  let (above, start) := splitPath word
  let place := Path.join directory above
  let names := ((fs.list place).toOption.getD []).filter (offers start)
  Text.sort (names.map fun name =>
    above ++ name ++ if fs.isDirectory (Path.join place name) then ['/'] else [])

def ofText (fs : FileSystem) (s : Session) (text : Text) : Completion :=
  let (before, word) := splitWord text
  { start := Text.byteLength before
    candidates := match word with
      | '$' :: name => ofVariables s.bindings name
      | _ => (if isCommandPosition before then ofBuiltins word else []) ++ ofFiles fs s.directory word }

end Completion

end CommandShell
