import CommandShell.Files.FileSystem
import CommandShell.Programs.PosixShell.Fields
import CommandShell.Programs.PosixShell.Pattern
import CommandShell.Text.Octets

set_option autoImplicit false

namespace CommandShell.PosixShell

namespace Glob

def closesBracket : (length : Nat) → Text → Bool
  | 0, _ => false
  | length + 1, text =>
    match (if text.head? = some '\\' then text.tail else text) with
    | _ :: rest => rest.head? == some ']' || closesBracket length rest
    | [] => false

def isActive : Text → Bool
  | [] => false
  | '\\' :: _ :: rest => isActive rest
  | '*' :: _ => true
  | '?' :: _ => true
  | '[' :: rest =>
    closesBracket (rest.length + 1) (if rest.head? = some '!' then rest.tail else rest) || isActive rest
  | _ :: rest => isActive rest

def unescape : Text → Text
  | '\\' :: c :: rest => c :: unescape rest
  | c :: rest => c :: unescape rest
  | [] => []

def parts : Text → List Text
  | [] => [[]]
  | '\\' :: '/' :: rest => [] :: parts rest
  | '\\' :: c :: rest => match parts rest with
    | part :: others => ('\\' :: c :: part) :: others
    | [] => []
  | c :: rest =>
    if c = '/' then [] :: parts rest
    else match parts rest with
      | part :: others => (c :: part) :: others
      | [] => []

def exists? (fs : FileSystem) (path : Text) : Bool :=
  (fs.open? path).toBool ||
    match (path.reverse.span (· ≠ '/')) with
    | ([], _) => false
    | (name, above) =>
      match fs.locate (if above.isEmpty then ['.'] else above.reverse) with
      | .ok place => (fs.entry? (place ++ [name.reverse])).isSome
      | .error _ => false

def names (fs : FileSystem) (path : Text) : List Text :=
  match fs.list (if path.isEmpty then ['.'] else Octets.text path) with
  | .ok names => [['.'], ['.', '.']] ++ names.map Octets.ofText
  | .error _ => []

def matching (fs : FileSystem) (directory part : Text) : List Text :=
  let items := Pattern.ofText part
  let takesDots := (if part.head? = some '\\' then part.tail else part).head? == some '.'
  (names fs directory).filter fun name =>
    (takesDots || name.head? != some '.') && Pattern.isMatch items name

def pathsFrom (fs : FileSystem) (done : Text) : List Text → List Text
  | [] => []
  | [part] =>
    if isActive part then (matching fs done part).map (done ++ ·)
    else
      let path := done ++ unescape part
      if exists? fs (Octets.text path) then [path] else []
  | part :: rest =>
    if isActive part then
      (matching fs done part).flatMap fun name => pathsFrom fs (done ++ name ++ ['/']) rest
    else pathsFrom fs (done ++ unescape part ++ ['/']) rest

def paths (fs : FileSystem) (pattern : Text) : List Text :=
  let parts := parts pattern
  if parts.any isActive then Text.sort (pathsFrom fs [] parts) else []

end Glob

end CommandShell.PosixShell
