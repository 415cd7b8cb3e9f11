import CommandShell.Text.Blank
import CommandShell.Text.Number
import CommandShell.Text.WordCharacter

/-!
Which texts are log filters. A filter is a list of directives between commas:

    directive := level | target span? ('=' level?)? | span ('=' level?)?
    span      := '[' name? ('{' field '}')? ']'
-/

set_option autoImplicit false

namespace CommandShell

namespace LogFilter

inductive Fault where
  | level
  | directive
deriving DecidableEq, Repr

namespace Fault

def message : Fault → Text
  | level =>
    ("error parsing level filter: expected one of " ++
      "\"off\", \"error\", \"warn\", \"info\", \"debug\", \"trace\", or a number 0-5").toList
  | directive => "invalid filter directive".toList

def causes : Fault → List Text
  | level => [level.message, level.message]
  | directive => [directive.message]

end Fault

def levelNames : List Text := ["off", "error", "warn", "info", "debug", "trace"].map String.toList

def isLevel (text : Text) : Bool :=
  levelNames.contains (text.map Char.toLower) ||
    match text, Number.parse text with
    | '-' :: _, _ => false
    | _, .ok n => n ≤ 5
    | _, .error _ => false

inductive Place where
  | start
  | target
  | span
  | field (read : Bool)
  | afterField
  | afterSpan
deriving DecidableEq, Repr

def checkLevel (text : Text) : Option Fault :=
  if text.isEmpty || isLevel text then none else some .level

def checkFrom (whole : Text) : Place → Nat → Text → Option Fault
  | .target, _, [] | .afterSpan, _, [] => none
  | _, _, [] => some .directive
  | .start, position, c :: rest =>
    if c = '[' then checkFrom whole .span (position + 1) rest
    else if isLetterOrNumber c || ['-', ':', '_'].contains c then checkFrom whole .target (position + 1) rest
    else some .directive
  | .target, position, c :: rest =>
    if c = '=' then checkLevel (whole.drop (position + 1))
    else checkFrom whole (if c = '[' then .span else .target) (position + 1) rest
  | .span, position, c :: rest =>
    let place := if c = ']' then .afterSpan else if c = '\x7b' then .field false else .span
    checkFrom whole place (position + 1) rest
  | .field read, position, c :: rest =>
    if c = '\x7d' then if read then checkFrom whole .afterField (position + 1) rest else some .directive
    else checkFrom whole (.field true) (position + 1) rest
  | .afterField, position, c :: rest =>
    if c = ']' then checkFrom whole .afterSpan (position + 1) rest else some .directive
  | .afterSpan, position, c :: _ =>
    if c = '=' then checkLevel (whole.drop (position + 1)) else some .directive

def checkDirective (text : Text) : Option Fault :=
  checkFrom text .start 0 (Text.trimEnd (text.dropWhile isBlank))

def fault? (filter : Text) : Option Fault :=
  ((Text.splitAt ',' filter).filter (!·.isEmpty)).findSome? checkDirective

end LogFilter

end CommandShell
