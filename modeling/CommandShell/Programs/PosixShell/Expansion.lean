import CommandShell.Programs.PosixShell.Arithmetic
import CommandShell.Programs.PosixShell.Glob
import CommandShell.Programs.PosixShell.State

set_option autoImplicit false

namespace CommandShell.PosixShell

inductive Tilde where
  | nowhere
  | start
  | assignment
deriving DecidableEq, Repr

structure Manner where
  isFull : Bool := false
  isQuoted : Bool := false
  -- Whether they are the word of a parameter, of which unquoted text is split too.
  isInner : Bool := false
  tilde : Tilde := .nowhere
deriving DecidableEq, Repr

abbrev Substitute := Option Command → Shell Text

namespace Own

def switchLetters (o : Own) : Text :=
  Switch.table.reverse.filterMap fun (s, _, letter) => if o.has s then letter else none

def scalar? (o : Own) (name : Text) : Option Text :=
  match name with
  | ['$'] => some (Text.ofNat mainProcess)
  | ['?'] => some (Text.ofInt o.status)
  | ['#'] => some (Text.ofNat o.arguments.length)
  | ['!'] => o.lastBackground.map Text.ofNat
  | ['-'] => some o.switchLetters
  | _ =>
    if name.all Char.isDigit then
      match (name.foldl (fun n c => n * 10 + (c.toNat - '0'.toNat)) 0) with
      | 0 => some o.name
      | n + 1 => o.arguments[n]?
    else o.value? name

def isList (name : Text) : Bool := name == ['@'] || name == ['*']

def parameter? (o : Own) (m : Manner) (name : Text) : Option Text :=
  if isList name then
    let apart := m.isFull && (!m.isQuoted || name == ['@'])
    some (Text.join (if apart then [parameterEnd] else o.joint) o.arguments)
  else o.scalar? name

end Own

def accountHome? (name : Text) : Option Text :=
  if name = "root".toList then some "/root".toList else none

def expandTilde (home? : Option Text) (m : Manner) (text : Text) (isLast : Bool) : Option (Text × Text) :=
  match text with
  | '~' :: rest =>
    let (name, after) := rest.span fun c => c != '/' && (m.tilde ≠ .assignment || c != ':')
    if after.isEmpty && !isLast then none
    else (if name.isEmpty then home? else accountHome? name).map (·, after)
  | _ => none

def textChunks (home? : Option Text) (m : Manner) (isLast : Bool) :
    (fuel : Nat) → (atStart : Bool) → (passedSign : Bool) → Text → List Chunk
  | 0, _, _, text => [.ofText text false]
  | fuel + 1, atStart, passedSign, text =>
    let splitting : Splitting := if m.isInner && m.isFull && !m.isQuoted then .atSeparators else .nowhere
    match if atStart then expandTilde home? m text isLast else none with
    | some (home, after) => .ofText home true :: textChunks home? m isLast fuel false passedSign after
    | none =>
      let stops (c : Char) : Bool := m.tilde = .assignment && (c == ':' || (c == '=' && !passedSign))
      match text.span (!stops ·) with
      | (_, []) => [.ofText text false splitting]
      | (before, c :: rest) =>
        .ofText (before ++ [c]) false splitting ::
          textChunks home? m isLast fuel true (passedSign || c = '=') rest

def chunkText (chunks : List Chunk) : Text := Glyph.text (chunks.flatMap Chunk.glyphs)

namespace Shell

def valueChunk (o : Own) (m : Manner) (name value : Text) : Chunk :=
  let splitting : Splitting :=
    if !m.isFull then .nowhere
    else if !m.isQuoted then .atSeparators
    else if name = ['@'] && !o.arguments.isEmpty then .betweenParameters
    else .nowhere
  .ofText value m.isQuoted splitting

def failUnset {α : Type} (name : Text) (suffix : String) : Shell α :=
  fail (name ++ ": parameter not set".toList ++ suffix.toList)

def assignResults : List (Text × Int) → Shell Unit
  | [] => return
  | (name, value) :: rest => do
    setValue name (Text.ofInt value) false
    assignResults rest

def evaluate (text : Text) : Shell Int := do
  let o ← own
  match Arithmetic.evaluate (fun name => (o.scalar? name).getD []) text with
  | .ok (value, assigned) =>
    assignResults assigned
    return value
  | .error fault => match fault.message text with
    | some message => fail message
    | none => throw (.killed 8)

mutual

def expandPieces (substitute : Substitute) (fuel : Nat) (m : Manner) (isFirst : Bool) (pieces : List Piece) :
    Shell (List Chunk) := do
  match fuel, pieces with
  | 0, _ => fail "word too deep".toList
  | _, [] => return []
  | fuel + 1, .mark :: .parameter ['@'] .value true :: .mark :: rest =>
    let chunks ← expandParameter substitute fuel { m with isQuoted := true } ['@'] .value
    return chunks ++ (← expandPieces substitute fuel m false rest)
  | fuel + 1, piece :: rest =>
    let chunks ← expandPiece substitute fuel m isFirst rest.isEmpty piece
    return chunks ++ (← expandPieces substitute fuel m false rest)

def expandPiece (substitute : Substitute) (fuel : Nat) (m : Manner) (isFirst isLast : Bool) (piece : Piece) :
    Shell (List Chunk) := do
  match fuel with
  | 0 => fail "word too deep".toList
  | fuel + 1 =>
    let o ← own
    match piece with
    | .mark => return [⟨[.mark], .nowhere⟩]
    | .text content true => return [.ofText content true]
    | .text content false =>
      let atStart := isFirst && m.tilde ≠ .nowhere && !m.isQuoted
      return textChunks (o.value? "HOME".toList) m isLast (content.length + 1) atStart (!isFirst) content
    | .parameter name use isQuoted =>
      expandParameter substitute fuel { m with isQuoted := m.isQuoted || isQuoted } name use
    | .command body isQuoted =>
      let m := { m with isQuoted := m.isQuoted || isQuoted }
      return [valueChunk o m [] (← substitute body)]
    | .arithmetic expression isQuoted =>
      let m := { m with isQuoted := m.isQuoted || isQuoted }
      let text := chunkText (← expandPieces substitute fuel {} true expression)
      return [valueChunk o m [] (Text.ofInt (← evaluate text))]

def expandParameter (substitute : Substitute) (fuel : Nat) (m : Manner) (name : Text) (use : Use) :
    Shell (List Chunk) := do
  match fuel with
  | 0 => fail "word too deep".toList
  | fuel + 1 =>
    let o ← own
    let inner := { m with isInner := true, tilde := if m.tilde = .assignment then .assignment else .start }
    let value? := o.parameter? m name
    match use with
    | .malformed => fail "Bad substitution".toList
    | .value => match value? with
      | some value => return [valueChunk o m name value]
      | none => if o.has .nounset then failUnset name "" else return []
    | .length => match value? with
      | some value => return [valueChunk o m [] (Text.ofNat value.length)]
      | none => if o.has .nounset then failUnset name "" else return [valueChunk o m [] ['0']]
    | .trim kind pattern => match value? with
      | none => if o.has .nounset then failUnset name "" else return []
      | some value =>
        let chunks ← expandPieces substitute fuel { tilde := .start } true pattern
        let items := Pattern.ofText (Glyph.pattern (chunks.flatMap Chunk.glyphs))
        let trim := if kind.fromEnd then Pattern.trimEnd else Pattern.trimStart
        return [valueChunk o m name (trim items kind.longest value)]
    | .fallback kind orNull word =>
      let value? := match value? with
        | some [] => if orNull then none else some []
        | other => other
      match kind, value? with
      | .default, none => expandPieces substitute fuel inner true word
      | .alternative, some _ => expandPieces substitute fuel inner true word
      | .alternative, none => return []
      | .assign, none =>
        let text := chunkText (← expandPieces substitute fuel { tilde := .start } true word)
        setValue name text false
        let o ← own
        return [valueChunk o m name ((o.parameter? m name).getD [])]
      | .complain, none =>
        if word.isEmpty then failUnset name (if orNull then " or null" else "")
        let text := chunkText (← expandPieces substitute fuel { tilde := .start } true word)
        fail (name ++ ": ".toList ++ text)
      | _, some value => return [valueChunk o m name value]

end

def maxWordDepth : Nat := 100000

def expandFields (substitute : Substitute) (word : List Piece) : Shell (List Text) := do
  let chunks ← expandPieces substitute maxWordDepth { isFull := true, tilde := .start } true word
  let o ← own
  let fs ← files
  let fields := Fields.split o.separators none chunks
  return fields.flatMap fun field =>
    let found := if o.has .noglob then [] else Glob.paths fs (Glyph.pattern field)
    if found.isEmpty then [Glyph.text field] else found

def expandText (substitute : Substitute) (tilde : Tilde) (word : List Piece) : Shell Text := do
  return chunkText (← expandPieces substitute maxWordDepth { tilde } true word)

def expandPattern (substitute : Substitute) (word : List Piece) : Shell Text := do
  let chunks ← expandPieces substitute maxWordDepth { tilde := .start } true word
  return Glyph.pattern (chunks.flatMap Chunk.glyphs)

def expandDocument (substitute : Substitute) (pieces : List Piece) : Shell Text := do
  return chunkText (← expandPieces substitute maxWordDepth { isQuoted := true } true pieces)

end Shell

end CommandShell.PosixShell
