import CommandShell.Text.Basic

set_option autoImplicit false

namespace CommandShell.PosixShell

-- A character of an expanded word, or a quotation mark, which makes a field exist.
inductive Glyph where
  | char (c : Char) (isQuoted : Bool)
  | mark
deriving DecidableEq, Repr

inductive Splitting where
  | nowhere
  | atSeparators
  | betweenParameters
deriving DecidableEq, Repr

structure Chunk where
  glyphs : List Glyph
  splitting : Splitting := .nowhere
deriving DecidableEq, Repr

namespace Chunk

def ofText (text : Text) (isQuoted : Bool) (splitting : Splitting := .nowhere) : Chunk :=
  ⟨text.map (.char · isQuoted), splitting⟩

end Chunk

namespace Glyph

def text (glyphs : List Glyph) : Text :=
  glyphs.filterMap fun g => match g with
    | char c _ => some c
    | mark => none

-- A field as a pattern. A backslash protects quoted characters, unless a bare one does so already.
def pattern (glyphs : List Glyph) : Text := go false glyphs
where
  go : (isProtected : Bool) → List Glyph → Text
    | _, [] => []
    | isProtected, mark :: rest => go isProtected rest
    | _, char '\\' false :: rest => '\\' :: go true rest
    | isProtected, char c isQuoted :: rest =>
      if isQuoted && !isProtected then '\\' :: c :: go false rest else c :: go false rest

end Glyph

def parameterEnd : Char := '\x00'

def blankSeparators : Text := " \t\n\x00".toList

namespace Fields

structure Progress where
  fields : List (List Glyph) := []
  current : List Glyph := []
  afterBlank : Bool := false
  -- How many fields are to be found; the last one of them keeps its separators.
  room : Option Nat := none
  -- Where the separators start that the last field loses again.
  excess : Option Nat := none

def pass (isSeparator : Char → Bool) (keepsBlanks : Bool) (p : Progress) (g : Glyph) : Progress :=
  let c := match g with
    | .char c _ => c
    | .mark => 'x'
  let separates := isSeparator c
  let isBlank := separates && blankSeparators.contains c
  let kept := { p with current := g :: p.current }
  if p.room = some 0 then
    if isBlank then { kept with excess := p.excess.or (some p.current.length) }
    else
      { kept with afterBlank := false, excess := if separates && p.afterBlank then p.excess else none }
  else
    let p := if p.afterBlank then { p with current := [] } else p
    if p.afterBlank && isBlank then p
    else if p.afterBlank && separates then { p with afterBlank := false }
    else if separates then
      let afterBlank := if keepsBlanks then p.afterBlank else isBlank
      if p.current.isEmpty && afterBlank then { p with afterBlank := false }
      else match p.room with
        | some 1 =>
          { p with room := some 0, afterBlank, excess := some p.current.length, current := g :: p.current }
        | _ => { p with
            fields := p.current.reverse :: p.fields
            current := []
            afterBlank
            room := p.room.map (· - 1) }
    else { p with current := g :: p.current, afterBlank := false }

def passChunk (separators : Text) (p : Progress) (before : Splitting) (chunk : Chunk) : Progress :=
  match chunk.splitting with
  | .nowhere => { p with current := chunk.glyphs.reverse ++ p.current }
  | .atSeparators =>
    let isSeparator (c : Char) : Bool := c == parameterEnd || separators.contains c
    chunk.glyphs.foldl (pass isSeparator (before = .betweenParameters)) { p with afterBlank := false }
  | .betweenParameters =>
    chunk.glyphs.foldl (pass (· == parameterEnd) true) { p with afterBlank := false }

def lastSplitting (before : Splitting) (chunk : Chunk) : Splitting :=
  if chunk.splitting = .nowhere then before else chunk.splitting

def split (separators : Text) (room : Option Nat) (chunks : List Chunk) : List (List Glyph) :=
  let (p, last) := chunks.foldl (fun (p, before) chunk =>
    (passChunk separators p before chunk, lastSplitting before chunk))
    (({ room } : Progress), Splitting.nowhere)
  let current := match p.excess with
    | some length => p.current.drop (p.current.length - length)
    | none => p.current
  if current.isEmpty && last ≠ .betweenParameters then p.fields.reverse
  else (current.reverse :: p.fields).reverse

end Fields

end CommandShell.PosixShell
