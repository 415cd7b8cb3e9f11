import CommandShell.Programs.PosixShell.Fields
import CommandShell.Text.CharClass

set_option autoImplicit false

namespace CommandShell.PosixShell

namespace Pattern

def classAtStart? (text : Text) : Option (CharClass × Text) :=
  CharClass.table.findSome? fun (name, k) =>
    let whole := ':' :: name ++ [':', ']']
    if whole.isPrefixOf text then some (k, text.drop whole.length) else none

inductive Member where
  | range (low high : Char)
  | named (k : CharClass)
deriving DecidableEq, Repr

inductive Item where
  | char (c : Char)
  | any
  | star
  | set (isNegated : Bool) (members : List Member)
deriving DecidableEq, Repr

-- Octets are compared as signed numbers.
def signed (c : Char) : Int := if c.toNat < 128 then c.toNat else c.toNat - 256

def Member.has (m : Member) (c : Char) : Bool :=
  match m with
  | range low high => signed low ≤ signed c && signed c ≤ signed high
  | named k => k.has c

def Item.isStar : Item → Bool
  | star => true
  | _ => false

def Item.accepts (i : Item) (c : Char) : Bool :=
  match i with
  | char own => c == own
  | any => true
  | star => false
  | set isNegated members => members.any (·.has c) != isNegated

def takeMembers : (length : Nat) → (isFirst : Bool) → Text → Option (List Member × Text)
  | 0, _, _ => none
  | _ + 1, _, [] => none
  | length + 1, isFirst, c :: rest =>
    let add (m : Member) (rest : Text) : Option (List Member × Text) :=
      (takeMembers length false rest).map fun (members, rest) => (m :: members, rest)
    if c = ']' && !isFirst then some ([], rest)
    else match if c = '[' then classAtStart? rest else none with
      | some (k, rest) => add (.named k) rest
      | none =>
        match if c = '\\' then rest else c :: rest with
        | low :: '-' :: '\\' :: high :: rest => add (.range low high) rest
        | low :: '-' :: high :: rest =>
          if high = ']' then add (.range low low) ('-' :: high :: rest) else add (.range low high) rest
        | low :: rest => add (.range low low) rest
        | [] => none

def items : (length : Nat) → Text → List Item
  | 0, _ => []
  | _ + 1, [] => []
  | _ + 1, ['\\'] => [.char '\\']
  | length + 1, '\\' :: c :: rest => .char c :: items length rest
  | length + 1, '?' :: rest => .any :: items length rest
  | length + 1, '*' :: rest => .star :: items length rest
  | length + 1, '[' :: rest =>
    let (isNegated, inner) := match rest with
      | '!' :: inner => (true, inner)
      | _ => (false, rest)
    match takeMembers rest.length true inner with
    | some (members, after) => .set isNegated members :: items length after
    | none => .char '[' :: items length rest
  | length + 1, c :: rest => .char c :: items length rest

def ofText (pattern : Text) : List Item := items pattern.length pattern

def tails : Text → List Text
  | [] => [[]]
  | c :: rest => (c :: rest) :: tails rest

def advance (found : List Text) (i : Item) : List Text :=
  if i.isStar then (found.head?.map tails).getD []
  else found.filterMap fun text => match text with
    | c :: rest => if i.accepts c then some rest else none
    | [] => none

-- What is left of a text after each of the ways `items` match its start, the longest rest first. All are
-- tails of one text, so a star needs only the tails of the longest.
def rests (items : List Item) (text : Text) : List Text := items.foldl advance [text]

def isMatch (items : List Item) (text : Text) : Bool := (rests items text).contains []

def firstPart (text : Text) : Text := text.takeWhile (· ≠ parameterEnd)

-- A text without the part of its start that matches; the whole text if none does. A match ends in the first
-- parameter, and if that is all matched in the longest way, the later ones go with it.
def trimStart (items : List Item) (longest : Bool) (text : Text) : Text :=
  let first := firstPart text
  let found := rests items first
  if longest && found.contains [] then []
  else match if longest then found.getLast? else found.head? with
    | some rest => rest ++ text.drop first.length
    | none => text

-- A text without the part of its end that matches; the whole text if none does. What matches ends with a
-- parameter, and later ones go with it. The longest match is looked for in the first one only.
def trimEnd (items : List Item) (longest : Bool) (text : Text) : Text :=
  let fits (n : Nat) : Bool := isMatch items (firstPart (text.drop n))
  let starts :=
    if longest then List.range ((firstPart text).length + 1) else (List.range (text.length + 1)).reverse
  match starts.find? fits with
  | some n => text.take n
  | none => text

end Pattern

end CommandShell.PosixShell
