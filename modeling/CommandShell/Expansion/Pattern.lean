import CommandShell.Text.Basic

/-!
File name patterns: `?` is any character, `*` any sequence, `[..]` a class of characters and `[!..]` its
complement. A double `*` stands alone between separators, swallows the one after it, and matches up to a
separator or to the end.
-/

set_option autoImplicit false

namespace CommandShell

structure CharRange where
  low : Char
  high : Char
deriving DecidableEq, Repr

namespace Pattern

inductive Item where
  | char (c : Char)
  | anyChar
  | anySequence
  | anyDirectories
  | oneOf (ranges : List CharRange)
  | noneOf (ranges : List CharRange)
deriving DecidableEq, Repr

end Pattern

abbrev Pattern := List Pattern.Item

namespace Pattern

def ranges : Text → List CharRange
  | low :: '-' :: high :: rest => ⟨low, high⟩ :: ranges rest
  | c :: rest => ⟨c, c⟩ :: ranges rest
  | [] => []

inductive Place where
  | outside (fresh : Bool)
  -- In a class whose members so far are `members`, newest first.
  | inside (negated : Bool) (members : Text)

-- Reads a pattern; `none` if it has an unclosed class, three `*` in a row, or a misplaced double `*`.
def parseFrom : Place → Text → Option Pattern
  | .outside _, [] => some []
  | .outside _, '?' :: rest => (parseFrom (.outside false) rest).map (.anyChar :: ·)
  | .outside _, '*' :: '*' :: '*' :: _ => none
  | .outside fresh, '*' :: '*' :: rest =>
    if fresh then
      match rest with
      | [] => some [.anyDirectories]
      | '/' :: rest => (parseFrom (.outside true) rest).map (.anyDirectories :: ·)
      | _ => none
    else none
  | .outside _, '*' :: rest => (parseFrom (.outside false) rest).map (.anySequence :: ·)
  | .outside _, '[' :: '!' :: c :: rest => parseFrom (.inside true [c]) rest
  | .outside _, '[' :: '!' :: [] => none
  | .outside _, '[' :: c :: rest => parseFrom (.inside false [c]) rest
  | .outside _, '[' :: [] => none
  | .outside _, c :: rest => (parseFrom (.outside (c == '/')) rest).map (.char c :: ·)
  | .inside _ _, [] => none
  | .inside negated members, c :: rest =>
    if c = ']' then
      let members := ranges members.reverse
      (parseFrom (.outside false) rest).map ((if negated then .noneOf members else .oneOf members) :: ·)
    else parseFrom (.inside negated (c :: members)) rest

def parse? (text : Text) : Option Pattern := parseFrom (.outside true) text

def inRanges (ranges : List CharRange) (c : Char) : Bool :=
  ranges.any fun range => range.low ≤ c && c ≤ range.high

def Item.accepts (c : Char) : Item → Bool
  | .char c' => c == c'
  | .anyChar => true
  | .oneOf ranges => inRanges ranges c
  | .noneOf ranges => !inRanges ranges c
  | .anySequence => false
  | .anyDirectories => false

/-! What a pattern matches is found from its end, for all tails of a name at once: a list says for each
tail, the whole name first and the empty one last, whether it is matched. -/

def afterOne (accepts : Char → Bool) : Text → List Bool → List Bool
  | c :: rest, _ :: later => (accepts c && later.headD false) :: afterOne accepts rest later
  | _, _ => [false]

def afterStop (isStop : Char → Bool) : Text → List Bool → List Bool
  | c :: rest, _ :: later =>
    let below := afterStop isStop rest later
    ((isStop c && later.headD false) || below.headD false) :: below
  | _, later => later

def Item.before (item : Item) (name : Text) (later : List Bool) : List Bool :=
  match item with
  | .anySequence => later.zipWith (· || ·) (afterStop (fun _ => true) name later)
  | .anyDirectories => later.zipWith (· || ·) (afterStop (· == '/') name later)
  | item => afterOne item.accepts name later

def matchedTails (name : Text) : Pattern → List Bool
  | [] => name.map (fun _ => false) ++ [true]
  | item :: rest => item.before name (matchedTails name rest)

def matchesName (p : Pattern) (name : Text) : Bool := (matchedTails name p).headD false

end Pattern

end CommandShell
