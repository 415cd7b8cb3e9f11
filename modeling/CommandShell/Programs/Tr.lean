import CommandShell.Programs.Basic
import CommandShell.Programs.CharacterList

set_option autoImplicit false

namespace CommandShell.Translate

structure Job where
  complements : Bool := false
  deletes : Bool := false
  squeezes : Bool := false
  truncates : Bool := false
deriving DecidableEq, Repr

namespace Job

def options : OptionTable where
  letters := "AcCdst".toList
  words :=
    [("complement", 'c'), ("delete", 'd'), ("squeeze-repeats", 's'), ("truncate-set1", 't'), ("help", '?'),
     ("version", '!')].map fun (word, letter) => (word.toList, letter)
  isMixed := false

def turn (j : Job) (letter : Char) : Job :=
  match letter with
  | 'c' | 'C' => { j with complements := true }
  | 'd' => { j with deletes := true }
  | 's' => { j with squeezes := true }
  | 't' => { j with truncates := true }
  | _ => j

def minOperands (j : Job) : Nat := if j.deletes = j.squeezes then 2 else 1

def maxOperands (j : Job) : Nat := if j.deletes && !j.squeezes then 1 else 2

def operandFault? (j : Job) (operands : List Text) : Option (Text × Option Text) :=
  match operands.getLast? with
  | none => some ("missing operand".toList, none)
  | some last =>
    if operands.length < j.minOperands then
      let explanation :=
        if j.squeezes then "Two strings must be given when both deleting and squeezing repeats."
        else "Two strings must be given when translating."
      some ("missing operand after ".toList ++ Quoting.string last, some explanation.toList)
    else match operands[j.maxOperands]? with
      | some extra =>
        let explanation := "Only one string may be given when deleting without squeezing repeats.".toList
        some ("extra operand ".toList ++ Quoting.string extra,
          if operands.length = 2 then some explanation else none)
      | none => none

end Job

inductive Mismatch where
  | openRepeat
  | manyRepeats
  | equivalents
  | classes
  | misaligned
  | emptyTarget
  | classAtEnd
  | manyTargets
  | repeatUnused
deriving DecidableEq, Repr

def Mismatch.message : Mismatch → Text
  | openRepeat => "the [c*] repeat construct may not appear in string1".toList
  | manyRepeats => "only one [c*] repeat construct may appear in string2".toList
  | equivalents => "[=c=] expressions may not appear in string2 when translating".toList
  | classes =>
    "when translating, the only character classes that may appear in\nstring2 are 'upper' and 'lower'".toList
  | misaligned => "misaligned [:upper:] and/or [:lower:] construct".toList
  | emptyTarget => "when not truncating set1, string2 must be non-empty".toList
  | classAtEnd =>
    ("when translating with string1 longer than string2,\n" ++
      "the latter string must not end with a character class").toList
  | manyTargets =>
    ("when translating with complemented character classes,\n" ++
      "string2 must map all characters in the domain to one").toList
  | repeatUnused => "the [c*] construct may appear in string2 only when translating".toList

def case? : Element → Option CharClass
  | .named .upper => some .upper
  | .named .lower => some .lower
  | _ => none

structure Place where
  char : Char
  case : Option CharClass
  isFirst : Bool
deriving DecidableEq, Repr

-- The characters of a list. A class for a case counts once if `whole` says so.
def places (list : List Element) : List (List Place) :=
  list.map fun e => e.chars.zipIdx.map fun (c, n) => { char := c, case := case? e, isFirst := n = 0 }

-- Characters of two lists side by side. Where the second one stands for a case both classes are passed as a
-- whole. The answer says where the second one starts a case while the first one does not.
def pairs : (fuel : Nat) → List (List Place) → List (List Place) → List (Place × Place) × Bool
  | 0, _, _ => ([], false)
  | fuel + 1, [] :: others, targets => pairs fuel others targets
  | fuel + 1, sources, [] :: others => pairs fuel sources others
  | fuel + 1, (source :: sources) :: moreSources, (target :: targets) :: moreTargets =>
    let isWrong := target.isFirst && target.case.isSome && !(source.isFirst && source.case.isSome)
    let (rest, wrong) :=
      if target.case.isSome then pairs fuel moreSources moreTargets
      else pairs fuel (sources :: moreSources) (targets :: moreTargets)
    ((source, target) :: rest, isWrong || wrong)
  | _, [], (target :: _) :: _ => ([], target.isFirst && target.case.isSome)
  | _, _, [] => ([], false)

-- How many characters are in a list, where each class for a case that is turned into another one counts
-- once.
def discounted (pairs : List (Place × Place)) (sourceSize targetSize : Nat) : Nat × Nat :=
  let cases := 26
  pairs.foldl (fun (a, b) (_, target) =>
    if target.case.isSome then (a - (cases - 1), b - (cases - 1)) else (a, b)) (sourceSize, targetSize)

def fillRepeat (list : List Element) (room : Nat) : List Element :=
  list.map fun e => match e with
    | .repeated c none => .repeated c (some (room - size list))
    | other => other

def lastChar (list : List Element) : Except Mismatch Char :=
  match list.getLast? with
  | none => .error .emptyTarget
  | some (.char c) | some (.equivalents c) | some (.repeated c _) => .ok c
  | some (.range _ last) => .ok last
  | some (.named _) => .error .classAtEnd

def isNamed : Element → Bool
  | .named _ => true
  | _ => false

def isUniform (list : List Element) : Bool :=
  match list.flatMap Element.chars with
  | [] => false
  | c :: rest => rest.all (· = c)

def sourceSize (j : Job) (source : List Element) : Nat :=
  if j.complements then (allChars.filter fun c => !has source c).length else size source

def matchLists (j : Job) (source target : List Element) : Except Mismatch (List Element) := do
  let wanted := sourceSize j source
  let target := fillRepeat target (max wanted (size target))
  let isEquivalent (e : Element) : Bool := match e with
    | .equivalents _ => true
    | _ => false
  if target.any isEquivalent then throw .equivalents
  if target.any fun e => isNamed e && (case? e).isNone then throw .classes
  let checksCases := !j.complements && target.any isNamed
  let fuel := 2 * (size source + size target + source.length + target.length) + 4
  let (matched, isWrong) := pairs fuel (places source) (places target)
  if checksCases && isWrong then throw .misaligned
  let (wanted, present) :=
    if checksCases then discounted matched wanted (size target) else (wanted, size target)
  let isExtended := present < wanted && !j.truncates
  let target ←
    if !isExtended then pure target
    else if present = 0 then throw .emptyTarget
    else do pure (target ++ [.repeated (← lastChar target) (some (wanted - present))])
  let isFull := isExtended || present = wanted
  if j.complements && source.any isNamed && !(isFull && isUniform target) then throw .manyTargets
  return target

-- What each character becomes. Of several meanings the last one counts.
def meanings (j : Job) (source target : List Element) : List (Char × Char) :=
  if j.complements then
    ((allChars.filter fun c => !has source c).zip (target.flatMap Element.chars)).reverse
  else
    let fuel := 2 * (size source + size target + source.length + target.length) + 4
    let each := (pairs fuel (places source) (places target)).1.flatMap fun (source, target) =>
      match source.case, target.case with
      | some .lower, some .upper => (allChars.filter Char.isLower).map fun c => (c, c.toUpper)
      | some .upper, some .lower => (allChars.filter Char.isUpper).map fun c => (c, c.toLower)
      | _, _ => [(source.char, target.char)]
    each.reverse

def squeeze (isSqueezed : Char → Bool) : (before : Option Char) → Text → Text
  | _, [] => []
  | before, c :: rest =>
    if before = some c && isSqueezed c then squeeze isSqueezed before rest
    else c :: squeeze isSqueezed (some c) rest

def tabulate {α : Type} (f : Char → α) : Array α := (allChars.map f).toArray

def transform (j : Job) (source : List Element) (target : Option (List Element)) :
    Except Mismatch (Text → Text) := do
  if source.any isOpen then throw .openRepeat
  let chosen := tabulate fun c => has source c != j.complements
  let isChosen (c : Char) : Bool := chosen.getD c.toNat false
  match target with
  | none => return if j.deletes then fun text => text.filter (!isChosen ·) else squeeze isChosen none
  | some target =>
    if 1 < (target.filter isOpen).length then throw .manyRepeats
    if j.deletes then
      if target.any isOpen then throw .repeatUnused
      let squeezed := tabulate (has target)
      return fun text => squeeze (fun c => squeezed.getD c.toNat false) none (text.filter (!isChosen ·))
    else
      let target ← matchLists j source target
      let known := meanings j source target
      let becomes := tabulate fun c => (known.lookup c).getD c
      let translate (text : Text) : Text := text.map fun c => becomes.getD c.toNat c
      if !j.squeezes then return translate
      let squeezed := tabulate (has target)
      return fun text => squeeze (fun c => squeezed.getD c.toNat false) none (translate text)

def readLists (p : Process) : List Text → List Bytes × Except Fault (List (List Element))
  | [] => ([], .ok [])
  | text :: rest =>
    let (warnings, first) := ofText text
    let lines := warnings.map p.complaint
    match first with
    | .error fault => (lines, .error fault)
    | .ok list =>
      let (more, others) := readLists p rest
      (lines ++ more, others.map (list :: ·))

def run (p : Process) (input : Bytes) (j : Job) (operands : List Text) : Ending :=
  let (warnings, lists) := readLists p operands
  let writes := warnings.map fun line => (OutputStream.errors, line)
  let failed (message : Text) (taken : Nat) : Ending :=
    p.ending 1 (writes ++ [(.errors, p.complaint message)]) taken
  match lists with
  | .error fault => failed fault.message 0
  | .ok lists =>
    match transform j (lists.head?.getD []) lists.tail.head? with
    | .error mismatch => failed mismatch.message 0
    | .ok change =>
      match p.streams.input.fault with
      | some fault => failed ("read error: ".toList ++ fault.reason.1) 0
      | none =>
        let output := Octets.bytes (change (Octets.ofBytes input))
        if p.streams.output.fault.isSome && !output.isEmpty then
          failed "write error: Bad file descriptor".toList input.length
        else p.ending 0 (writes ++ [(.output, output)]) input.length

def program : Program := fun p input =>
  match Job.options.split (p.arguments.map Octets.ofText) with
  | .error fault => p.misused fault.message
  | .ok (letters, operands) =>
    if letters.contains '?' then
      let usage := "Usage: ".toList ++ p.name ++ " [OPTION]... STRING1 [STRING2]\n".toList
      p.ending 0 [(.output, Text.utf8 usage)] 0
    else if letters.contains '!' then p.ending 0 [] 0
    else
      let j := letters.foldl Job.turn {}
      match j.operandFault? operands with
      | some (fault, explanation) =>
        let explained := (explanation.map fun line => Octets.bytes (line ++ ['\n'])).getD []
        p.ending 1 [(.errors, p.complaint fault ++ explained ++ p.advice)] 0
      | none => run p input j operands

end CommandShell.Translate
