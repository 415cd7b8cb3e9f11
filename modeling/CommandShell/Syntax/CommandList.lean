import CommandShell.Syntax.Token

/-!
    list     := pipeline (';' pipeline)* ';'? '&'?
    pipeline := stage ('|' stage)*
    stage    := sub-shell | word+

Stages hold words when read and arguments when run, so the types take the kind of word as a parameter.
-/

set_option autoImplicit false

namespace CommandShell

inductive Stage (α : Type) where
  | simple (words : List α)
  | subshell (body : Text)
deriving DecidableEq, Repr

structure Pipeline (α : Type) where
  first : Stage α
  rest : List (Stage α) := []
deriving DecidableEq, Repr

structure CommandList (α : Type) where
  pipelines : List (Pipeline α) := []
  background : Bool := false
deriving DecidableEq, Repr

namespace Stage

variable {α β : Type} {m : Type → Type}

def words? : Stage α → Option (List α)
  | simple ws => some ws
  | subshell _ => none

def mapWordsM [Monad m] (f : List α → m (List β)) : Stage α → m (Stage β)
  | simple ws => simple <$> f ws
  | subshell body => pure (subshell body)

end Stage

namespace Pipeline

variable {α β : Type} {m : Type → Type}

def stages (p : Pipeline α) : List (Stage α) := p.first :: p.rest

def mapWordsM [Monad m] (f : List α → m (List β)) (p : Pipeline α) : m (Pipeline β) := do
  let first ← p.first.mapWordsM f
  let rest ← p.rest.mapM (Stage.mapWordsM f)
  return { first, rest }

end Pipeline

namespace CommandList

variable {α β : Type} {m : Type → Type}

def commands (list : CommandList α) : List (List α) :=
  list.pipelines.flatMap fun p => p.stages.filterMap Stage.words?

def mapWordsM [Monad m] (f : List α → m (List β)) (list : CommandList α) : m (CommandList β) := do
  let pipelines ← list.pipelines.mapM (Pipeline.mapWordsM f)
  return { pipelines, background := list.background }

end CommandList

def splitWords : List Token → List Word × List Token
  | .word w :: rest => (w :: (splitWords rest).1, (splitWords rest).2)
  | tokens => ([], tokens)

theorem length_split_words (tokens : List Token) :
    (splitWords tokens).1.length + (splitWords tokens).2.length = tokens.length := by
  fun_induction splitWords tokens with
  | case1 w rest ih => simp only [List.length_cons]; omega
  | case2 tokens _ => exact Nat.zero_add _

namespace Stage

def parse : List Token → Except SyntaxError (Stage Word × List Token)
  | .subshell body :: rest =>
    match rest with
    | .word _ :: _ => .error .misplacedSubshell
    | .subshell _ :: _ => .error .misplacedSubshell
    | _ => .ok (subshell body, rest)
  | tokens =>
    match splitWords tokens with
    | (_, .subshell _ :: _) => .error .misplacedSubshell
    | ([], _) => .error .emptyCommand
    | (words, rest) => .ok (simple words, rest)

theorem length_parse_lt {tokens rest : List Token} {s : Stage Word} (h : parse tokens = .ok (s, rest)) :
    rest.length < tokens.length := by
  fun_cases parse tokens <;> simp_all [parse]
  next words _ nonempty _ split =>
    have total := length_split_words tokens
    have positive := List.length_pos_iff.2 nonempty
    simp only [split] at total
    omega

end Stage

namespace Pipeline

def parse (tokens : List Token) : Except SyntaxError (Pipeline Word × List Token) :=
  match _h : Stage.parse tokens with
  | .error e => .error e
  | .ok (s, .pipe :: rest) => do
    let (p, rest) ← parse rest
    return (⟨s, p.stages⟩, rest)
  | .ok (s, rest) => .ok (⟨s, []⟩, rest)
termination_by tokens.length
decreasing_by exact Nat.lt_of_succ_lt (Stage.length_parse_lt _h)

theorem length_parse_lt {tokens rest : List Token} {p : Pipeline Word} (h : parse tokens = .ok (p, rest)) :
    rest.length < tokens.length := by
  fun_induction parse tokens generalizing p rest with
  | case1 => simp at h
  | case2 tokens s rest' eq ih =>
    have shorter := Stage.length_parse_lt eq
    match tail : parse rest' with
    | .error e => simp [tail, bind, Except.bind] at h
    | .ok (q, r) =>
      simp only [tail, bind, Except.bind, pure, Except.pure, Except.ok.injEq, Prod.mk.injEq] at h
      have := ih tail
      simp only [List.length_cons] at shorter
      rw [← h.2]
      omega
  | case3 tokens s rest' _ eq =>
    simp only [Except.ok.injEq, Prod.mk.injEq] at h
    rw [← h.2]
    exact Stage.length_parse_lt eq

end Pipeline

namespace CommandList

def parse (tokens : List Token) : Except SyntaxError (CommandList Word) :=
  match tokens with
  | [] => .ok {}
  | first :: others =>
    match _h : Pipeline.parse (first :: others) with
    | .error e => .error e
    | .ok (p, []) => .ok ⟨[p], false⟩
    | .ok (p, .semicolon :: rest) => do
      let list ← parse rest
      return { list with pipelines := p :: list.pipelines }
    | .ok (p, [.ampersand]) => .ok ⟨[p], true⟩
    | .ok (_, .ampersand :: _) => .error .misplacedAmpersand
    | .ok (_, _) => .error .misplacedSubshell
termination_by tokens.length
decreasing_by exact Nat.lt_of_succ_lt (Pipeline.length_parse_lt _h)

def ofLine (line : Text) : Except SyntaxError (CommandList Word) := do
  parse (← scan line)

end CommandList

end CommandShell
