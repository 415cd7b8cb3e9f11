import CommandShell.Syntax.CommandList
import CommandShell.Proofs.Syntax.Scanning

set_option autoImplicit false

namespace CommandShell

def EndsStage (rest : List Token) : Prop := ∀ t ∈ rest.head?, t = .pipe ∨ t = .semicolon ∨ t = .ampersand

def EndsPipeline (rest : List Token) : Prop := ∀ t ∈ rest.head?, t = .semicolon ∨ t = .ampersand

theorem ends_stage_of (rest : List Token) (noWord : ∀ w more, rest ≠ .word w :: more)
    (noBlock : ∀ body more, rest ≠ .subshell body :: more) : EndsStage rest := by
  intro t first
  obtain ⟨more, restEq⟩ := List.head?_eq_some_iff.1 first
  cases t with
  | word w => exact absurd restEq (noWord w more)
  | subshell body => exact absurd restEq (noBlock body more)
  | pipe => exact .inl rfl
  | semicolon => exact .inr (.inl rfl)
  | ampersand => exact .inr (.inr rfl)

namespace Stage

def flatten : Stage Word → List Token
  | simple words => words.map .word
  | subshell body => [.subshell body]

def WellFormed : Stage Word → Prop
  | simple words => words ≠ []
  | subshell _ => True

theorem split_words_append (words : List Word) (rest : List Token) (ends : EndsStage rest) :
    splitWords (words.map .word ++ rest) = (words, rest) := by
  induction words with
  | nil =>
      cases rest with
      | nil => rfl
      | cons t more =>
          rcases ends t rfl with rfl | rfl | rfl <;> rfl
  | cons w more ih => simp [splitWords, ih]

theorem append_of_split_words (tokens : List Token) :
    tokens = (splitWords tokens).1.map .word ++ (splitWords tokens).2 := by
  fun_induction splitWords tokens with
  | case1 w rest ih => simpa using ih
  | case2 tokens _ => simp

theorem split_words_rest (tokens : List Token) (w : Word) (more : List Token) :
    (splitWords tokens).2 ≠ .word w :: more := by
  fun_induction splitWords tokens with
  | case1 _ rest ih => exact ih
  | case2 tokens notWord => exact notWord w more

theorem flatten_of_parse (tokens rest : List Token) (s : Stage Word) (parsed : parse tokens = .ok (s, rest)) :
    s.WellFormed ∧ tokens = s.flatten ++ rest ∧ EndsStage rest := by
  unfold parse at parsed
  split at parsed
  · split at parsed
    · cases parsed
    · cases parsed
    · next body after _ notWord notBlock =>
        obtain ⟨rfl, rfl⟩ : subshell body = s ∧ after = rest := by simpa using parsed
        exact ⟨trivial, rfl, ends_stage_of after notWord notBlock⟩
  · split at parsed
    · cases parsed
    · cases parsed
    · next words after notBlock nonempty split =>
        obtain ⟨rfl, rfl⟩ : simple words = s ∧ after = rest := by simpa using parsed
        have whole := append_of_split_words tokens
        have noWord := split_words_rest tokens
        rw [split] at whole noWord
        exact ⟨nonempty, whole, ends_stage_of after noWord notBlock⟩

theorem parse_flatten (rest : List Token) (s : Stage Word) (wellFormed : s.WellFormed) (ends : EndsStage rest) :
    parse (s.flatten ++ rest) = .ok (s, rest) := by
  cases s with
  | subshell body =>
      cases rest with
      | nil => rfl
      | cons t more => rcases ends t rfl with rfl | rfl | rfl <;> rfl
  | simple words =>
      have split := split_words_append words rest ends
      cases words with
      | nil => exact absurd rfl wellFormed
      | cons w others =>
          simp only [flatten, List.map_cons, List.cons_append] at split ⊢
          cases rest with
          | nil => simp only [parse, split]
          | cons t more => rcases ends t rfl with rfl | rfl | rfl <;> simp only [parse, split]

theorem parse_ok_iff (tokens rest : List Token) (s : Stage Word) :
    parse tokens = .ok (s, rest) ↔ s.WellFormed ∧ tokens = s.flatten ++ rest ∧ EndsStage rest := by
  constructor
  · exact flatten_of_parse tokens rest s
  · rintro ⟨wellFormed, rfl, ends⟩
    exact parse_flatten rest s wellFormed ends

end Stage

namespace Pipeline

def flatten (p : Pipeline Word) : List Token := [Token.pipe].intercalate (p.stages.map Stage.flatten)

def WellFormed (p : Pipeline Word) : Prop := p.stages ≠ [] ∧ ∀ s ∈ p.stages, s.WellFormed

theorem flatten_one (s : Stage Word) : flatten ⟨s, []⟩ = s.flatten := List.intercalate_singleton

theorem flatten_more (s next : Stage Word) (more : List (Stage Word)) :
    flatten ⟨s, next :: more⟩ = s.flatten ++ .pipe :: flatten ⟨next, more⟩ := by
  simp [flatten, stages, List.intercalate_cons_cons]

theorem well_formed_more (s next : Stage Word) (more : List (Stage Word)) (first : s.WellFormed)
    (others : WellFormed ⟨next, more⟩) : WellFormed ⟨s, next :: more⟩ := by
  refine ⟨by simp [stages], fun stage member => ?_⟩
  rcases List.mem_cons.1 member with rfl | later
  · exact first
  · exact others.2 stage later

theorem flatten_of_parse (tokens rest : List Token) (p : Pipeline Word) (parsed : parse tokens = .ok (p, rest)) :
    p.WellFormed ∧ tokens = p.flatten ++ rest ∧ EndsPipeline rest := by
  fun_induction parse tokens generalizing p rest with
  | case1 tokens e failed => cases parsed
  | case2 tokens s after stage ih =>
      obtain ⟨⟨q, last⟩, others, same⟩ := (except_bind_ok_iff _ _ _).1 parsed
      obtain ⟨rfl, rfl⟩ : ⟨s, q.stages⟩ = p ∧ last = rest := by simpa [pure, Except.pure] using same
      obtain ⟨stageWell, rfl, _⟩ := (Stage.parse_ok_iff _ _ _).1 stage
      obtain ⟨restWell, afterEq, ends⟩ := ih last q others
      obtain ⟨next, more⟩ := q
      refine ⟨well_formed_more s next more stageWell restWell, ?_, ends⟩
      rw [afterEq]
      simp [stages, flatten_more]
  | case3 tokens s after notPipe stage =>
      obtain ⟨rfl, rfl⟩ : ⟨s, []⟩ = p ∧ after = rest := by simpa using parsed
      obtain ⟨stageWell, whole, ends⟩ := (Stage.parse_ok_iff _ _ _).1 stage
      refine ⟨⟨by simp [stages], by simpa [stages] using stageWell⟩, by rwa [flatten_one], ?_⟩
      intro t first
      rcases ends t first with rfl | other
      · obtain ⟨more, afterEq⟩ := List.head?_eq_some_iff.1 first
        exact absurd afterEq (notPipe more)
      · exact other

theorem parse_last (tokens rest : List Token) (s : Stage Word) (stage : Stage.parse tokens = .ok (s, rest))
    (notPipe : ∀ more, rest ≠ .pipe :: more) : parse tokens = .ok (⟨s, []⟩, rest) := by
  unfold parse
  split
  · next e failed => simp [stage] at failed
  · next s' after stage' =>
      obtain ⟨_, restEq⟩ : s = s' ∧ rest = .pipe :: after := by simpa [stage] using stage'
      exact absurd restEq (notPipe after)
  · next s' rest' _ stage' =>
      obtain ⟨rfl, rfl⟩ : s = s' ∧ rest = rest' := by simpa [stage] using stage'
      rfl

theorem parse_piped (tokens after : List Token) (s : Stage Word)
    (stage : Stage.parse tokens = .ok (s, .pipe :: after)) :
    parse tokens = (parse after).map fun read => (⟨s, read.1.stages⟩, read.2) := by
  rw [parse]
  split
  · next e failed => simp [stage] at failed
  · next s' after' stage' =>
      obtain ⟨rfl, rfl⟩ : s = s' ∧ after = after' := by simpa [stage] using stage'
      cases parse after <;> rfl
  · next s' rest' notPipe stage' =>
      obtain ⟨_, rfl⟩ : s = s' ∧ .pipe :: after = rest' := by simpa [stage] using stage'
      exact (notPipe after rfl).elim

theorem parse_flatten (first : Stage Word) (more : List (Stage Word)) (rest : List Token)
    (wellFormed : WellFormed ⟨first, more⟩) (ends : EndsPipeline rest) :
    parse (flatten ⟨first, more⟩ ++ rest) = .ok (⟨first, more⟩, rest) := by
  have firstWell : first.WellFormed := wellFormed.2 first (by simp [stages])
  induction more generalizing first with
  | nil =>
      have stage := Stage.parse_flatten rest first firstWell fun t found => .inr (ends t found)
      have notPipe : ∀ after, rest ≠ .pipe :: after := by
        rintro after rfl
        rcases ends .pipe rfl with same | same <;> cases same
      rw [flatten_one]
      exact parse_last _ rest first stage notPipe
  | cons next more ih =>
      have restWell : WellFormed ⟨next, more⟩ :=
        ⟨by simp [stages], fun s member => wellFormed.2 s (List.mem_cons_of_mem _ member)⟩
      have others := ih next restWell (restWell.2 next (by simp [stages]))
      have stage := Stage.parse_flatten (.pipe :: (flatten ⟨next, more⟩ ++ rest)) first firstWell
        fun t found => .inl (Option.some.inj found).symm
      rw [flatten_more, List.append_assoc, List.cons_append, parse_piped _ _ first stage, others]
      rfl

theorem parse_ok_iff (tokens rest : List Token) (p : Pipeline Word) :
    parse tokens = .ok (p, rest) ↔ p.WellFormed ∧ tokens = p.flatten ++ rest ∧ EndsPipeline rest := by
  constructor
  · exact flatten_of_parse tokens rest p
  · rintro ⟨wellFormed, rfl, ends⟩
    exact parse_flatten p.first p.rest rest wellFormed ends

end Pipeline

namespace CommandList

def flatten (list : CommandList Word) : List Token :=
  [Token.semicolon].intercalate (list.pipelines.map Pipeline.flatten) ++
    if list.background then [Token.ampersand] else []

structure WellFormed (list : CommandList Word) : Prop where
  pipelines : ∀ p ∈ list.pipelines, p.WellFormed
  background : list.background = true → list.pipelines ≠ []

-- What a line may look like that denotes `list`: its tokens, with a semicolon after them or not.
def Written (list : CommandList Word) (tokens : List Token) : Prop :=
  tokens = list.flatten ∨
    list.pipelines ≠ [] ∧ list.background = false ∧ tokens = list.flatten ++ [.semicolon]

theorem flatten_one (p : Pipeline Word) (background : Bool) :
    flatten ⟨[p], background⟩ = p.flatten ++ if background then [.ampersand] else [] := by
  simp [flatten]

theorem flatten_more (p next : Pipeline Word) (more : List (Pipeline Word)) (background : Bool) :
    flatten ⟨p :: next :: more, background⟩ = p.flatten ++ .semicolon :: flatten ⟨next :: more, background⟩ := by
  simp [flatten, List.intercalate_cons_cons]

-- What comes after the first pipeline decides: the list ends, goes on after a semicolon, or is refused.
def parseAfter (p : Pipeline Word) : List Token → Except SyntaxError (CommandList Word)
  | [] => .ok ⟨[p], false⟩
  | .semicolon :: rest => parse rest >>= fun list => .ok { list with pipelines := p :: list.pipelines }
  | [.ampersand] => .ok ⟨[p], true⟩
  | .ampersand :: _ => .error .misplacedAmpersand
  | _ => .error .misplacedSubshell

theorem parse_step (tokens rest : List Token) (p : Pipeline Word)
    (pipeline : Pipeline.parse tokens = .ok (p, rest)) : parse tokens = parseAfter p rest := by
  cases tokens with
  | nil => exact absurd (Pipeline.length_parse_lt pipeline) (Nat.not_lt_zero _)
  | cons t others =>
      rw [parse]
      split
      · next e failed =>
          rw [pipeline] at failed
          cases failed
      · next q last =>
          rw [pipeline] at last
          cases last
          rfl
      · next q after goesOn =>
          rw [pipeline] at goesOn
          cases goesOn
          rfl
      · next q background =>
          rw [pipeline] at background
          cases background
          rfl
      · next q more nonempty misplaced =>
          rw [pipeline] at misplaced
          cases misplaced
          cases more with
          | nil => exact (nonempty rfl).elim
          | cons next tail => rfl
      · next q after notEnd notSemicolon notLast notAmpersand other =>
          rw [pipeline] at other
          cases other
          unfold parseAfter
          split <;> simp_all

theorem parse_nonempty (tokens : List Token) (some : tokens ≠ []) :
    parse tokens = Pipeline.parse tokens >>= fun read => parseAfter read.1 read.2 := by
  cases pipeline : Pipeline.parse tokens with
  | ok read => exact parse_step tokens read.2 read.1 pipeline
  | error e =>
      cases tokens with
      | nil => exact absurd rfl some
      | cons t others =>
          rw [parse]
          split <;> simp_all [bind, Except.bind]

theorem written_more (p : Pipeline Word) (pipelines : List (Pipeline Word)) (background : Bool)
    (rest : List Token) (wellFormed : WellFormed ⟨pipelines, background⟩)
    (written : Written ⟨pipelines, background⟩ rest) :
    Written ⟨p :: pipelines, background⟩ (p.flatten ++ .semicolon :: rest) := by
  cases pipelines with
  | nil =>
      have quiet : background = false := by
        cases background with
        | false => rfl
        | true => exact absurd rfl (wellFormed.background rfl)
      subst quiet
      rcases written with rfl | ⟨nonempty, _⟩
      · exact .inr ⟨by simp, rfl, by simp [flatten]⟩
      · exact absurd rfl nonempty
  | cons next more =>
      rcases written with rfl | ⟨_, quiet, rfl⟩
      · exact .inl (flatten_more p next more background).symm
      · exact .inr ⟨by simp, quiet, by simp [flatten_more]⟩

theorem written_rest (p next : Pipeline Word) (others : List (Pipeline Word)) (background : Bool)
    (tokens : List Token) (written : Written ⟨p :: next :: others, background⟩ tokens) :
    ∃ rest, tokens = p.flatten ++ .semicolon :: rest ∧ Written ⟨next :: others, background⟩ rest := by
  rcases written with rfl | ⟨_, quiet, rfl⟩
  · exact ⟨_, flatten_more p next others background, .inl rfl⟩
  · exact ⟨_, by rw [flatten_more, List.append_assoc, List.cons_append], .inr ⟨by simp, quiet, rfl⟩⟩

theorem parse_nil : parse [] = .ok {} := by rw [parse]

theorem written_of_parse (tokens : List Token) (list : CommandList Word) (parsed : parse tokens = .ok list) :
    list.WellFormed ∧ list.Written tokens := by
  fun_induction parse tokens generalizing list with
  | case1 =>
      obtain rfl : {} = list := Except.ok.inj parsed
      exact ⟨⟨by simp, by simp⟩, .inl rfl⟩
  | case2 t others e failed => cases parsed
  | case3 t others p pipeline =>
      obtain rfl : ⟨[p], false⟩ = list := Except.ok.inj parsed
      obtain ⟨well, whole, _⟩ := (Pipeline.parse_ok_iff _ _ _).1 pipeline
      exact ⟨⟨by simpa using well, by simp⟩, .inl (by simpa [flatten_one] using whole)⟩
  | case4 t others p rest pipeline ih =>
      obtain ⟨inner, parsedRest, same⟩ := (except_bind_ok_iff _ _ _).1 parsed
      obtain rfl : { inner with pipelines := p :: inner.pipelines } = list := Except.ok.inj same
      obtain ⟨well, whole, _⟩ := (Pipeline.parse_ok_iff _ _ _).1 pipeline
      obtain ⟨innerWell, written⟩ := ih inner parsedRest
      have allWell : ∀ q ∈ p :: inner.pipelines, q.WellFormed := by
        intro q member
        rcases List.mem_cons.1 member with rfl | later
        · exact well
        · exact innerWell.pipelines q later
      refine ⟨⟨allWell, by simp⟩, ?_⟩
      rw [whole]
      exact written_more p inner.pipelines inner.background rest innerWell written
  | case5 t others p pipeline =>
      obtain rfl : ⟨[p], true⟩ = list := Except.ok.inj parsed
      obtain ⟨well, whole, _⟩ := (Pipeline.parse_ok_iff _ _ _).1 pipeline
      exact ⟨⟨by simpa using well, by simp⟩, .inl (by simpa [flatten_one] using whole)⟩
  | case6 t others p more _ pipeline => cases parsed
  | case7 t others p rest _ _ _ _ pipeline => cases parsed

theorem parse_written_last (p : Pipeline Word) (background : Bool) (tokens : List Token) (well : p.WellFormed)
    (written : Written ⟨[p], background⟩ tokens) : parse tokens = .ok ⟨[p], background⟩ := by
  have read (tail : List Token) (ends : EndsPipeline tail) : parse (p.flatten ++ tail) = parseAfter p tail :=
    parse_step _ tail p ((Pipeline.parse_ok_iff _ _ _).2 ⟨well, rfl, ends⟩)
  rcases written with rfl | ⟨_, quiet, rfl⟩
  · cases background with
    | false => simpa [flatten_one, parseAfter] using read [] (by simp [EndsPipeline])
    | true => simpa [flatten_one, parseAfter] using read [.ampersand] (by simp [EndsPipeline])
  · obtain rfl : background = false := quiet
    have after : parseAfter p [.semicolon] = .ok ⟨[p], false⟩ := by
      rw [parseAfter, parse_nil]
      rfl
    simpa [flatten_one, after] using read [.semicolon] (by simp [EndsPipeline])

theorem parse_of_written (pipelines : List (Pipeline Word)) (background : Bool) (tokens : List Token)
    (wellFormed : WellFormed ⟨pipelines, background⟩) (written : Written ⟨pipelines, background⟩ tokens) :
    parse tokens = .ok ⟨pipelines, background⟩ := by
  induction pipelines generalizing tokens with
  | nil =>
      cases background with
      | true => exact absurd rfl (wellFormed.background rfl)
      | false =>
          rcases written with rfl | ⟨nonempty, _⟩
          · exact parse_nil
          · exact absurd rfl nonempty
  | cons p more ih =>
      have well := wellFormed.pipelines p List.mem_cons_self
      cases more with
      | nil => exact parse_written_last p background tokens well written
      | cons next others =>
          obtain ⟨rest, rfl, writtenRest⟩ := written_rest p next others background tokens written
          have restWell : WellFormed ⟨next :: others, background⟩ :=
            ⟨fun q member => wellFormed.pipelines q (List.mem_cons_of_mem p member), by simp⟩
          have pipeline := (Pipeline.parse_ok_iff (p.flatten ++ .semicolon :: rest) (.semicolon :: rest) p).2
            ⟨well, rfl, by simp [EndsPipeline]⟩
          rw [parse_step _ _ p pipeline, parseAfter, ih rest restWell writtenRest]
          rfl

theorem parse_ok_iff (tokens : List Token) (list : CommandList Word) :
    parse tokens = .ok list ↔ list.WellFormed ∧ list.Written tokens := by
  constructor
  · exact written_of_parse tokens list
  · rintro ⟨wellFormed, written⟩
    exact parse_of_written list.pipelines list.background tokens wellFormed written

theorem of_line_blank (line : Text) (blank : scan line = .ok []) : ofLine line = .ok {} := by
  rw [ofLine, blank]
  exact parse_nil

theorem of_line_flatten (line : Text) (list : CommandList Word) (wellFormed : list.WellFormed)
    (scanned : scan line = .ok list.flatten) : ofLine line = .ok list := by
  rw [ofLine, scanned]
  exact (parse_ok_iff _ _).2 ⟨wellFormed, .inl rfl⟩

theorem of_line_one (line : Text) (s : Stage Word) (wellFormed : s.WellFormed) (scanned : scan line = .ok s.flatten) :
    ofLine line = .ok ⟨[⟨s, []⟩], false⟩ := by
  have pipeline : Pipeline.WellFormed ⟨s, []⟩ := ⟨by simp [Pipeline.stages], by simpa [Pipeline.stages] using wellFormed⟩
  have list : WellFormed ⟨[⟨s, []⟩], false⟩ := ⟨by simpa using pipeline, by simp⟩
  have tokens : s.flatten = flatten ⟨[⟨s, []⟩], false⟩ := by simp [flatten_one, Pipeline.flatten_one]
  exact of_line_flatten line _ list (tokens ▸ scanned)

theorem written_alone (list : CommandList Word) (tokens : List Token) (wellFormed : list.WellFormed)
    (written : list.Written tokens)
    (noOperator : Token.pipe ∉ tokens ∧ Token.semicolon ∉ tokens ∧ Token.ampersand ∉ tokens) :
    (list = {} ∧ tokens = []) ∨ ∃ s, list = ⟨[⟨s, []⟩], false⟩ ∧ tokens = s.flatten := by
  obtain ⟨noPipe, noSemicolon, noAmpersand⟩ := noOperator
  obtain rfl : tokens = list.flatten := by
    rcases written with whole | ⟨_, _, rfl⟩
    · exact whole
    · simp at noSemicolon
  obtain ⟨pipelines, background⟩ := list
  cases pipelines with
  | nil =>
      cases background with
      | true => exact absurd rfl (wellFormed.background rfl)
      | false => exact .inl ⟨rfl, rfl⟩
  | cons p more =>
      cases more with
      | cons next others => simp [flatten_more] at noSemicolon
      | nil =>
          cases background with
          | true => simp [flatten_one] at noAmpersand
          | false =>
              obtain ⟨s, rest⟩ := p
              cases rest with
              | cons next others => simp [flatten_one, Pipeline.flatten_more] at noPipe
              | nil => exact .inr ⟨s, rfl, by simp [flatten_one, Pipeline.flatten_one]⟩

theorem parsed_iff_written (tokens : List Token) (list : CommandList Word) :
    (parse tokens = .ok list ↔ list.WellFormed ∧ (tokens = list.flatten ∨
      list.pipelines ≠ [] ∧ list.background = false ∧ tokens = list.flatten ++ [.semicolon])) ∧
    (list.WellFormed → list.Written tokens → ∀ other : CommandList Word, other.WellFormed →
      other.Written tokens → other = list) ∧
    (parse tokens = .ok list → list.pipelines ≠ [] →
      ∃ stage, (list.pipelines[0]?.bind fun p => p.stages[0]?) = some stage) := by
  refine ⟨parse_ok_iff tokens list, ?_, ?_⟩
  · intro wellFormed written other otherWell otherWritten
    have parsed := (parse_ok_iff tokens list).2 ⟨wellFormed, written⟩
    have otherParsed := (parse_ok_iff tokens other).2 ⟨otherWell, otherWritten⟩
    rw [parsed] at otherParsed
    exact (Except.ok.inj otherParsed).symm
  · intro _ nonempty
    cases pipelinesEq : list.pipelines with
    | nil => exact absurd pipelinesEq nonempty
    | cons p more => exact ⟨p.first, rfl⟩

theorem parsed_iff_written_background :
    ∃ tokens list, parse tokens = .ok list ∧ list.background = true ∧
      tokens = [.word (.bare ['a']), .pipe, .subshell ['b'], .semicolon, .word (.bare ['c']), .ampersand] ∧
      (∀ other : CommandList Word, other.WellFormed → other.Written tokens → other = list) ∧
      ∃ stage, (list.pipelines[0]?.bind fun p => p.stages[0]?) = some stage := by
  have wellFormed : WellFormed ⟨[⟨.simple [.bare ['a']], [.subshell ['b']]⟩, ⟨.simple [.bare ['c']], []⟩], true⟩ :=
    ⟨by simp [Pipeline.WellFormed, Pipeline.stages, Stage.WellFormed], by simp⟩
  obtain ⟨parses, unique, first⟩ := parsed_iff_written
    [.word (.bare ['a']), .pipe, .subshell ['b'], .semicolon, .word (.bare ['c']), .ampersand] _
  have parsed := parses.2 ⟨wellFormed, .inl rfl⟩
  exact ⟨_, _, parsed, rfl, rfl, unique wellFormed (.inl rfl), first parsed (by simp)⟩

end CommandList

end CommandShell
