import CommandShell.Proofs.Syntax.Flattening

set_option autoImplicit false

namespace CommandShell

theorem drop_left (tokens front rest : List Token) (pos : Nat) (split : tokens.drop pos = front ++ rest)
    (some : front ≠ []) : pos < tokens.length - rest.length ∧ rest = tokens.drop (tokens.length - rest.length) := by
  have suffix : rest <:+ tokens := ((List.suffix_append front rest).trans (split ▸ List.drop_suffix pos tokens))
  have positive := List.length_pos_iff.2 some
  have total := congrArg List.length split
  rw [List.length_drop, List.length_append] at total
  exact ⟨by omega, List.suffix_iff_eq_drop.1 suffix⟩

theorem Stage.flatten_nonempty (s : Stage Word) (wellFormed : s.WellFormed) : s.flatten ≠ [] := by
  cases s with
  | simple words => exact mt List.map_eq_nil_iff.1 wellFormed
  | subshell body => exact List.cons_ne_nil _ _

theorem Pipeline.flatten_nonempty (p : Pipeline Word) (wellFormed : p.WellFormed) : p.flatten ≠ [] := by
  obtain ⟨first, rest⟩ := p
  have some := first.flatten_nonempty (wellFormed.2 first List.mem_cons_self)
  cases rest with
  | nil => rwa [flatten_one]
  | cons next more => simp [flatten_more]

theorem Stage.parse_moves (tokens rest : List Token) (pos : Nat) (s : Stage Word)
    (parsed : parse (tokens.drop pos) = .ok (s, rest)) :
    pos < tokens.length - rest.length ∧ rest = tokens.drop (tokens.length - rest.length) := by
  obtain ⟨wellFormed, split, _⟩ := (parse_ok_iff _ rest s).1 parsed
  exact drop_left tokens s.flatten rest pos split (s.flatten_nonempty wellFormed)

theorem Pipeline.parse_moves (tokens rest : List Token) (pos : Nat) (p : Pipeline Word)
    (parsed : parse (tokens.drop pos) = .ok (p, rest)) :
    pos < tokens.length - rest.length ∧ rest = tokens.drop (tokens.length - rest.length) := by
  obtain ⟨wellFormed, split, _⟩ := (parse_ok_iff _ rest p).1 parsed
  exact drop_left tokens p.flatten rest pos split (p.flatten_nonempty wellFormed)

namespace CommandList

-- The end of a round of the loop: the token behind the pipeline is taken. `stray` is the answer at one that cannot stand
-- there.
def endRound (stray : SyntaxError) (tokens : List Token) (next : Nat) (list : CommandList Word) :
    Except SyntaxError (Nat × CommandList Word) :=
  match tokens[next]? with
  | none => .ok (next, list)
  | some .semicolon => .ok (next + 1, list)
  | some .ampersand =>
    if next + 1 < tokens.length then .error .misplacedAmpersand else .ok (next + 1, { list with background := true })
  | some _ => .error stray

def round (stray : SyntaxError) (tokens : List Token) (pos : Nat) (list : CommandList Word) :
    Except SyntaxError (Nat × CommandList Word) :=
  Pipeline.parse (tokens.drop pos) >>= fun read =>
    endRound stray tokens (tokens.length - read.2.length) { list with pipelines := list.pipelines ++ [read.1] }

-- The loop, for so many rounds at most; without an answer if tokens are left then.
def rounds (stray : SyntaxError) (tokens : List Token) (n pos : Nat) (list : CommandList Word) :
    Except SyntaxError (Option (CommandList Word)) :=
  if tokens.length ≤ pos then .ok (some list)
  else match n with
    | 0 => .ok none
    | n + 1 => round stray tokens pos list >>= fun read => rounds stray tokens n read.1 read.2

def extendedBy (list more : CommandList Word) : CommandList Word :=
  ⟨list.pipelines ++ more.pipelines, list.background || more.background⟩

theorem end_round_moves (stray : SyntaxError) (tokens : List Token) (next pos : Nat) (list after : CommandList Word)
    (inside : next ≤ tokens.length) (ended : endRound stray tokens next list = .ok (pos, after)) :
    next ≤ pos ∧ pos ≤ tokens.length := by
  unfold endRound at ended
  split at ended
  · cases ended
    exact ⟨Nat.le_refl next, inside⟩
  · next found =>
    cases ended
    exact ⟨Nat.le_succ next, (List.getElem?_eq_some_iff.1 found).1⟩
  · next found =>
    split at ended
    · cases ended
    · cases ended
      exact ⟨Nat.le_succ next, (List.getElem?_eq_some_iff.1 found).1⟩
  · cases ended

theorem round_moves (stray : SyntaxError) (tokens : List Token) (pos next : Nat) (list after : CommandList Word)
    (done : round stray tokens pos list = .ok (next, after)) : pos < next ∧ next ≤ tokens.length := by
  obtain ⟨⟨p, rest⟩, parsed, ended⟩ := (except_bind_ok_iff _ _ _).1 done
  have moved := (Pipeline.parse_moves tokens rest pos p parsed).1
  have behind := end_round_moves stray tokens _ next _ after (Nat.sub_le _ _) ended
  exact ⟨Nat.lt_of_lt_of_le moved behind.1, behind.2⟩

theorem rounds_over (stray : SyntaxError) (tokens : List Token) (n pos : Nat) (list : CommandList Word)
    (past : tokens.length ≤ pos) :
    rounds stray tokens n pos list = (parse (tokens.drop pos)).map fun more => some (list.extendedBy more) := by
  rw [rounds.eq_def, if_pos past, List.drop_eq_nil_of_le past, parse_nil]
  simp [Except.map, extendedBy]

-- What a pipeline leaves begins with a token that has an arm of its own, so that no token is ever met as a stray one.
theorem rounds_behind (stray : SyntaxError) (tokens rest : List Token) (n next : Nat) (p : Pipeline Word)
    (list : CommandList Word) (left : rest = tokens.drop next) (ends : EndsPipeline rest)
    (further : ∀ list, rounds stray tokens n (next + 1) list =
      (parse (tokens.drop (next + 1))).map fun more => some (list.extendedBy more)) :
    (endRound stray tokens next { list with pipelines := list.pipelines ++ [p] } >>= fun read =>
      rounds stray tokens n read.1 read.2) = (parseAfter p rest).map fun more => some (list.extendedBy more) := by
  have first : tokens[next]? = rest.head? := by rw [left, List.head?_drop]
  have behind : tokens.drop (next + 1) = rest.tail := by rw [left, List.tail_drop]
  rw [endRound, first]
  cases rest with
  | nil =>
      have past : tokens.length ≤ next := List.drop_eq_nil_iff.1 left.symm
      change rounds stray tokens n next _ = _
      rw [rounds_over stray tokens n next _ past, ← left, parse_nil]
      simp [parseAfter, Except.map, extendedBy]
  | cons t after =>
      rw [List.tail_cons] at behind
      rcases ends t rfl with rfl | rfl
      · change rounds stray tokens n (next + 1) _ = _
        rw [further, behind, parseAfter]
        cases parse after with
        | error e => rfl
        | ok more => simp [Except.map, bind, Except.bind, extendedBy]
      · cases after with
        | nil =>
            have last : ¬ next + 1 < tokens.length := Nat.not_lt.2 (List.drop_eq_nil_iff.1 behind)
            simp only [List.head?_cons, if_neg last]
            change rounds stray tokens n (next + 1) _ = _
            rw [further, behind, parse_nil]
            simp [parseAfter, Except.map, extendedBy]
        | cons u more =>
            have goesOn : next + 1 < tokens.length := by
              refine Nat.not_le.1 fun past => ?_
              rw [List.drop_eq_nil_of_le past] at behind
              cases behind
            simp only [List.head?_cons, if_pos goesOn]
            rfl

theorem rounds_eq_parse (stray : SyntaxError) (tokens : List Token) (n pos : Nat) (list : CommandList Word)
    (enough : tokens.length - pos ≤ n) :
    rounds stray tokens n pos list = (parse (tokens.drop pos)).map fun more => some (list.extendedBy more) := by
  induction n generalizing pos list with
  | zero => exact rounds_over stray tokens 0 pos list (by omega)
  | succ n ih =>
      by_cases past : tokens.length ≤ pos
      · exact rounds_over stray tokens (n + 1) pos list past
      · have nonempty : tokens.drop pos ≠ [] := by simpa using past
        rw [rounds.eq_def, if_neg past, parse_nonempty _ nonempty]
        simp only [round]
        cases parsed : Pipeline.parse (tokens.drop pos) with
        | error e => rfl
        | ok read =>
            obtain ⟨moved, left⟩ := Pipeline.parse_moves tokens read.2 pos read.1 parsed
            obtain ⟨_, _, ends⟩ := (Pipeline.parse_ok_iff _ read.2 read.1).1 parsed
            exact rounds_behind stray tokens read.2 n _ read.1 list left ends fun list => ih _ list (by omega)

theorem extended_by_empty (more : CommandList Word) : extendedBy {} more = more := by
  simp [extendedBy]

theorem list_reading_progresses (tokens : List Token) (pos : Nat) :
    (∀ s rest, Stage.parse (tokens.drop pos) = .ok (s, rest) →
      ∃ next, pos < next ∧ next ≤ tokens.length ∧ rest = tokens.drop next) ∧
    (∀ p rest, Pipeline.parse (tokens.drop pos) = .ok (p, rest) →
      ∃ next, pos < next ∧ next ≤ tokens.length ∧ rest = tokens.drop next ∧
        (tokens[next]? = some .semicolon ∨ tokens[next]? = some .ampersand ∨ tokens[next]? = none)) ∧
    (∀ stray list next after, round stray tokens pos list = .ok (next, after) → pos < next ∧ next ≤ tokens.length) ∧
    ∀ stray n, tokens.length - pos ≤ n → rounds stray tokens n pos {} = (parse (tokens.drop pos)).map some := by
  refine ⟨fun s rest parsed => ?_, fun p rest parsed => ?_, fun stray list next after =>
    round_moves stray tokens pos next list after, fun stray n enough => ?_⟩
  · obtain ⟨moved, left⟩ := Stage.parse_moves tokens rest pos s parsed
    exact ⟨_, moved, Nat.sub_le _ _, left⟩
  · obtain ⟨moved, left⟩ := Pipeline.parse_moves tokens rest pos p parsed
    obtain ⟨_, _, ends⟩ := (Pipeline.parse_ok_iff _ rest p).1 parsed
    refine ⟨_, moved, Nat.sub_le _ _, left, ?_⟩
    rw [← List.head?_drop, ← left]
    cases first : rest.head? with
    | none => exact .inr (.inr rfl)
    | some t =>
        rcases ends t first with rfl | rfl
        · exact .inl rfl
        · exact .inr (.inl rfl)
  · simp only [rounds_eq_parse stray tokens n pos {} enough, extended_by_empty]

theorem list_reading_progresses_piped :
    let tokens : List Token := [.word (.bare ['a']), .pipe, .subshell ['b'], .semicolon, .word (.bare ['c'])]
    let p : Pipeline Word := ⟨.simple [.bare ['a']], [.subshell ['b']]⟩
    Pipeline.parse (tokens.drop 0) = .ok (p, [.semicolon, .word (.bare ['c'])]) ∧
      (∃ next, 0 < next ∧ next ≤ tokens.length ∧ [.semicolon, .word (.bare ['c'])] = tokens.drop next ∧
        (tokens[next]? = some .semicolon ∨ tokens[next]? = some .ampersand ∨ tokens[next]? = none)) ∧
      ∀ stray, rounds stray tokens 5 0 {} = .ok (some ⟨[p, ⟨.simple [.bare ['c']], []⟩], false⟩) := by
  intro tokens p
  have wellFormed : WellFormed ⟨[p, ⟨.simple [.bare ['c']], []⟩], false⟩ :=
    ⟨by simp [p, Pipeline.WellFormed, Pipeline.stages, Stage.WellFormed], by simp⟩
  have first : Pipeline.parse (tokens.drop 0) = .ok (p, [.semicolon, .word (.bare ['c'])]) :=
    (Pipeline.parse_ok_iff _ _ p).2 ⟨wellFormed.pipelines p List.mem_cons_self, rfl, by simp [EndsPipeline]⟩
  have whole : parse (tokens.drop 0) = .ok ⟨[p, ⟨.simple [.bare ['c']], []⟩], false⟩ :=
    (parse_ok_iff _ _).2 ⟨wellFormed, .inl rfl⟩
  obtain ⟨_, pipeline, _, loop⟩ := list_reading_progresses tokens 0
  refine ⟨first, pipeline p _ first, fun stray => ?_⟩
  rw [loop stray 5 (Nat.le_refl 5), whole]
  rfl

end CommandList

end CommandShell
