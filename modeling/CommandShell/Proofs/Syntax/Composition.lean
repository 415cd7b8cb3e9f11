import CommandShell.Proofs.Syntax.Flattening

set_option autoImplicit false

namespace CommandShell

def SyntaxError.shift (n : Nat) : SyntaxError → SyntaxError
  | unbalancedParen column => unbalancedParen (column + n)
  | e => e

def Token.separator (c : Char) : List Token := (operator? c).toList

namespace Mode

def shift (n : Nat) : Mode → Mode
  | block opening depth quote body => block (opening + n) depth quote body
  | m => m

theorem moves_shift (column n : Nat) (m next : Mode) (c : Char) (done : List Token)
    (moves : Moves column m c next done) : Moves (column + n) (m.shift n) c (next.shift n) done := by
  cases moves with
  | skip c blank => exact .skip c blank
  | openBlock => exact .openBlock
  | openQuote q => exact .openQuote q
  | operator c t found => exact .operator c t found
  | begin c bare notOpen => exact .begin c bare notOpen
  | endWord d c blank => exact .endWord d c blank
  | openInside d q => exact .openInside d q
  | operatorAfter d c t found => exact .operatorAfter d c t found
  | extend d c bare => exact .extend d c bare
  | close d q => exact .close d q
  | quote d q c inside => exact .quote d q c inside
  | blockOn opening depth deeper quote next body c goesOn => exact .blockOn _ depth deeper quote next body c goesOn
  | blockEnd opening depth quote body c closes => exact .blockEnd _ depth quote body c closes

theorem step_shift (m : Mode) (column n : Nat) (c : Char) : (m.shift n).step (column + n) c =
    ((m.step column c).mapError (SyntaxError.shift n)).map fun next => (next.1.shift n, next.2) := by
  rcases moves_or_fails column m c with ⟨next, done, moves⟩ | ⟨rfl, rfl | ⟨d, rfl⟩⟩
  · rw [step_of_moves _ _ _ _ _ moves, step_of_moves _ _ _ _ _ (moves_shift column n m next c done moves)]
    rfl
  · rfl
  · rfl

theorem read_shift (m : Mode) (column n : Nat) (text : Text) : (m.shift n).read (column + n) text =
    ((m.read column text).mapError (SyntaxError.shift n)).map fun read => (read.1.shift n, read.2) := by
  induction text generalizing m column with
  | nil => rfl
  | cons c rest ih =>
      rw [read_cons, read_cons, step_shift]
      cases m.step column c with
      | error e => rfl
      | ok next =>
          have others := ih next.1 (column + 1)
          rw [Nat.add_right_comm] at others
          change ((next.1.shift n).read (column + n + 1) rest >>= _) = _
          rw [others]
          change _ = ((next.1.read (column + 1) rest >>= _).mapError _).map _
          cases next.1.read (column + 1) rest <;> rfl

theorem finish_shift (m : Mode) (n : Nat) : (m.shift n).finish = m.finish.mapError (SyntaxError.shift n) := by
  cases m <;> rfl

theorem separator_kinds (x : Char) (separates : isBlank x = true ∨ x ∈ [';', '|', '&']) :
    (isBlank x = true ∧ Token.separator x = []) ∨ ∃ t, Token.operator? x = some t ∧ Token.separator x = [t] := by
  cases found : Token.operator? x with
  | some t => exact .inr ⟨t, rfl, by rw [Token.separator, found]; rfl⟩
  | none =>
      have noOperator := (operator_none_iff x).1 found
      have blank := separates.resolve_right fun operator => noOperator (by grind)
      exact .inl ⟨blank, by rw [Token.separator, found]; rfl⟩

theorem step_separator (m : Mode) (column : Nat) (x : Char) (last : List Token) (finishing : m.finish = .ok last)
    (separates : isBlank x = true ∨ x ∈ [';', '|', '&']) :
    m.step column x = .ok (between, last ++ Token.separator x) := by
  cases m with
  | between =>
      cases finishing
      rcases separator_kinds x separates with ⟨blank, same⟩ | ⟨t, found, same⟩
      · rw [same, List.append_nil]
        exact step_of_moves _ _ _ _ _ (.skip x blank)
      · rw [same]
        exact step_of_moves _ _ _ _ _ (.operator x t found)
  | word d =>
      cases finishing
      rcases separator_kinds x separates with ⟨blank, same⟩ | ⟨t, found, same⟩
      · rw [same, List.append_nil]
        exact step_of_moves _ _ _ _ _ (.endWord d x blank)
      · rw [same]
        exact step_of_moves _ _ _ _ _ (.operatorAfter d x t found)
  | quoted q d => cases finishing
  | block opening depth quote body => cases finishing

end Mode

theorem scan_separated (a b : Text) (x : Char) (tokens : List Token) (scanned : scan a = .ok tokens)
    (separates : isBlank x = true ∨ x ∈ [';', '|', '&']) : scan (a ++ x :: b) =
      ((scan b).mapError (SyntaxError.shift (a.length + 1))).map fun more => tokens ++ Token.separator x ++ more := by
  obtain ⟨m, first, last, reading, finishing, rfl⟩ := (scan_ok_iff a tokens).1 scanned
  have second := Mode.read_shift .between 0 (a.length + 1) b
  rw [Nat.zero_add] at second
  have whole : Mode.between.read 0 (a ++ x :: b) =
      (Mode.between.shift (a.length + 1)).read (a.length + 1) b >>= fun read =>
        .ok (read.1, first ++ (last ++ Token.separator x ++ read.2)) := by
    rw [Mode.read_append, reading]
    change (m.read (0 + a.length) (x :: b) >>= _) = _
    rw [Mode.read_cons, Mode.step_separator m _ x last finishing separates, Nat.zero_add]
    change ((Mode.between.read (a.length + 1) b >>= _) >>= _ : Except SyntaxError _) = _
    rw [bind_assoc]
    rfl
  rw [scan, scan, whole, second]
  cases Mode.between.read 0 b with
  | error e => rfl
  | ok read =>
      have ends := Mode.finish_shift read.1 (a.length + 1)
      change ((read.1.shift (a.length + 1)).finish >>= fun rest => pure (_ ++ rest)) =
        ((read.1.finish >>= fun rest => pure (read.2 ++ rest)).mapError _).map _
      rw [ends]
      cases read.1.finish with
      | error e => rfl
      | ok rest => exact congrArg Except.ok (by simp)

namespace Pipeline

variable {α : Type}

def joined (p q : Pipeline α) : Pipeline α := ⟨p.first, p.rest ++ q.stages⟩

theorem parse_joined (p : Pipeline Word) (rest : List Token) (wellFormed : p.WellFormed) :
    parse (p.flatten ++ .pipe :: rest) = (parse rest).map fun read => (p.joined read.1, read.2) := by
  obtain ⟨first, more⟩ := p
  have firstWell : first.WellFormed := wellFormed.2 first (by simp [stages])
  induction more generalizing first with
  | nil =>
      have stage := Stage.parse_flatten (.pipe :: rest) first firstWell fun t found => .inl (Option.some.inj found).symm
      rw [flatten_one, parse_piped _ rest first stage]
      rfl
  | cons next more ih =>
      have restWell : WellFormed ⟨next, more⟩ :=
        ⟨by simp [stages], fun s member => wellFormed.2 s (List.mem_cons_of_mem _ member)⟩
      have stage := Stage.parse_flatten (.pipe :: (flatten ⟨next, more⟩ ++ .pipe :: rest)) first firstWell
        fun t found => .inl (Option.some.inj found).symm
      rw [flatten_more, List.append_assoc, List.cons_append, parse_piped _ _ first stage,
        ih next restWell (restWell.2 next (by simp [stages]))]
      cases parse rest <;> rfl

end Pipeline

namespace CommandList

def pipeFirst (p : Pipeline Word) (list : CommandList Word) : CommandList Word :=
  { list with pipelines := match list.pipelines with
      | [] => []
      | q :: more => p.joined q :: more }

theorem parse_after_joined (p q : Pipeline Word) (rest : List Token) :
    parseAfter (p.joined q) rest = (parseAfter q rest).map (pipeFirst p) := by
  fun_cases parseAfter q rest with
  | case1 => rfl
  | case2 rest =>
      rw [parseAfter]
      cases parse rest <;> rfl
  | case3 => rfl
  | case4 more notLast =>
      cases more with
      | nil => exact (notLast rfl).elim
      | cons t others => rfl
  | case5 rest =>
      unfold parseAfter
      split <;> simp_all [Except.map]

theorem parse_piped (p : Pipeline Word) (rest : List Token) (wellFormed : p.WellFormed) (some : rest ≠ []) :
    parse (p.flatten ++ .pipe :: rest) = (parse rest).map (pipeFirst p) := by
  rw [parse_nonempty _ (by simp), parse_nonempty rest some, Pipeline.parse_joined p rest wellFormed]
  cases Pipeline.parse rest with
  | error e => rfl
  | ok read => exact parse_after_joined p read.1 read.2

theorem parse_sequenced (p : Pipeline Word) (rest : List Token) (wellFormed : p.WellFormed) :
    parse (p.flatten ++ .semicolon :: rest) =
      (parse rest).map fun list => { list with pipelines := p :: list.pipelines } := by
  have pipeline := (Pipeline.parse_ok_iff (p.flatten ++ .semicolon :: rest) (.semicolon :: rest) p).2
    ⟨wellFormed, rfl, by simp [EndsPipeline]⟩
  rw [parse_step _ _ p pipeline, parseAfter]
  cases parse rest <;> rfl

theorem parse_front (front : List (Pipeline Word)) (p : Pipeline Word) (rest : List Token)
    (wellFormed : ∀ q ∈ front, q.WellFormed) : parse (flatten ⟨front ++ [p], false⟩ ++ rest) =
      (parse (p.flatten ++ rest)).map fun list => { list with pipelines := front ++ list.pipelines } := by
  induction front with
  | nil =>
      rw [List.nil_append, flatten_one]
      simp only [Bool.false_eq_true, if_false, List.append_nil]
      cases parse (p.flatten ++ rest) <;> rfl
  | cons q more ih =>
      obtain ⟨next, others, moreEq⟩ := List.exists_cons_of_ne_nil (List.append_ne_nil_of_right_ne_nil more (List.cons_ne_nil p []))
      have later := ih fun r member => wellFormed r (List.mem_cons_of_mem q member)
      rw [List.cons_append, moreEq, flatten_more, ← moreEq, List.append_assoc, List.cons_append,
        parse_sequenced q _ (wellFormed q List.mem_cons_self), later]
      cases parse (p.flatten ++ rest) <;> rfl

end CommandList

theorem Stage.error_unplaced (tokens : List Token) (e : SyntaxError) (n : Nat) (failed : parse tokens = .error e) :
    e.shift n = e := by
  unfold parse at failed
  split at failed
  · split at failed <;> cases failed <;> rfl
  · split at failed <;> cases failed <;> rfl

theorem Pipeline.error_unplaced (tokens : List Token) (e : SyntaxError) (n : Nat) (failed : parse tokens = .error e) :
    e.shift n = e := by
  fun_induction parse tokens with
  | case1 tokens other stage =>
      obtain rfl : other = e := Except.error.inj failed
      exact Stage.error_unplaced tokens other n stage
  | case2 tokens s rest stage ih =>
      cases others : parse rest with
      | error other =>
          rw [others] at failed
          obtain rfl : other = e := Except.error.inj failed
          exact ih others
      | ok read =>
          rw [others] at failed
          cases failed
  | case3 tokens s rest notPipe stage => cases failed

theorem CommandList.error_unplaced (tokens : List Token) (e : SyntaxError) (n : Nat)
    (failed : parse tokens = .error e) : e.shift n = e := by
  fun_induction parse tokens with
  | case1 => cases failed
  | case2 t others other pipeline =>
      obtain rfl : other = e := Except.error.inj failed
      exact Pipeline.error_unplaced _ other n pipeline
  | case3 t others p pipeline => cases failed
  | case4 t others p rest pipeline ih =>
      cases later : parse rest with
      | error other =>
          rw [later] at failed
          obtain rfl : other = e := Except.error.inj failed
          exact ih later
      | ok list =>
          rw [later] at failed
          cases failed
  | case5 t others p pipeline => cases failed
  | case6 t others p more notLast pipeline =>
      cases failed
      rfl
  | case7 t others p rest =>
      cases failed
      rfl

namespace CommandList

theorem parse_shifted (tokens : List Token) (n : Nat) :
    (parse tokens).mapError (SyntaxError.shift n) = parse tokens := by
  cases parsed : parse tokens with
  | ok list => rfl
  | error e => exact congrArg Except.error (error_unplaced tokens e n parsed)

section Composed

variable (a b : Text) (tokens : List Token) (front : List (Pipeline Word)) (p : Pipeline Word)
  (scanned : scan a = .ok tokens) (parsed : ofLine a = .ok ⟨front ++ [p], false⟩)
  (goesOn : tokens.getLast? ≠ some .semicolon)

include scanned parsed goesOn

theorem tokens_of_list : tokens = flatten ⟨front ++ [p], false⟩ ∧ ∀ q ∈ front ++ [p], q.WellFormed := by
  rw [ofLine, scanned] at parsed
  obtain ⟨wellFormed, whole | ⟨_, _, rfl⟩⟩ := (parse_ok_iff _ _).1 parsed
  · exact ⟨whole, wellFormed.pipelines⟩
  · simp at goesOn

theorem of_line_sequenced : ofLine (a ++ ';' :: b) = ((ofLine b).mapError (SyntaxError.shift (a.length + 1))).map
    fun list => { list with pipelines := front ++ p :: list.pipelines } := by
  obtain ⟨rfl, wellFormed⟩ := tokens_of_list a tokens front p scanned parsed goesOn
  rw [ofLine, ofLine, scan_separated a b ';' _ scanned (.inr (by decide))]
  cases scan b with
  | error e => rfl
  | ok more =>
      change parse (flatten ⟨front ++ [p], false⟩ ++ [.semicolon] ++ more) = ((parse more).mapError _).map _
      rw [parse_shifted, List.append_assoc, List.singleton_append,
        parse_front front p _ fun q member => wellFormed q (List.mem_append_left _ member),
        parse_sequenced p more (wellFormed p (by simp))]
      cases parse more <;> rfl

theorem of_line_piped (some : scan b ≠ .ok []) : ofLine (a ++ '|' :: b) =
    ((ofLine b).mapError (SyntaxError.shift (a.length + 1))).map
      fun list => { list with pipelines := front ++ (list.pipeFirst p).pipelines } := by
  obtain ⟨rfl, wellFormed⟩ := tokens_of_list a tokens front p scanned parsed goesOn
  rw [ofLine, ofLine, scan_separated a b '|' _ scanned (.inr (by decide))]
  cases scannedB : scan b with
  | error e => rfl
  | ok more =>
      have nonempty : more ≠ [] := fun none => some (none ▸ scannedB)
      change parse (flatten ⟨front ++ [p], false⟩ ++ [.pipe] ++ more) = ((parse more).mapError _).map _
      rw [parse_shifted, List.append_assoc, List.singleton_append,
        parse_front front p _ fun q member => wellFormed q (List.mem_append_left _ member),
        parse_piped p more (wellFormed p (by simp)) nonempty]
      cases parse more <;> rfl

theorem of_line_pipe_last (none : scan b = .ok []) : ofLine (a ++ '|' :: b) = .error .emptyCommand := by
  obtain ⟨rfl, wellFormed⟩ := tokens_of_list a tokens front p scanned parsed goesOn
  have nothing : Pipeline.parse [] = .error .emptyCommand := by rw [Pipeline.parse]; rfl
  rw [ofLine, scan_separated a b '|' _ scanned (.inr (by decide)), none]
  change parse (flatten ⟨front ++ [p], false⟩ ++ [.pipe] ++ []) = _
  rw [List.append_nil, parse_front front p _ fun q member => wellFormed q (List.mem_append_left _ member),
    parse_nonempty _ (by simp), Pipeline.parse_joined p [] (wellFormed p (by simp)), nothing]
  rfl

end Composed

end CommandList

theorem lines_compose (a b : Text) (tokens : List Token) (scanned : scan a = .ok tokens) :
    (∀ x, isBlank x = true ∨ x ∈ [';', '|', '&'] →
      (∀ more, scan b = .ok more → scan (a ++ x :: b) = .ok (tokens ++ Token.separator x ++ more)) ∧
      (∀ e, scan b = .error e → scan (a ++ x :: b) = .error (e.shift (a.length + 1)))) ∧
    ∀ front p, CommandList.ofLine a = .ok ⟨front ++ [p], false⟩ → tokens.getLast? ≠ some .semicolon →
      ((scan b = .ok [] → CommandList.ofLine (a ++ ';' :: b) = .ok ⟨front ++ [p], false⟩) ∧
        (∀ list, CommandList.ofLine b = .ok list →
          CommandList.ofLine (a ++ ';' :: b) = .ok ⟨front ++ [p] ++ list.pipelines, list.background⟩) ∧
        ∀ e, CommandList.ofLine b = .error e → CommandList.ofLine (a ++ ';' :: b) = .error (e.shift (a.length + 1))) ∧
      (scan b = .ok [] → CommandList.ofLine (a ++ '|' :: b) = .error .emptyCommand) ∧
        (∀ q more background, CommandList.ofLine b = .ok ⟨q :: more, background⟩ →
          CommandList.ofLine (a ++ '|' :: b) = .ok ⟨front ++ p.joined q :: more, background⟩) ∧
        ∀ e, CommandList.ofLine b = .error e →
          CommandList.ofLine (a ++ '|' :: b) = .error (e.shift (a.length + 1)) := by
  refine ⟨fun x separates => ⟨fun more found => ?_, fun e failed => ?_⟩, fun front p parsed goesOn => ⟨?_, ?_, ?_, ?_⟩⟩
  · rw [scan_separated a b x tokens scanned separates, found]
    rfl
  · rw [scan_separated a b x tokens scanned separates, failed]
    rfl
  · have sequenced := CommandList.of_line_sequenced a b tokens front p scanned parsed goesOn
    refine ⟨fun none => ?_, fun list listed => ?_, fun e failed => ?_⟩
    · rw [sequenced, CommandList.of_line_blank b none]
      rfl
    · rw [sequenced, listed, List.append_assoc]
      rfl
    · rw [sequenced, failed]
      rfl
  · exact CommandList.of_line_pipe_last a b tokens front p scanned parsed goesOn
  · intro q more background listed
    have some : scan b ≠ .ok [] := fun none => by
      rw [CommandList.of_line_blank b none] at listed
      cases listed
    rw [CommandList.of_line_piped a b tokens front p scanned parsed goesOn some, listed]
    rfl
  · intro e failed
    have some : scan b ≠ .ok [] := fun none => by
      rw [CommandList.of_line_blank b none] at failed
      cases failed
    rw [CommandList.of_line_piped a b tokens front p scanned parsed goesOn some, failed]
    rfl

theorem lines_compose_piped :
    let word (c : Char) : Stage Word := .simple [.bare [c]]
    CommandList.ofLine "a;b".toList = .ok ⟨[⟨word 'a', []⟩, ⟨word 'b', []⟩], false⟩ ∧
    CommandList.ofLine "c|d;e&".toList = .ok ⟨[⟨word 'c', [word 'd']⟩, ⟨word 'e', []⟩], true⟩ ∧
    scan "a;b c|d;e&".toList = .ok [.word (.bare ['a']), .semicolon, .word (.bare ['b']), .word (.bare ['c']), .pipe,
      .word (.bare ['d']), .semicolon, .word (.bare ['e']), .ampersand] ∧
    CommandList.ofLine "a;b|c|d;e&".toList =
      .ok ⟨[⟨word 'a', []⟩, ⟨word 'b', [word 'c', word 'd']⟩, ⟨word 'e', []⟩], true⟩ ∧
    CommandList.ofLine "a;b|c)".toList = .error (.unbalancedParen 5) := by
  intro word
  have first : CommandList.ofLine "a;b".toList = .ok ⟨[⟨word 'a', []⟩, ⟨word 'b', []⟩], false⟩ :=
    CommandList.of_line_flatten _ _
      ⟨by simp [Pipeline.WellFormed, Pipeline.stages, Stage.WellFormed, word], by simp⟩ rfl
  have second : CommandList.ofLine "c|d;e&".toList = .ok ⟨[⟨word 'c', [word 'd']⟩, ⟨word 'e', []⟩], true⟩ :=
    CommandList.of_line_flatten _ _
      ⟨by simp [Pipeline.WellFormed, Pipeline.stages, Stage.WellFormed, word], by simp⟩ rfl
  obtain ⟨rows, lists⟩ := lines_compose "a;b".toList "c|d;e&".toList _ rfl
  obtain ⟨row, _⟩ := rows ' ' (.inl rfl)
  obtain ⟨_, _, joined, _⟩ := lists [⟨word 'a', []⟩] ⟨word 'b', []⟩ first (by decide)
  obtain ⟨_, refused⟩ := lines_compose "a;b".toList "c)".toList _ rfl
  obtain ⟨_, _, _, failed⟩ := refused [⟨word 'a', []⟩] ⟨word 'b', []⟩ first (by decide)
  exact ⟨first, second, row _ rfl, joined _ _ _ second, failed _ rfl⟩

end CommandShell
