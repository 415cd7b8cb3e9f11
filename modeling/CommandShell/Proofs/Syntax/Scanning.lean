import CommandShell.Syntax.Token

set_option autoImplicit false

namespace CommandShell

theorem except_bind_ok_iff {ε α β : Type} (x : Except ε α) (f : α → Except ε β) (b : β) :
    (x >>= f) = .ok b ↔ ∃ a, x = .ok a ∧ f a = .ok b := by
  cases x with
  | error e => simp [bind, Except.bind]
  | ok a => simp [bind, Except.bind]

-- A character that goes into an unquoted word. An opening parenthesis does unless it would be the first.
structure IsBare (c : Char) : Prop where
  notBlank : isBlank c = false
  notSpecial : c ∉ ['"', '\'', '`', '|', '&', ';', ')']

-- One more character of a sub-shell block: the depth and the open quote after it, or nothing once the
-- parenthesis of depth one closes. Parentheses in quotes do not count.
def blockStep : Nat × Option Quote → Char → Option (Nat × Option Quote)
  | (depth, some q), c => some (depth, if c = q.char then none else some q)
  | (depth, none), c =>
    match Quote.ofChar? c with
    | some q => some (depth, some q)
    | none =>
      if c = '(' then some (depth + 1, none)
      else if c = ')' then if depth ≤ 1 then none else some (depth - 1, none)
      else some (depth, none)

namespace Mode

-- `Moves column m c n done`: in mode `m` the character `c` at `column` leads to mode `n` and completes `done`.
inductive Moves (column : Nat) : Mode → Char → Mode → List Token → Prop where
  | skip (c : Char) (blank : isBlank c = true) : Moves column between c between []
  | openBlock : Moves column between '(' (block column 0 none []) []
  | openQuote (q : Quote) : Moves column between q.char (quoted q (Draft.openQuote {} q)) []
  | operator (c : Char) (t : Token) (found : Token.operator? c = some t) : Moves column between c between [t]
  | begin (c : Char) (bare : IsBare c) (notOpen : c ≠ '(') : Moves column between c (word (Draft.push {} c)) []
  | endWord (d : Draft) (c : Char) (blank : isBlank c = true) : Moves column (word d) c between [.word d.word]
  | openInside (d : Draft) (q : Quote) : Moves column (word d) q.char (quoted q (d.openQuote q)) []
  | operatorAfter (d : Draft) (c : Char) (t : Token) (found : Token.operator? c = some t) :
      Moves column (word d) c between [.word d.word, t]
  | extend (d : Draft) (c : Char) (bare : IsBare c) : Moves column (word d) c (word (d.push c)) []
  | close (d : Draft) (q : Quote) : Moves column (quoted q d) q.char (word (d.closeQuote q)) []
  | quote (d : Draft) (q : Quote) (c : Char) (inside : c ≠ q.char) :
      Moves column (quoted q d) c (quoted q (d.push c)) []
  | blockOn (opening depth deeper : Nat) (quote next : Option Quote) (body : Text) (c : Char)
      (goesOn : blockStep (depth + 1, quote) c = some (deeper + 1, next)) :
      Moves column (block opening depth quote body) c (block opening deeper next (c :: body)) []
  | blockEnd (opening depth : Nat) (quote : Option Quote) (body : Text) (c : Char)
      (closes : blockStep (depth + 1, quote) c = none) :
      Moves column (block opening depth quote body) c between [.subshell body.reverse]

end Mode

theorem quote_of_char_some_iff (c : Char) (q : Quote) : Quote.ofChar? c = some q ↔ c = q.char := by
  constructor
  · intro found
    cases q <;> grind [Quote.ofChar?, Quote.char]
  · rintro rfl
    cases q <;> rfl

theorem quote_of_char_none_iff (c : Char) : Quote.ofChar? c = none ↔ c ∉ ['"', '\'', '`'] := by
  grind [Quote.ofChar?]

theorem operator_none_iff (c : Char) : Token.operator? c = none ↔ c ∉ ['|', '&', ';'] := by
  grind [Token.operator?]

theorem is_bare_iff (c : Char) :
    IsBare c ↔ isBlank c = false ∧ c ≠ ')' ∧ Quote.ofChar? c = none ∧ Token.operator? c = none := by
  rw [quote_of_char_none_iff, operator_none_iff]
  constructor
  · rintro ⟨notBlank, notSpecial⟩
    simp_all
  · rintro ⟨notBlank, notClosing, noQuote, noOperator⟩
    exact ⟨notBlank, by simp_all⟩

theorem char_kinds (c : Char) : isBlank c = true ∨ c = ')' ∨ (∃ q : Quote, c = q.char) ∨
    (∃ t, Token.operator? c = some t) ∨ IsBare c := by
  by_cases blank : isBlank c = true
  · exact .inl blank
  · by_cases closes : c = ')'
    · exact .inr (.inl closes)
    · cases found : Quote.ofChar? c with
      | some q => exact .inr (.inr (.inl ⟨q, (quote_of_char_some_iff c q).1 found⟩))
      | none =>
          cases operator : Token.operator? c with
          | some t => exact .inr (.inr (.inr (.inl ⟨t, rfl⟩)))
          | none =>
              have bare := (is_bare_iff c).2 ⟨by simpa using blank, closes, found, operator⟩
              exact .inr (.inr (.inr (.inr bare)))

theorem quote_char_distinct (q : Quote) :
    isBlank q.char = false ∧ q.char ≠ '(' ∧ q.char ≠ ')' ∧ Quote.ofChar? q.char = some q := by
  cases q <;> decide

theorem operator_distinct (c : Char) (t : Token) (found : Token.operator? c = some t) :
    isBlank c = false ∧ c ≠ '(' ∧ c ≠ ')' ∧ Quote.ofChar? c = none := by
  have cases : c = '|' ∨ c = '&' ∨ c = ';' := by grind [Token.operator?]
  rcases cases with rfl | rfl | rfl <;> decide

theorem block_step_plain (depth : Nat) (c : Char) (noQuote : Quote.ofChar? c = none) (notOpen : c ≠ '(')
    (notClosing : c ≠ ')') : blockStep (depth, none) c = some (depth, none) := by
  simp only [blockStep, noQuote, if_neg notOpen, if_neg notClosing]

theorem blocks_cons (c : Char) (rest : Text) (state next : Nat × Option Quote) (first : blockStep state c = some next) :
    (c :: rest).foldlM blockStep state = rest.foldlM blockStep next := by
  rw [List.foldlM_cons, first]
  rfl

theorem blocks_append (front rest : Text) (state next : Nat × Option Quote)
    (first : front.foldlM blockStep state = some next) :
    (front ++ rest).foldlM blockStep state = rest.foldlM blockStep next := by
  rw [List.foldlM_append, first]
  rfl

theorem block_step_positive (depth : Nat) (quote : Option Quote) (c : Char) (next : Nat × Option Quote)
    (goesOn : blockStep (depth + 1, quote) c = some next) : 0 < next.1 := by
  cases quote with
  | some q =>
      simp only [blockStep, Option.some.injEq] at goesOn
      simp [← goesOn]
  | none => grind [blockStep]

theorem block_step_closes (depth : Nat) (quote : Option Quote) (c : Char)
    (closes : blockStep (depth, quote) c = none) : depth ≤ 1 ∧ quote = none ∧ c = ')' := by
  cases quote with
  | some q => simp [blockStep] at closes
  | none => grind [blockStep]

namespace Mode

-- The scanner counts the open parentheses inside a block, and not the one that opened it.
theorem step_block (column opening depth : Nat) (quote : Option Quote) (body : Text) (c : Char) :
    (block opening depth quote body).step column c =
      match blockStep (depth + 1, quote) c with
      | some (deeper, next) => .ok (block opening (deeper - 1) next (c :: body), [])
      | none => .ok (between, [.subshell body.reverse]) := by
  cases quote with
  | some q => rfl
  | none =>
      cases found : Quote.ofChar? c with
      | some q => simp [step, blockStep, found]
      | none =>
          by_cases opens : c = '('
          · subst opens
            rfl
          · by_cases closes : c = ')'
            · subst closes
              cases depth <;> rfl
            · simp [step, blockStep, found, opens, closes]

theorem step_of_moves (column : Nat) (m n : Mode) (c : Char) (done : List Token)
    (moves : Moves column m c n done) : m.step column c = .ok (n, done) := by
  cases moves with
  | skip c blank => simp [step, blank]
  | openBlock => rfl
  | openQuote q =>
      obtain ⟨notBlank, notOpen, notClosing, found⟩ := quote_char_distinct q
      simp [step, notBlank, notOpen, notClosing, found]
  | operator c t found =>
      obtain ⟨notBlank, notOpen, notClosing, noQuote⟩ := operator_distinct c t found
      simp [step, notBlank, notOpen, notClosing, noQuote, found]
  | begin c bare notOpen =>
      obtain ⟨notBlank, notClosing, noQuote, noOperator⟩ := (is_bare_iff c).1 bare
      simp [step, notBlank, notOpen, notClosing, noQuote, noOperator]
  | endWord d c blank => simp [step, blank]
  | openInside d q =>
      obtain ⟨notBlank, notOpen, notClosing, found⟩ := quote_char_distinct q
      simp [step, notBlank, notClosing, found]
  | operatorAfter d c t found =>
      obtain ⟨notBlank, notOpen, notClosing, noQuote⟩ := operator_distinct c t found
      simp [step, notBlank, notClosing, noQuote, found]
  | extend d c bare =>
      obtain ⟨notBlank, notClosing, noQuote, noOperator⟩ := (is_bare_iff c).1 bare
      simp [step, notBlank, notClosing, noQuote, noOperator]
  | close d q => simp [step]
  | quote d q c inside => simp [step, inside]
  | blockOn opening depth deeper quote next body c goesOn => simp [step_block, goesOn]
  | blockEnd opening depth quote body c closes => simp [step_block, closes]

theorem moves_or_fails (column : Nat) (m : Mode) (c : Char) :
    (∃ n done, Moves column m c n done) ∨ c = ')' ∧ (m = between ∨ ∃ d, m = word d) := by
  cases m with
  | between =>
      by_cases opens : c = '('
      · subst opens
        exact .inl ⟨_, _, .openBlock⟩
      · rcases char_kinds c with blank | rfl | ⟨q, rfl⟩ | ⟨t, found⟩ | bare
        · exact .inl ⟨_, _, .skip c blank⟩
        · exact .inr ⟨rfl, .inl rfl⟩
        · exact .inl ⟨_, _, .openQuote q⟩
        · exact .inl ⟨_, _, .operator c t found⟩
        · exact .inl ⟨_, _, .begin c bare opens⟩
  | word d =>
      rcases char_kinds c with blank | rfl | ⟨q, rfl⟩ | ⟨t, found⟩ | bare
      · exact .inl ⟨_, _, .endWord d c blank⟩
      · exact .inr ⟨rfl, .inr ⟨d, rfl⟩⟩
      · exact .inl ⟨_, _, .openInside d q⟩
      · exact .inl ⟨_, _, .operatorAfter d c t found⟩
      · exact .inl ⟨_, _, .extend d c bare⟩
  | quoted q d =>
      by_cases closing : c = q.char
      · subst closing
        exact .inl ⟨_, _, .close d q⟩
      · exact .inl ⟨_, _, .quote d q c closing⟩
  | block opening depth quote body =>
      cases followed : blockStep (depth + 1, quote) c with
      | none => exact .inl ⟨_, _, .blockEnd opening depth quote body c followed⟩
      | some next =>
          obtain ⟨above, open'⟩ := next
          have positive := block_step_positive depth quote c _ followed
          obtain ⟨deeper, rfl⟩ : ∃ deeper, above = deeper + 1 := Nat.exists_eq_add_one.2 positive
          exact .inl ⟨_, _, .blockOn opening depth deeper quote open' body c followed⟩

theorem moves_of_step (column : Nat) (m n : Mode) (c : Char) (done : List Token)
    (stepped : m.step column c = .ok (n, done)) : Moves column m c n done := by
  rcases moves_or_fails column m c with ⟨n', done', moves⟩ | ⟨rfl, rfl | ⟨d, rfl⟩⟩
  · have same := step_of_moves column m n' c done' moves
    obtain ⟨rfl, rfl⟩ : n = n' ∧ done = done' := by simpa [stepped] using same
    exact moves
  · cases stepped
  · cases stepped

theorem step_ok_iff (column : Nat) (m n : Mode) (c : Char) (done : List Token) :
    m.step column c = .ok (n, done) ↔ Moves column m c n done :=
  ⟨moves_of_step column m n c done, step_of_moves column m n c done⟩

theorem read_nil (m : Mode) (column : Nat) : m.read column [] = .ok (m, []) := rfl

theorem read_cons (m : Mode) (column : Nat) (c : Char) (rest : Text) :
    m.read column (c :: rest) = (m.step column c >>= fun first =>
      first.1.read (column + 1) rest >>= fun others => .ok (others.1, first.2 ++ others.2)) := rfl

theorem read_append (m : Mode) (column : Nat) (a b : Text) :
    m.read column (a ++ b) = (m.read column a >>= fun first =>
      first.1.read (column + a.length) b >>= fun others => .ok (others.1, first.2 ++ others.2)) := by
  induction a generalizing m column with
  | nil =>
      change m.read column b = (m.read column b >>= fun others => .ok (others.1, others.2))
      cases m.read column b <;> rfl
  | cons c rest ih =>
      rw [List.cons_append, read_cons, read_cons, bind_assoc]
      refine bind_congr fun first => ?_
      rw [ih, List.length_cons, Nat.add_right_comm, ← Nat.add_assoc, bind_assoc, bind_assoc]
      refine bind_congr fun second => ?_
      rw [bind_assoc]
      refine bind_congr fun third => ?_
      rw [List.append_assoc]
      rfl

theorem read_cons_ok_iff (m n : Mode) (column : Nat) (c : Char) (rest : Text) (tokens : List Token) :
    m.read column (c :: rest) = .ok (n, tokens) ↔
      ∃ next done more, Moves column m c next done ∧ next.read (column + 1) rest = .ok (n, more) ∧
        tokens = done ++ more := by
  rw [read_cons, except_bind_ok_iff]
  constructor
  · rintro ⟨⟨next, done⟩, stepped, remaining⟩
    obtain ⟨⟨last, more⟩, reading, same⟩ := (except_bind_ok_iff _ _ _).1 remaining
    obtain ⟨rfl, rfl⟩ : last = n ∧ done ++ more = tokens := by simpa using same
    exact ⟨next, done, more, (step_ok_iff _ _ _ _ _).1 stepped, reading, rfl⟩
  · rintro ⟨next, done, more, moves, reading, rfl⟩
    exact ⟨(next, done), (step_ok_iff _ _ _ _ _).2 moves,
      (except_bind_ok_iff _ _ _).2 ⟨(n, more), reading, rfl⟩⟩

theorem read_append_ok (m middle n : Mode) (column : Nat) (a b : Text) (first second : List Token)
    (front : m.read column a = .ok (middle, first))
    (back : middle.read (column + a.length) b = .ok (n, second)) :
    m.read column (a ++ b) = .ok (n, first ++ second) := by
  rw [read_append, front]
  change (middle.read (column + a.length) b >>= _) = _
  rw [back]
  rfl

theorem read_rest (m middle n : Mode) (column : Nat) (a b : Text) (first tokens : List Token)
    (front : m.read column a = .ok (middle, first)) (whole : m.read column (a ++ b) = .ok (n, tokens)) :
    ∃ more, middle.read (column + a.length) b = .ok (n, more) ∧ tokens = first ++ more := by
  rw [read_append, front] at whole
  change (middle.read (column + a.length) b >>= fun others => .ok (others.1, first ++ others.2)) = _ at whole
  obtain ⟨⟨last, more⟩, reading, same⟩ := (except_bind_ok_iff _ _ _).1 whole
  obtain ⟨rfl, rfl⟩ : last = n ∧ first ++ more = tokens := by simpa using same
  exact ⟨more, reading, rfl⟩

-- What every move keeps holds of where a reading ends, and what every move yields holds of all tokens. Both may speak
-- of the text read so far; what is true of a token stays true when more is read.
theorem read_keeps_typed (P : Text → Mode → Prop) (Q : Text → Token → Prop)
    (stays : ∀ typed more t, Q typed t → Q (typed ++ more) t)
    (keeps : ∀ typed column m c n done, P typed m → Moves column m c n done →
      P (typed ++ [c]) n ∧ ∀ t ∈ done, Q (typed ++ [c]) t)
    (typed text : Text) (m n : Mode) (column : Nat) (tokens : List Token) (start : P typed m)
    (reading : m.read column text = .ok (n, tokens)) : P (typed ++ text) n ∧ ∀ t ∈ tokens, Q (typed ++ text) t := by
  induction text generalizing typed m column tokens with
  | nil =>
      obtain ⟨rfl, rfl⟩ : m = n ∧ [] = tokens := by simpa [read_nil] using reading
      exact ⟨by simpa using start, by simp⟩
  | cons c rest ih =>
      obtain ⟨next, done, more, moves, remaining, rfl⟩ := (read_cons_ok_iff m n column c rest tokens).1 reading
      obtain ⟨kept, first⟩ := keeps typed column m c next done start moves
      obtain ⟨ends, others⟩ := ih (typed ++ [c]) next (column + 1) more kept remaining
      rw [List.append_assoc, List.singleton_append] at ends others
      refine ⟨ends, fun t member => (List.mem_append.1 member).elim (fun early => ?_) (others t)⟩
      simpa using stays (typed ++ [c]) rest t (first t early)

end Mode

theorem scan_ok_iff (line : Text) (tokens : List Token) :
    scan line = .ok tokens ↔ ∃ m first last, Mode.between.read 0 line = .ok (m, first) ∧
      m.finish = .ok last ∧ tokens = first ++ last := by
  change (Mode.between.read 0 line >>= fun read => read.1.finish >>= fun last => .ok (read.2 ++ last)) =
    .ok tokens ↔ _
  rw [except_bind_ok_iff]
  constructor
  · rintro ⟨⟨m, first⟩, reading, rest⟩
    obtain ⟨last, finishing, same⟩ := (except_bind_ok_iff _ _ _).1 rest
    exact ⟨m, first, last, reading, finishing, (Except.ok.inj same).symm⟩
  · rintro ⟨m, first, last, reading, finishing, rfl⟩
    exact ⟨(m, first), reading, (except_bind_ok_iff _ _ _).2 ⟨last, finishing, rfl⟩⟩

theorem scan_keeps (P : Text → Mode → Prop) (Q : Text → Token → Prop)
    (stays : ∀ typed more t, Q typed t → Q (typed ++ more) t)
    (keeps : ∀ typed column m c n done, P typed m → Mode.Moves column m c n done →
      P (typed ++ [c]) n ∧ ∀ t ∈ done, Q (typed ++ [c]) t)
    (ends : ∀ typed d, P typed (.word d) → Q typed (.word d.word)) (line : Text) (tokens : List Token)
    (start : P [] .between) (scanned : scan line = .ok tokens) : ∀ t ∈ tokens, Q line t := by
  obtain ⟨m, first, last, reading, finishing, rfl⟩ := (scan_ok_iff line tokens).1 scanned
  obtain ⟨kept, early⟩ := Mode.read_keeps_typed P Q stays keeps [] line .between m 0 first start reading
  intro t member
  rcases List.mem_append.1 member with inFirst | inLast
  · exact early t inFirst
  · cases m with
    | between => simp [← Except.ok.inj finishing] at inLast
    | word d =>
        obtain rfl : t = .word d.word := by simpa [← Except.ok.inj finishing] using inLast
        exact ends line d kept
    | quoted q d => cases finishing
    | block opening depth quote body => cases finishing

end CommandShell
