import CommandShell.Proofs.Calculator.Plain
import CommandShell.Proofs.Syntax.Flattening
import CommandShell.Proofs.Syntax.Rendering

set_option autoImplicit false

namespace CommandShell

open Calculator

def Token.Arithmetic : Token → Prop
  | .word w => w.quote = none ∧ ∀ c ∈ w.text, IsArithmetic c
  | .subshell _ => True
  | .pipe | .ampersand | .semicolon => False

namespace Mode

def Arithmetic : Mode → Prop
  | between => True
  | word d => (Token.word d.word).Arithmetic
  | quoted _ _ => False
  | block _ _ _ _ => True

theorem push_arithmetic (d : Draft) (c : Char) (char : IsArithmetic c) (word : (Token.word d.word).Arithmetic) :
    (Token.word (d.push c).word).Arithmetic := by
  rw [d.word_push]
  exact ⟨word.1, arithmetic_append d.word.text [c] word.2 (by simpa using char)⟩

theorem moves_keep_arithmetic (column : Nat) (m : Mode) (c : Char) (n : Mode) (done : List Token)
    (char : IsArithmetic c) (arithmetic : m.Arithmetic) (moves : Moves column m c n done) :
    n.Arithmetic ∧ ∀ t ∈ done, t.Arithmetic := by
  have nothing : (Token.word (Draft.word {})).Arithmetic := ⟨rfl, by simp [Draft.word]⟩
  have noQuote (q : Quote) (same : c = q.char) : False := by
    have none := arithmetic_no_quote c char
    rw [(quote_of_char_some_iff c q).2 same] at none
    cases none
  have noOperator (t : Token) (found : Token.operator? c = some t) : False := by
    rw [arithmetic_no_operator c char] at found
    cases found
  cases moves with
  | skip c blank => exact ⟨trivial, by simp⟩
  | openBlock => exact ⟨trivial, by simp⟩
  | openQuote q => exact (noQuote q rfl).elim
  | operator c t found => exact (noOperator t found).elim
  | begin c bare notOpen => exact ⟨push_arithmetic {} c char nothing, by simp⟩
  | endWord d c blank =>
      have whole : (Token.word d.word).Arithmetic := arithmetic
      exact ⟨trivial, by simpa using whole⟩
  | openInside d q => exact (noQuote q rfl).elim
  | operatorAfter d c t found => exact (noOperator t found).elim
  | extend d c bare => exact ⟨push_arithmetic d c char arithmetic, by simp⟩
  | close d q => exact arithmetic.elim
  | quote d q c inside => exact arithmetic.elim
  | blockOn opening depth deeper quote next body c goesOn => exact ⟨trivial, by simp⟩
  | blockEnd opening depth quote body c closes => exact ⟨trivial, by simp [Token.Arithmetic]⟩

end Mode

theorem scan_arithmetic (line : Text) (tokens : List Token) (arithmetic : ∀ c ∈ line, IsArithmetic c)
    (scanned : scan line = .ok tokens) : ∀ t ∈ tokens, t.Arithmetic := by
  have kept := scan_keeps (fun typed m => (∀ c ∈ typed, IsArithmetic c) → m.Arithmetic)
    (fun typed t => (∀ c ∈ typed, IsArithmetic c) → t.Arithmetic)
    (fun typed more t holds all => holds fun c member => all c (List.mem_append_left more member))
    (fun typed column m c n done holds moves => ?keeps) (fun _ _ holds => holds) line tokens (fun _ => trivial) scanned
  case keeps =>
    have both (all : ∀ x ∈ typed ++ [c], IsArithmetic x) : n.Arithmetic ∧ ∀ t ∈ done, t.Arithmetic :=
      Mode.moves_keep_arithmetic column m c n done (all c (by simp))
        (holds fun x member => all x (List.mem_append_left [c] member)) moves
    exact ⟨fun all => (both all).1, fun t member all => (both all).2 t member⟩
  exact fun t member => kept t member arithmetic

theorem scan_word_first (lead rest : Text) (c : Char) (tokens : List Token) (blank : lead.isAllBlank = true)
    (bare : IsBare c) (notOpen : c ≠ '(') (scanned : scan (lead ++ c :: rest) = .ok tokens) :
    ∃ w, tokens.head? = some (.word w) := by
  obtain ⟨n, early, last, reading, finishing, rfl⟩ := (scan_ok_iff _ _).1 scanned
  have begun := Mode.read_append_ok _ _ _ 0 lead [c] [] [] (Mode.read_blanks lead 0 blank)
    (Mode.read_one _ _ _ c [] (.begin c bare notOpen))
  rw [List.append_cons] at reading
  obtain ⟨more, others, same⟩ := Mode.read_rest _ _ n 0 (lead ++ [c]) rest [] early begun reading
  rw [same]
  exact Mode.read_word_first (.word (Draft.push {} c)) n _ rest more last trivial others finishing

section Group

variable (lead body after : Text) (blank : lead.isAllBlank = true) (closed : IsBlockBody body)
include blank closed

theorem read_group : Mode.between.read 0 (lead ++ '(' :: (body ++ [')'])) = .ok (.between, [.subshell body]) :=
  Mode.read_append_ok _ _ _ 0 lead _ [] _ (Mode.read_blanks lead 0 blank) (Mode.read_subshell body _ closed)

theorem scan_group (tokens : List Token) (scanned : scan (lead ++ '(' :: (body ++ ')' :: after)) = .ok tokens) :
    ∃ more, tokens = .subshell body :: more ∧ (more = [] → after.isAllBlank = true) := by
  obtain ⟨n, early, last, reading, finishing, rfl⟩ := (scan_ok_iff _ _).1 scanned
  have split : lead ++ '(' :: (body ++ ')' :: after) = (lead ++ '(' :: (body ++ [')'])) ++ after := by simp
  rw [split] at reading
  obtain ⟨more, others, rfl⟩ := Mode.read_rest _ _ n 0 _ after _ early (read_group lead body blank closed) reading
  refine ⟨more ++ last, rfl, fun nothing => Decidable.byContradiction fun notBlank => ?_⟩
  exact Mode.read_yields _ n _ after more last (fun _ => by simpa using notBlank) others finishing nothing

end Group

theorem sign_bare (c : Char) (sign : IsDigit c ∨ c = '-') : IsBare c ∧ c ≠ '(' := by
  have bare (c : Char) (arithmetic : IsArithmetic c) (notBlank : isBlank c = false) (notClosing : c ≠ ')') : IsBare c :=
    (is_bare_iff c).2 ⟨notBlank, notClosing, arithmetic_no_quote c arithmetic, arithmetic_no_operator c arithmetic⟩
  rcases sign with digit | rfl
  · have no (x : Char) (other : ¬ IsDigit x) : c ≠ x := fun same => other (same ▸ digit)
    exact ⟨bare c (.inr (.inl digit)) (digit_not_blank c digit) (no ')' (by decide)), no '(' (by decide)⟩
  · exact ⟨bare '-' (by decide) (by decide) (by decide), by decide⟩

structure Word.Arithmetic (w : Word) : Prop where
  unquoted : w.quote = none
  noCommand : w.commands = []
  some : w.text ≠ []
  chars : ∀ c ∈ w.text, IsArithmetic c

theorem word_arithmetic (w : Word) (arithmetic : (Token.word w).Arithmetic) (wellFormed : (Token.word w).WellFormed) :
    w.Arithmetic := by
  have bare : w.WellFormed := wellFormed
  rw [Word.WellFormed, arithmetic.1] at bare
  exact ⟨arithmetic.1, bare.1, bare.2.1, arithmetic.2⟩

theorem list_of_arithmetic (e : Expr) (t : Text) (derived : Derives .sum e t) (plain : e.Plain)
    (list : CommandList Word) (parsed : CommandList.ofLine t = .ok list) :
    (∃ words, list = ⟨[⟨.simple words, []⟩], false⟩ ∧ scan t = .ok (words.map .word) ∧ ∀ w ∈ words, w.Arithmetic) ∨
    ∃ body, list = ⟨[⟨.subshell body, []⟩], false⟩ ∧ Derives .sum e body := by
  obtain ⟨tokens, scanned, parsed⟩ := (except_bind_ok_iff _ _ _).1 parsed
  obtain ⟨listWell, written⟩ := (CommandList.parse_ok_iff tokens list).1 parsed
  have arithmetic := scan_arithmetic t tokens (derived.arithmetic _ _ _ plain) scanned
  have noOperator (t : Token) (operator : ¬ t.Arithmetic) : t ∉ tokens := fun member => operator (arithmetic t member)
  have alone := CommandList.written_alone list tokens listWell written
    ⟨noOperator .pipe id, noOperator .semicolon id, noOperator .ampersand id⟩
  have command (words : List Word) (tokensEq : tokens = words.map .word) : ∀ w ∈ words, w.Arithmetic := by
    intro w member
    have inTokens : Token.word w ∈ tokens := tokensEq ▸ List.mem_map_of_mem member
    exact word_arithmetic w (arithmetic _ inTokens) (scan_well_formed t tokens scanned _ inTokens)
  cases derived.begins _ _ _ plain with
  | sign lead rest c blank sign =>
      -- the first token is a word, so the one stage that can be is a command
      obtain ⟨bare, notOpen⟩ := sign_bare c sign
      obtain ⟨w, first⟩ := scan_word_first lead rest c tokens blank bare notOpen scanned
      rcases alone with ⟨_, rfl⟩ | ⟨s, rfl, tokensEq⟩
      · cases first
      · cases s with
        | subshell body =>
            rw [tokensEq] at first
            cases first
        | simple words =>
            rw [tokensEq] at scanned
            exact .inl ⟨words, rfl, scanned, command words tokensEq⟩
  | group lead body after inner blank innerDerived innerPlain onlyGroup =>
      -- the first token is a sub-shell, so that no other token follows, and the group is the whole expression
      have closed : IsBlockBody body := innerDerived.balanced _ _ _ innerPlain 0
      obtain ⟨more, rfl, nothing⟩ := scan_group lead body after blank closed tokens scanned
      rcases alone with ⟨_, none⟩ | ⟨s, rfl, tokensEq⟩
      · cases none
      · cases s with
        | subshell same =>
            obtain ⟨rfl, rfl⟩ : body = same ∧ more = [] := by simpa [Stage.flatten] using tokensEq
            obtain rfl := onlyGroup (nothing rfl)
            exact .inr ⟨body, rfl, innerDerived⟩
        | simple words =>
            cases words with
            | nil => cases tokensEq
            | cons w others => cases tokensEq

end CommandShell
