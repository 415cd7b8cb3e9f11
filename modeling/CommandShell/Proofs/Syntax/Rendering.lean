import CommandShell.Proofs.Syntax.Runs
import CommandShell.Proofs.Syntax.WellFormed

set_option autoImplicit false

namespace CommandShell

open Text

def quoteChar (c : Char) : Text := if c = '\'' then ['"', c, '"'] else ['\'', c, '\'']

def Piece.render : Piece → Text
  | .plain t => t.flatMap quoteChar
  | .command line => '`' :: (line ++ ['`'])

-- Only the first quote of a word is its mark, so that one must stand in front of all that needs quotes.
def Word.render (w : Word) : Text :=
  match w.quote with
  | none => w.text
  | some .double => ['"', '"'] ++ w.pieces.flatMap Piece.render
  | some .single => ['\'', '\''] ++ w.pieces.flatMap Piece.render
  | some .backtick =>
    match w.pieces with
    | .plain before :: rest => before ++ rest.flatMap Piece.render
    | pieces => pieces.flatMap Piece.render

def Token.render : Token → Text
  | .word w => w.render
  | .pipe => ['|']
  | .ampersand => ['&']
  | .semicolon => [';']
  | .subshell body => '(' :: (body ++ [')'])

def renderTokens (tokens : List Token) : Text := tokens.flatMap fun t => t.render ++ [' ']

namespace Mode

theorem read_quote_char (w : Word) (c : Char) (column : Nat) (marked : w.quote ≠ none) :
    (word w.draft).read column (quoteChar c) = .ok (word (Word.draft { w with text := w.text ++ [c] }), []) := by
  obtain ⟨mark, markEq⟩ := Option.ne_none_iff_exists'.1 marked
  by_cases single : c = '\''
  · subst single
    have part := read_quoted w .double ['\''] column (by decide)
    simpa [quoteChar, Quote.char, Word.addQuoted, markEq] using part
  · have part := read_quoted w .single [c] column (by simpa [Quote.char] using Ne.symm single)
    simpa [quoteChar, single, Quote.char, Word.addQuoted, markEq] using part

theorem read_quote_chars (w : Word) (t : Text) (column : Nat) (marked : w.quote ≠ none) :
    (word w.draft).read column (t.flatMap quoteChar) =
      .ok (word (Word.draft { w with text := w.text ++ t }), []) := by
  induction t generalizing w column with
  | nil => simp [read_nil]
  | cons c rest ih =>
      have first := read_quote_char w c column marked
      have others := ih { w with text := w.text ++ [c] } (column + (quoteChar c).length) marked
      rw [List.append_assoc] at others
      exact read_append_ok _ _ _ _ _ _ [] [] first others

theorem read_pieces (w : Word) (pieces : List Piece) (column : Nat) (marked : w.quote ≠ none)
    (clean : ∀ piece ∈ pieces, piece.Clean) :
    (word w.draft).read column (pieces.flatMap Piece.render) =
      .ok (word (Word.draft ⟨w.text ++ Piece.joined pieces, w.quote,
        w.commands ++ Piece.spansFrom (byteLength w.text) pieces⟩), []) := by
  induction pieces generalizing w column with
  | nil => simp [read_nil, Piece.joined, Piece.spansFrom]
  | cons piece rest ih =>
      have restClean : ∀ p ∈ rest, p.Clean := fun p member => clean p (List.mem_cons_of_mem piece member)
      have pieceClean := clean piece List.mem_cons_self
      cases piece with
      | plain t =>
          have first := read_quote_chars w t column marked
          have others := ih { w with text := w.text ++ t } (column + (t.flatMap quoteChar).length) marked restClean
          have both := read_append_ok _ _ _ _ _ _ [] [] first others
          simpa [Piece.render, Piece.joined, Piece.spansFrom, Piece.text] using both
      | command line =>
          have first := read_quoted w .backtick line column pieceClean
          obtain ⟨mark, markEq⟩ := Option.ne_none_iff_exists'.1 marked
          have stillMarked : (w.addQuoted .backtick line).quote = some mark := by simp [Word.addQuoted, markEq]
          have others := ih (w.addQuoted .backtick line) (column + (line.length + 2))
            (by simp [stillMarked]) restClean
          have both := read_append_ok _ _ _ _ _ _ [] [] first (by simpa using others)
          simpa [Piece.render, Piece.joined, Piece.spansFrom, Piece.text, Word.addQuoted, Quote.char, markEq]
            using both

theorem pieces_regions (w : Word) (regions : Regions w.text w.commands) :
    Piece.joined w.pieces = w.text ∧ Piece.spansFrom 0 w.pieces = w.commands ∧
      ∀ piece ∈ w.pieces, piece.Clean :=
  cut_regions w.commands [] w.text regions fun _ _ => Nat.zero_le _

theorem pieces_first (text : Text) (quote : Option Quote) (first : Span) (more : List Span) :
    ∃ rest, (⟨text, quote, first :: more⟩ : Word).pieces =
      .plain (splitBytes first.start text).1 :: .command (first.textIn text) :: rest :=
  ⟨_, rfl⟩

theorem read_marked (w : Word) (q : Quote) (column : Nat) (other : q ≠ .backtick) (mark : w.quote = some q)
    (regions : Regions w.text w.commands) :
    between.read column ([q.char, q.char] ++ w.pieces.flatMap Piece.render) = .ok (word w.draft, []) := by
  obtain ⟨joined, placed, clean⟩ := pieces_regions w regions
  have first := read_first_quoted q [] column (by simp)
  have marked : ((Word.bare []).addQuoted q []).quote ≠ none := by simp [Word.addQuoted, Word.bare]
  have others := read_pieces ((Word.bare []).addQuoted q []) w.pieces (column + 2) marked clean
  have both := read_append_ok _ _ _ _ _ _ [] [] first others
  have whole : (⟨w.text, some q, w.commands⟩ : Word) = w := by rw [← mark]
  simpa [Word.addQuoted, Word.bare, other, joined, placed, byteLength, whole] using both

theorem read_bare_region (before line : Text) (column : Nat) (bare : IsBareText before) (noBacktick : '`' ∉ line) :
    between.read column (before ++ '`' :: (line ++ ['`'])) =
      .ok (word ((Word.bare before).addQuoted .backtick line).draft, []) := by
  cases before with
  | nil => exact read_first_quoted .backtick line column noBacktick
  | cons c rest =>
      have notOpen : c ≠ '(' := fun same => bare.notOpen (by rw [same]; rfl)
      have first := read_first_bare c rest column bare.bare notOpen
      have second := read_quoted (Word.bare (c :: rest)) .backtick line (column + (c :: rest).length) noBacktick
      exact read_append_ok _ _ _ _ _ _ [] [] first second

theorem read_region_pieces (before line : Text) (rest : List Piece) (column : Nat) (bare : IsBareText before)
    (clean : ∀ piece ∈ .command line :: rest, piece.Clean) :
    between.read column (before ++ '`' :: (line ++ ['`']) ++ rest.flatMap Piece.render) =
      .ok (word (Word.draft ⟨Piece.joined (.plain before :: .command line :: rest), some .backtick,
        Piece.spansFrom 0 (.plain before :: .command line :: rest)⟩), []) := by
  have noBacktick : '`' ∉ line := clean (.command line) List.mem_cons_self
  have front := read_bare_region before line column bare noBacktick
  have others := read_pieces ((Word.bare before).addQuoted .backtick line) rest
    (column + (before ++ '`' :: (line ++ ['`'])).length) (by simp [Word.addQuoted, Word.bare])
    fun piece member => clean piece (List.mem_cons_of_mem _ member)
  have both := read_append_ok _ _ _ _ _ _ [] [] front others
  simpa [Piece.joined, Piece.spansFrom, Piece.text, Word.addQuoted, Word.bare] using both

theorem read_backtick (w : Word) (column : Nat) (mark : w.quote = some .backtick)
    (wellFormed : w.WellFormed) : between.read column w.render = .ok (word w.draft, []) := by
  obtain ⟨text, quote, commands⟩ := w
  obtain rfl : quote = some .backtick := mark
  obtain ⟨regions, first, found, bare⟩ := wellFormed
  obtain ⟨more, rfl⟩ : ∃ more, commands = first :: more := List.head?_eq_some_iff.1 found
  obtain ⟨rest, pieces⟩ := pieces_first text (some .backtick) first more
  obtain ⟨joined, placed, clean⟩ := pieces_regions _ regions
  rw [pieces] at joined placed clean
  have render : (⟨text, some .backtick, first :: more⟩ : Word).render =
      (splitBytes first.start text).1 ++ '`' :: (first.textIn text ++ ['`']) ++ rest.flatMap Piece.render := by
    simp [Word.render, pieces, Piece.render]
  have reading := read_region_pieces _ (first.textIn text) rest column bare fun piece member =>
    clean piece (List.mem_cons_of_mem _ member)
  rw [joined, placed] at reading
  rw [render]
  exact reading

theorem read_word (w : Word) (column : Nat) (wellFormed : w.WellFormed) :
    between.read column w.render = .ok (word w.draft, []) := by
  obtain ⟨text, quote, commands⟩ := w
  cases quote with
  | none =>
      obtain ⟨noRegion, nonempty, bare⟩ := wellFormed
      obtain rfl : commands = [] := noRegion
      cases text with
      | nil => exact absurd rfl nonempty
      | cons c rest =>
          have notOpen : c ≠ '(' := fun same => bare.notOpen (by rw [same]; rfl)
          exact read_first_bare c rest column bare.bare notOpen
  | some q =>
      cases q with
      | double => exact read_marked _ .double column (by decide) rfl wellFormed
      | single => exact read_marked _ .single column (by decide) rfl wellFormed
      | backtick => exact read_backtick _ column rfl wellFormed

theorem read_subshell (body : Text) (column : Nat) (closed : IsBlockBody body) :
    between.read column ('(' :: (body ++ [')'])) = .ok (between, [.subshell body]) := by
  have inside := read_block column 0 0 none none [] body (column + 1) closed
  have ended := read_one _ _ (column + 1 + body.length) ')' _
    (.blockEnd column 0 none (body.reverse ++ []) ')' (by decide))
  have both := read_append_ok _ _ _ _ _ _ [] _ inside ended
  simpa using read_move _ _ _ column '(' (body ++ [')']) [] _ .openBlock both

theorem read_blank_after (t : Text) (tokens : List Token) (column : Nat)
    (reading : between.read column t = .ok (between, tokens)) :
    between.read column (t ++ [' ']) = .ok (between, tokens) := by
  have skipped := read_one between between (column + t.length) ' ' [] (.skip ' ' (by decide))
  simpa using read_append_ok _ _ _ _ _ _ tokens [] reading skipped

theorem read_token (t : Token) (column : Nat) (wellFormed : t.WellFormed) :
    between.read column (t.render ++ [' ']) = .ok (between, [t]) := by
  cases t with
  | word w => exact read_word_end w w.render column (read_word w column wellFormed)
  | pipe => exact read_blank_after _ _ column (read_one _ _ column '|' _ (.operator '|' .pipe rfl))
  | ampersand => exact read_blank_after _ _ column (read_one _ _ column '&' _ (.operator '&' .ampersand rfl))
  | semicolon => exact read_blank_after _ _ column (read_one _ _ column ';' _ (.operator ';' .semicolon rfl))
  | subshell body => exact read_blank_after _ _ column (read_subshell body column wellFormed)

theorem read_tokens (tokens : List Token) (column : Nat) (wellFormed : ∀ t ∈ tokens, t.WellFormed) :
    between.read column (renderTokens tokens) = .ok (between, tokens) := by
  induction tokens generalizing column with
  | nil => rfl
  | cons t rest ih =>
      have first := read_token t column (wellFormed t List.mem_cons_self)
      have others := ih (column + (t.render ++ [' ']).length) fun other member =>
        wellFormed other (List.mem_cons_of_mem t member)
      exact read_append_ok _ _ _ _ _ _ [t] rest first others

end Mode

theorem scan_render_tokens (tokens : List Token) (wellFormed : ∀ t ∈ tokens, t.WellFormed) :
    scan (renderTokens tokens) = .ok tokens :=
  (scan_ok_iff _ _).2 ⟨.between, tokens, [], Mode.read_tokens tokens 0 wellFormed, rfl, by simp⟩

theorem scanned_iff_well_formed (tokens : List Token) :
    (∃ line, scan line = .ok tokens) ↔ ∀ t ∈ tokens, t.WellFormed := by
  constructor
  · rintro ⟨line, scanned⟩
    exact scan_well_formed line tokens scanned
  · intro wellFormed
    exact ⟨renderTokens tokens, scan_render_tokens tokens wellFormed⟩

end CommandShell
