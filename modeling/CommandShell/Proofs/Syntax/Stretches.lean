import CommandShell.Proofs.Syntax.Rendering

set_option autoImplicit false

namespace CommandShell

inductive Stretch where
  | blank (c : Char)
  | operator (c : Char) (t : Token)
  | block (body : Text)
  | bare (c : Char)
  | quoted (q : Quote) (t : Text)
deriving DecidableEq, Repr

namespace Stretch

def typed : Stretch → Text
  | blank c => [c]
  | operator c _ => [c]
  | block body => '(' :: (body ++ [')'])
  | bare c => [c]
  | quoted q t => q.char :: (t ++ [q.char])

def inWord : Stretch → Bool
  | bare _ => true
  | quoted _ _ => true
  | blank _ => false
  | operator _ _ => false
  | block _ => false

-- Whether it can come next. An opening parenthesis belongs to the word that is in progress, and begins a block where
-- none is.
def Fits (inWord : Bool) : Stretch → Prop
  | blank c => isBlank c = true
  | operator c t => Token.operator? c = some t
  | block body => inWord = false ∧ IsBlockBody body
  | bare c => IsBare c ∧ (inWord = false → c ≠ '(')
  | quoted q t => q.char ∉ t

def next (w : Option Word) : Stretch → Option Word
  | bare c => some { w.getD (.bare []) with text := (w.getD (.bare [])).text ++ [c] }
  | quoted q t => some ((w.getD (.bare [])).addQuoted q t)
  | blank _ => none
  | operator _ _ => none
  | block _ => none

end Stretch

def Token.ending (w : Option Word) : List Token := (w.map .word).toList

def Stretch.yields (w : Option Word) : Stretch → List Token
  | blank _ => Token.ending w
  | operator _ t => Token.ending w ++ [t]
  | block body => Token.ending w ++ [.subshell body]
  | bare _ => []
  | quoted _ _ => []

namespace Row

def typed (row : List Stretch) : Text := row.flatMap Stretch.typed

def Fits : Bool → List Stretch → Prop
  | _, [] => True
  | inWord, s :: rest => s.Fits inWord ∧ Fits s.inWord rest

def endsInWord : Bool → List Stretch → Bool
  | inWord, [] => inWord
  | _, s :: rest => endsInWord s.inWord rest

def tokens : Option Word → List Stretch → List Token
  | w, [] => Token.ending w
  | w, s :: rest => s.yields w ++ tokens (s.next w) rest

-- What no stretch begins: `rest` at `column`, and the error that tells of it.
inductive Stops (column : Nat) (inWord : Bool) : Text → SyntaxError → Prop where
  | closing (after : Text) : Stops column inWord (')' :: after) (.unbalancedParen column)
  | opening (after : Text) (outside : inWord = false) (unclosed : after.foldlM blockStep (1, none) ≠ none) :
      Stops column inWord ('(' :: after) (.unbalancedParen column)
  | quote (q : Quote) (after : Text) (unclosed : q.char ∉ after) :
      Stops column inWord (q.char :: after) (.unfinishedQuote q)

end Row

theorem block_step_deeper (depth more deeper : Nat) (quote next : Option Quote) (c : Char)
    (goesOn : blockStep (depth, quote) c = some (deeper, next)) :
    blockStep (depth + more, quote) c = some (deeper + more, next) := by
  cases quote with
  | some q =>
      obtain ⟨rfl, rfl⟩ := Prod.mk.inj (Option.some.inj goesOn)
      rfl
  | none =>
      simp only [blockStep] at goesOn ⊢
      cases found : Quote.ofChar? c with
      | some q => simp_all
      | none =>
          simp only [found] at goesOn ⊢
          grind

theorem blocks_positive (depth : Nat) (quote : Option Quote) (text : Text) (last : Nat × Option Quote)
    (goesOn : text.foldlM blockStep (depth + 1, quote) = some last) : 0 < last.1 := by
  induction text generalizing depth quote with
  | nil =>
      obtain rfl := Option.some.inj goesOn
      exact Nat.succ_pos depth
  | cons c rest ih =>
      rw [List.foldlM_cons] at goesOn
      obtain ⟨⟨deeper, next⟩, first, others⟩ := Option.bind_eq_some_iff.1 goesOn
      obtain ⟨above, rfl⟩ : ∃ above, deeper = above + 1 :=
        Nat.exists_eq_add_one.2 (block_step_positive depth quote c _ first)
      exact ih above next others

theorem blocks_deeper (depth more : Nat) (quote next : Option Quote) (text : Text) (last : Nat)
    (goesOn : text.foldlM blockStep (depth, quote) = some (last, next)) :
    text.foldlM blockStep (depth + more, quote) = some (last + more, next) := by
  induction text generalizing depth quote with
  | nil =>
      obtain ⟨rfl, rfl⟩ := Prod.mk.inj (Option.some.inj goesOn)
      rfl
  | cons c rest ih =>
      rw [List.foldlM_cons] at goesOn ⊢
      obtain ⟨⟨deeper, quote'⟩, first, others⟩ := Option.bind_eq_some_iff.1 goesOn
      rw [block_step_deeper depth more deeper quote quote' c first]
      exact ih deeper quote' others

theorem blocks_front (front after : Text) (state : Nat × Option Quote)
    (goesOn : (front ++ after).foldlM blockStep state ≠ none) : front.foldlM blockStep state ≠ none := by
  intro closed
  rw [List.foldlM_append, closed] at goesOn
  exact goesOn rfl

theorem body_of_closed (depth : Nat) (quote : Option Quote) (text : Text)
    (closed : text.foldlM blockStep (depth + 1, quote) = none) :
    ∃ body after, text = body ++ ')' :: after ∧ body.foldlM blockStep (depth + 1, quote) = some (1, none) := by
  induction text generalizing depth quote with
  | nil => cases closed
  | cons c rest ih =>
      rw [List.foldlM_cons] at closed
      cases first : blockStep (depth + 1, quote) c with
      | none =>
          obtain ⟨outermost, rfl, rfl⟩ := block_step_closes _ _ _ first
          obtain rfl : depth = 0 := by omega
          exact ⟨[], rest, rfl, rfl⟩
      | some state =>
          obtain ⟨deeper, next⟩ := state
          obtain ⟨above, rfl⟩ : ∃ above, deeper = above + 1 :=
            Nat.exists_eq_add_one.2 (block_step_positive depth quote c _ first)
          obtain ⟨body, after, rfl, inside⟩ := ih above next (by simpa [first] using closed)
          exact ⟨c :: body, after, rfl, by simpa [first] using inside⟩

theorem body_closed (body more : Text) (closed : IsBlockBody body) : ¬ IsBlockBody (body ++ ')' :: more) := by
  rw [IsBlockBody, blocks_append body _ _ _ closed]
  simp [blockStep, Quote.ofChar?]

namespace Mode

def progress : Option Word → Mode
  | none => between
  | some w => word w.draft

theorem progress_finish (w : Option Word) : (progress w).finish = .ok (Token.ending w) := by
  cases w with
  | none => rfl
  | some w => simp [progress, finish, Token.ending, Word.word_draft]

theorem next_in_word (w : Option Word) (s : Stretch) : (s.next w).isSome = s.inWord := by
  cases s <;> rfl

theorem read_stretch (w : Option Word) (s : Stretch) (column : Nat) (fits : s.Fits w.isSome) :
    (progress w).read column s.typed = .ok (progress (s.next w), s.yields w) := by
  cases w with
  | none =>
      cases s with
      | blank c => exact read_one _ _ column c [] (.skip c fits)
      | operator c t => exact read_one _ _ column c [t] (.operator c t fits)
      | block body => exact read_subshell body column fits.2
      | bare c => exact read_one _ _ column c [] (.begin c fits.1 (fits.2 rfl))
      | quoted q t => exact read_first_quoted q t column fits
  | some w =>
      have whole : Token.ending (some w) = [.word w.draft.word] := by rw [w.word_draft]; rfl
      cases s with
      | blank c =>
          rw [Stretch.yields, whole]
          exact read_one _ _ column c _ (.endWord w.draft c fits)
      | operator c t =>
          rw [Stretch.yields, whole]
          exact read_one _ _ column c _ (.operatorAfter w.draft c t fits)
      | block body => exact absurd fits.1 (by simp)
      | bare c => exact read_bare w [c] column (by simpa using fits.1)
      | quoted q t => exact read_quoted w q t column fits

theorem moves_open_quote (w : Option Word) (q : Quote) (column : Nat) :
    ∃ d, Moves column (progress w) q.char (quoted q d) [] := by
  cases w with
  | none => exact ⟨_, .openQuote q⟩
  | some w => exact ⟨_, .openInside w.draft q⟩

theorem read_unclosed (opening depth : Nat) (quote : Option Quote) (body rest : Text) (column : Nat)
    (unclosed : rest.foldlM blockStep (depth + 1, quote) ≠ none) :
    ∃ deeper next read,
      (block opening depth quote body).read column rest = .ok (block opening deeper next read, []) := by
  obtain ⟨⟨above, next⟩, goesOn⟩ := Option.ne_none_iff_exists'.1 unclosed
  obtain ⟨deeper, rfl⟩ : ∃ deeper, above = deeper + 1 := Nat.exists_eq_add_one.2 (blocks_positive _ _ _ _ goesOn)
  exact ⟨deeper, next, _, read_block opening depth deeper quote next body rest column goesOn⟩

end Mode

namespace Row

open Mode

theorem typed_cons (s : Stretch) (row : List Stretch) : typed (s :: row) = s.typed ++ typed row := rfl

theorem typed_append (row more : List Stretch) : typed (row ++ more) = typed row ++ typed more :=
  List.flatMap_append

theorem fits_append (inWord : Bool) (row more : List Stretch) :
    Fits inWord (row ++ more) ↔ Fits inWord row ∧ Fits (endsInWord inWord row) more := by
  induction row generalizing inWord with
  | nil => simp [Fits, endsInWord]
  | cons s rest ih => simp [Fits, endsInWord, ih, and_assoc]

theorem ends_append (inWord : Bool) (row more : List Stretch) :
    endsInWord inWord (row ++ more) = endsInWord (endsInWord inWord row) more := by
  induction row generalizing inWord with
  | nil => rfl
  | cons s rest ih => exact ih s.inWord

theorem read_row (w : Option Word) (row : List Stretch) (column : Nat) (fits : Fits w.isSome row) :
    ∃ last done, (progress w).read column (typed row) = .ok (progress last, done) ∧
      last.isSome = endsInWord w.isSome row ∧ tokens w row = done ++ Token.ending last := by
  induction row generalizing w column with
  | nil => exact ⟨w, [], rfl, rfl, rfl⟩
  | cons s rest ih =>
      have behind := next_in_word w s
      obtain ⟨last, done, reading, ends, same⟩ :=
        ih (s.next w) (column + s.typed.length) (behind ▸ fits.2)
      refine ⟨last, s.yields w ++ done, ?_, ?_, ?_⟩
      · exact read_append_ok _ _ _ _ _ _ _ _ (read_stretch w s column fits.1) reading
      · rw [ends, behind]
        rfl
      · rw [tokens, same, List.append_assoc]

theorem scan_row (row : List Stretch) (fits : Fits false row) : scan (typed row) = .ok (tokens none row) := by
  obtain ⟨last, done, reading, _, same⟩ := read_row none row 0 fits
  exact (scan_ok_iff _ _).2 ⟨progress last, done, Token.ending last, reading, progress_finish last, same⟩

theorem scan_behind (text rest : Text) (m : Mode) (done : List Token)
    (reading : between.read 0 text = .ok (m, done)) : scan (text ++ rest) =
      (m.read text.length rest >>= fun read => read.1.finish >>= fun last => .ok (done ++ read.2 ++ last)) := by
  rw [scan, read_append, reading, Nat.zero_add]
  change ((m.read text.length rest >>= fun others => .ok (others.1, done ++ others.2)) >>= fun read =>
    read.1.finish >>= fun last => (.ok (read.2 ++ last) : Except SyntaxError _)) = _
  rw [bind_assoc]
  rfl

theorem scan_stopped (row : List Stretch) (rest : Text) (e : SyntaxError) (fits : Fits false row)
    (stops : Stops (typed row).length (endsInWord false row) rest e) : scan (typed row ++ rest) = .error e := by
  obtain ⟨last, done, reading, ends, _⟩ := read_row none row 0 fits
  rw [scan_behind _ rest _ done reading]
  change last.isSome = endsInWord false row at ends
  cases stops with
  | closing after => cases last <;> rfl
  | opening after outside unclosed =>
      obtain rfl : last = none := by simpa [outside] using ends
      obtain ⟨deeper, next, read, inside⟩ := read_unclosed (typed row).length 0 none [] after _ unclosed
      rw [read_move (progress none) _ _ _ '(' after [] [] .openBlock inside]
      rfl
  | quote q after unclosed =>
      obtain ⟨d, opens⟩ := moves_open_quote last q (typed row).length
      have inside := read_inside d q after ((typed row).length + 1) unclosed
      rw [read_move _ _ _ _ q.char after [] [] opens inside]
      rfl

theorem stretch_or_stops (column : Nat) (inWord : Bool) (c : Char) (rest : Text) :
    (∃ (s : Stretch) (after : Text), s.Fits inWord ∧ c :: rest = s.typed ++ after) ∨
      ∃ e, Stops column inWord (c :: rest) e := by
  rcases char_kinds c with blank | rfl | ⟨q, rfl⟩ | ⟨t, found⟩ | bare
  · exact .inl ⟨.blank c, rest, blank, rfl⟩
  · exact .inr ⟨_, .closing rest⟩
  · by_cases closed : q.char ∈ rest
    · obtain ⟨inside, after, rfl, absent⟩ := List.eq_append_cons_of_mem closed
      exact .inl ⟨.quoted q inside, after, absent, by simp [Stretch.typed]⟩
    · exact .inr ⟨_, .quote q rest closed⟩
  · exact .inl ⟨.operator c t, rest, found, rfl⟩
  · by_cases opens : inWord = false ∧ c = '('
    · obtain ⟨rfl, rfl⟩ := opens
      by_cases closed : rest.foldlM blockStep (1, none) = none
      · obtain ⟨body, after, rfl, inside⟩ := body_of_closed 0 none rest closed
        exact .inl ⟨.block body, after, ⟨rfl, inside⟩, by simp [Stretch.typed]⟩
      · exact .inr ⟨_, .opening rest rfl closed⟩
    · exact .inl ⟨.bare c, rest, ⟨bare, fun outside same => opens ⟨outside, same⟩⟩, rfl⟩

theorem typed_positive (s : Stretch) : 0 < s.typed.length := by
  cases s <;> simp [Stretch.typed]

-- `column` is that of the first character of the line.
theorem exists_row (column : Nat) (inWord : Bool) (line : Text) : ∃ row rest, line = typed row ++ rest ∧
    Fits inWord row ∧ (rest = [] ∨ ∃ e, Stops (column + (typed row).length) (endsInWord inWord row) rest e) := by
  cases line with
  | nil => exact ⟨[], [], rfl, trivial, .inl rfl⟩
  | cons c rest =>
      rcases stretch_or_stops column inWord c rest with ⟨s, after, fits, whole⟩ | stopped
      · have shorter : after.length ≤ rest.length := by
          have positive := typed_positive s
          have total := congrArg List.length whole
          rw [List.length_append, List.length_cons] at total
          omega
        obtain ⟨row, last, rfl, others, ends⟩ := exists_row (column + s.typed.length) s.inWord after
        refine ⟨s :: row, last, by rw [whole, typed_cons, List.append_assoc], ⟨fits, others⟩, ?_⟩
        rwa [typed_cons, List.length_append, ← Nat.add_assoc]
      · exact ⟨[], c :: rest, rfl, trivial, .inr stopped⟩
termination_by line.length

theorem scan_ok_iff_row (line : Text) (found : List Token) :
    scan line = .ok found ↔ ∃ row, line = typed row ∧ Fits false row ∧ found = tokens none row := by
  constructor
  · intro scanned
    obtain ⟨row, rest, rfl, fits, ends⟩ := exists_row 0 false line
    rw [Nat.zero_add] at ends
    rcases ends with rfl | ⟨e, stops⟩
    · rw [List.append_nil] at scanned ⊢
      exact ⟨row, rfl, fits, Except.ok.inj (scanned.symm.trans (scan_row row fits))⟩
    · rw [scan_stopped row rest e fits stops] at scanned
      cases scanned
  · rintro ⟨row, rfl, fits, rfl⟩
    exact scan_row row fits

theorem scan_error_iff_row (line : Text) (e : SyntaxError) :
    scan line = .error e ↔ ∃ row rest, line = typed row ++ rest ∧ Fits false row ∧
      Stops (typed row).length (endsInWord false row) rest e := by
  constructor
  · intro failed
    obtain ⟨row, rest, rfl, fits, ends⟩ := exists_row 0 false line
    rw [Nat.zero_add] at ends
    rcases ends with rfl | ⟨other, stops⟩
    · rw [List.append_nil, scan_row row fits] at failed
      cases failed
    · rw [scan_stopped row rest other fits stops] at failed
      obtain rfl := Except.error.inj failed
      exact ⟨row, rest, rfl, fits, stops⟩
  · rintro ⟨row, rest, rfl, fits, stops⟩
    exact scan_stopped row rest e fits stops

-- A text that is over at the first `closing` that can end it is known by what stands there.
theorem closed_unique (closing : Char) (P : Text → Prop) (longest : ∀ t more, P t → ¬ P (t ++ closing :: more))
    (t u a b : Text) (whole : P t) (other : P u) (same : t ++ closing :: a = u ++ closing :: b) : t = u ∧ a = b := by
  rcases List.append_eq_append_iff.1 same with ⟨middle, rfl, rest⟩ | ⟨middle, rfl, rest⟩
  · cases middle with
    | nil => exact ⟨by simp, (List.cons.inj rest).2⟩
    | cons c more =>
        obtain ⟨rfl, _⟩ := List.cons.inj rest
        exact absurd other (longest t more whole)
  · cases middle with
    | nil => exact ⟨by simp, (List.cons.inj rest).2.symm⟩
    | cons c more =>
        obtain ⟨rfl, _⟩ := List.cons.inj rest
        exact absurd whole (longest u more other)

theorem stretch_unique (inWord : Bool) (s other : Stretch) (a b : Text) (fits : s.Fits inWord)
    (fits' : other.Fits inWord) (same : s.typed ++ a = other.typed ++ b) : s = other ∧ a = b := by
  have parenthesis : isBlank '(' = false ∧ Token.operator? '(' = none ∧ ∀ q : Quote, q.char ≠ '(' :=
    ⟨by decide, rfl, fun q => (quote_char_distinct q).2.1⟩
  cases s <;> cases other
  case blank.blank c d => simpa [Stretch.typed] using same
  case bare.bare c d => simpa [Stretch.typed] using same
  case operator.operator c t d u =>
    obtain ⟨rfl, rfl⟩ := List.cons.inj same
    obtain rfl := Option.some.inj (fits.symm.trans fits')
    exact ⟨rfl, rfl⟩
  case block.block body body' =>
    obtain ⟨rfl, rfl⟩ := closed_unique ')' IsBlockBody body_closed body body' a b fits.2 fits'.2
      (by simpa [Stretch.typed] using same)
    exact ⟨rfl, rfl⟩
  case quoted.quoted q t r u =>
    obtain ⟨mark, rest⟩ := List.cons.inj same
    obtain rfl : q = r := by
      have found := (quote_char_distinct q).2.2.2
      rw [mark, (quote_char_distinct r).2.2.2] at found
      exact (Option.some.inj found).symm
    obtain ⟨rfl, rfl⟩ := closed_unique q.char (q.char ∉ ·) (by simp) t u a b fits fits' (by simpa using rest)
    exact ⟨rfl, rfl⟩
  -- kinds that differ begin with characters that differ
  all_goals
    simp only [Stretch.typed, List.cons_append, List.cons.injEq] at same
    simp only [Stretch.Fits] at fits fits'
    grind [is_bare_iff, operator_distinct, quote_char_distinct]

theorem row_unique (inWord : Bool) (row other : List Stretch) (fits : Fits inWord row) (fits' : Fits inWord other)
    (same : typed row = typed other) : row = other := by
  induction row generalizing inWord other with
  | nil =>
      cases other with
      | nil => rfl
      | cons s rest =>
          have positive := typed_positive s
          rw [typed_cons] at same
          simp_all [typed]
  | cons s rest ih =>
      cases other with
      | nil =>
          have positive := typed_positive s
          rw [typed_cons] at same
          simp_all [typed]
      | cons s' rest' =>
          rw [typed_cons, typed_cons] at same
          obtain ⟨rfl, others⟩ := stretch_unique inWord s s' _ _ fits.1 fits'.1 same
          rw [ih s.inWord rest' fits.2 fits'.2 others]

end Row

end CommandShell
