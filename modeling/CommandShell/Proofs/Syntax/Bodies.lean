import CommandShell.Proofs.Syntax.Faults

set_option autoImplicit false

namespace CommandShell

open Row

-- A parenthesis, outside quotes and nested blocks, that opens while a word is in progress.
def OpensInWord (body : Text) : Prop := ∃ before after d tokens, body = before ++ '(' :: after ∧ IsBlockBody before ∧
  Mode.between.read 0 before = .ok (.word d, tokens)

theorem blocks_in_quotes (depth : Nat) (q : Quote) (t : Text) (inside : q.char ∉ t) :
    t.foldlM blockStep (depth, some q) = some (depth, some q) := by
  induction t with
  | nil => rfl
  | cons c rest ih =>
      have other : c ≠ q.char := fun same => inside (same ▸ List.mem_cons_self)
      have stays : blockStep (depth, some q) c = some (depth, some q) := by simp only [blockStep, if_neg other]
      rw [blocks_cons c rest _ _ stays]
      exact ih fun member => inside (List.mem_cons_of_mem c member)

theorem blocks_open_quote (depth : Nat) (q : Quote) : blockStep (depth, none) q.char = some (depth, some q) := by
  simp only [blockStep, (quote_char_distinct q).2.2.2]

theorem blocks_quoted (depth : Nat) (q : Quote) (t : Text) (inside : q.char ∉ t) :
    (q.char :: (t ++ [q.char])).foldlM blockStep (depth, none) = some (depth, none) := by
  have closes : blockStep (depth, some q) q.char = some (depth, none) := by simp [blockStep]
  rw [blocks_cons _ _ _ _ (blocks_open_quote depth q), blocks_append t _ _ _ (blocks_in_quotes depth q t inside),
    blocks_cons _ _ _ _ closes]
  rfl

theorem blocks_nested (depth : Nat) (body : Text) (closed : IsBlockBody body) :
    ('(' :: (body ++ [')'])).foldlM blockStep (depth + 1, none) = some (depth + 1, none) := by
  have inside := blocks_deeper 1 (depth + 1) none none body 1 closed
  rw [Nat.add_comm 1 (depth + 1)] at inside
  rw [blocks_cons '(' _ _ (depth + 2, none) rfl, blocks_append body _ _ _ inside]
  rfl

theorem blank_distinct (c : Char) (blank : isBlank c = true) : c ≠ '(' ∧ c ≠ ')' ∧ Quote.ofChar? c = none := by
  have other (x : Char) (sign : isBlank x = false) : c ≠ x := by
    rintro rfl
    rw [sign] at blank
    cases blank
  refine ⟨other '(' (by decide), other ')' (by decide), ?_⟩
  cases found : Quote.ofChar? c with
  | none => rfl
  | some q => exact absurd ((quote_of_char_some_iff c q).1 found) (other _ (quote_char_distinct q).1)

theorem blocks_stretch (depth : Nat) (inWord : Bool) (s : Stretch) (fits : s.Fits inWord) :
    s.typed.foldlM blockStep (depth + 1, none) = some (depth + 1 + [s].count (.bare '('), none) := by
  cases s with
  | blank c =>
      obtain ⟨notOpen, notClosing, noQuote⟩ := blank_distinct c fits
      simp [Stretch.typed, block_step_plain _ c noQuote notOpen notClosing]
  | operator c t =>
      obtain ⟨_, notOpen, notClosing, noQuote⟩ := operator_distinct c t fits
      simp [Stretch.typed, block_step_plain _ c noQuote notOpen notClosing]
  | block body => exact blocks_nested depth body fits.2
  | quoted q t => exact blocks_quoted (depth + 1) q t fits
  | bare c =>
      obtain ⟨_, notClosing, noQuote, _⟩ := (is_bare_iff c).1 fits.1
      by_cases opens : c = '('
      · subst opens
        rfl
      · simp [Stretch.typed, block_step_plain _ c noQuote opens notClosing, opens]

theorem blocks_row (depth : Nat) (inWord : Bool) (row : List Stretch) (fits : Fits inWord row) :
    (typed row).foldlM blockStep (depth + 1, none) = some (depth + 1 + row.count (.bare '('), none) := by
  induction row generalizing depth inWord with
  | nil => rfl
  | cons s rest ih =>
      have others := ih (depth + [s].count (.bare '(')) s.inWord fits.2
      have count : ([s] ++ rest).count (.bare '(') = [s].count (.bare '(') + rest.count (.bare '(') := List.count_append
      rw [List.singleton_append] at count
      rw [Nat.add_right_comm] at others
      rw [typed_cons, blocks_append _ _ _ _ (blocks_stretch depth inWord s fits.1), others, count, Nat.add_assoc]

theorem body_behind (row : List Stretch) (rest : Text) (closed : IsBlockBody (typed row ++ rest))
    (fits : Fits false row) : rest.foldlM blockStep (1 + row.count (.bare '('), none) = some (1, none) := by
  have behind := blocks_row 0 false row fits
  rw [Nat.zero_add] at behind
  rwa [IsBlockBody, blocks_append _ rest _ _ behind] at closed

theorem body_whole (row : List Stretch) (closed : IsBlockBody (typed row)) (fits : Fits false row) :
    .bare '(' ∉ row := by
  have behind := body_behind row [] (by rwa [List.append_nil]) fits
  have count : 1 + row.count (.bare '(') = 1 := (Prod.mk.inj (Option.some.inj behind)).1
  exact List.count_eq_zero.1 (by omega)

theorem body_stopped (row : List Stretch) (rest : Text) (column : Nat) (inWord : Bool) (e : SyntaxError)
    (closed : IsBlockBody (typed row ++ rest)) (fits : Fits false row) (stops : Stops column inWord rest e) :
    .bare '(' ∈ row ∧ e = .unbalancedParen column ∧ ∃ after, rest = ')' :: after := by
  have behind := body_behind row rest closed fits
  cases stops with
  | closing after =>
      refine ⟨Decidable.byContradiction fun absent => ?_, rfl, after, rfl⟩
      -- with no parenthesis taken in, this one would have closed the block
      rw [List.count_eq_zero.2 absent] at behind
      cases behind
  | opening after outside unclosed =>
      obtain ⟨⟨last, quote⟩, goesOn⟩ := Option.ne_none_iff_exists'.1 unclosed
      have deeper := blocks_deeper 1 (1 + row.count (.bare '(')) none quote after last goesOn
      have positive := blocks_positive 0 none after _ goesOn
      rw [blocks_cons '(' after _ (1 + row.count (.bare '(') + 1, none) rfl, Nat.add_comm _ 1, deeper] at behind
      obtain ⟨count, _⟩ := Prod.mk.inj (Option.some.inj behind)
      change 0 < last at positive
      omega
  | quote q after unclosed =>
      rw [blocks_cons _ after _ _ (blocks_open_quote _ q), blocks_in_quotes _ q after unclosed] at behind
      cases (Prod.mk.inj (Option.some.inj behind)).2

theorem typed_taken (front more : List Stretch) (rest : Text) :
    typed (front ++ .bare '(' :: more) ++ rest = typed front ++ '(' :: (typed more ++ rest) := by
  simp [typed_append, typed_cons, Stretch.typed]

theorem opens_in_word (row : List Stretch) (rest : Text) (fits : Fits false row) (taken : .bare '(' ∈ row) :
    OpensInWord (typed row ++ rest) := by
  obtain ⟨front, more, rfl, absent⟩ := List.eq_append_cons_of_mem taken
  obtain ⟨frontFits, others⟩ := (fits_append false front _).1 fits
  obtain ⟨last, done, reading, ends, _⟩ := read_row none front 0 frontFits
  have inside : endsInWord false front = true := by
    by_contra outside
    exact others.1.2 (by simpa using outside) rfl
  have behind := blocks_row 0 false front frontFits
  rw [List.count_eq_zero.2 absent] at behind
  obtain ⟨w, rfl⟩ : ∃ w, last = some w := Option.isSome_iff_exists.1 (ends.trans inside)
  exact ⟨typed front, typed more ++ rest, w.draft, done, typed_taken front more rest, behind, reading⟩

theorem row_of_word (text : Text) (d : Draft) (found : List Token)
    (reading : Mode.between.read 0 text = .ok (.word d, found)) :
    ∃ row, text = typed row ∧ Fits false row ∧ endsInWord false row = true := by
  obtain ⟨row, rfl, fits, _⟩ := (scan_ok_iff_row text (found ++ [.word d.word])).1
    ((scan_ok_iff _ _).2 ⟨_, _, _, reading, rfl, rfl⟩)
  refine ⟨row, rfl, fits, by_contra fun outside => ?_⟩
  obtain ⟨other, between⟩ := (read_between_iff row fits).2 (by simpa using outside)
  rw [reading] at between
  cases between

theorem body_fails_iff (body : Text) (closed : IsBlockBody body) : (∃ e, scan body = .error e) ↔ OpensInWord body := by
  constructor
  · rintro ⟨e, failed⟩
    obtain ⟨row, rest, rfl, fits, stops⟩ := (scan_error_iff_row body e).1 failed
    exact opens_in_word row rest fits (body_stopped row rest _ _ e closed fits stops).1
  · rintro ⟨before, after, d, found, rfl, _, reading⟩
    obtain ⟨front, rfl, frontFits, inside⟩ := row_of_word before d found reading
    -- the parenthesis goes on with the word, and so does the row
    obtain ⟨more, rest, rfl, others, ends⟩ := exists_row ((typed front).length + 1) true after
    have taken : Stretch.Fits (endsInWord false front) (.bare '(') := by
      rw [inside]
      exact ⟨⟨by decide, by decide⟩, by simp⟩
    have fits : Fits false (front ++ .bare '(' :: more) :=
      (fits_append false front _).2 ⟨frontFits, taken, others⟩
    rw [← typed_taken] at closed ⊢
    rcases ends with rfl | ⟨e, stops⟩
    · rw [List.append_nil] at closed
      exact absurd (by simp) (body_whole _ closed fits)
    · refine ⟨e, scan_stopped _ rest e fits ?_⟩
      rw [ends_append, typed_append, List.length_append]
      simpa [typed_cons, endsInWord, Stretch.typed, Stretch.inWord, Nat.add_assoc, Nat.add_comm 1] using stops

theorem bodies_fail_in_words (line body : Text) (tokens : List Token) (scanned : scan line = .ok tokens)
    (member : .subshell body ∈ tokens) :
    (∀ q, scan body ≠ .error (.unfinishedQuote q)) ∧
    (∀ e, scan body = .error e → ∃ column, e = .unbalancedParen column ∧ body[column]? = some ')') ∧
    ((∃ e, scan body = .error e) ↔ OpensInWord body) := by
  have closed : IsBlockBody body := scan_well_formed line tokens scanned _ member
  have located (e : SyntaxError) (failed : scan body = .error e) :
      ∃ column, e = .unbalancedParen column ∧ body[column]? = some ')' := by
    obtain ⟨row, rest, rfl, fits, stops⟩ := (scan_error_iff_row body e).1 failed
    obtain ⟨_, rfl, after, rfl⟩ := body_stopped row rest _ _ e closed fits stops
    exact ⟨_, rfl, (column_behind (typed row) after ')').1⟩
  refine ⟨fun q failed => ?_, located, body_fails_iff body closed⟩
  obtain ⟨column, same, _⟩ := located _ failed
  cases same

theorem bodies_fail_in_words_one :
    let body := "a(b \")\" (c)) d".toList
    scan "(a(b \")\" (c)) d)".toList = .ok [.subshell body] ∧ OpensInWord body ∧
      ∃ e column, scan body = .error e ∧ e = .unbalancedParen column ∧ body[column]? = some ')' := by
  intro body
  have scanned : scan "(a(b \")\" (c)) d)".toList = .ok [.subshell body] := rfl
  have taken : OpensInWord body := ⟨['a'], "b \")\" (c)) d".toList, _, _, rfl, rfl, rfl⟩
  obtain ⟨_, located, fails⟩ := bodies_fail_in_words _ body _ scanned List.mem_cons_self
  obtain ⟨e, failed⟩ := fails.2 taken
  obtain ⟨column, same, sign⟩ := located e failed
  exact ⟨scanned, taken, e, column, failed, same, sign⟩

end CommandShell
