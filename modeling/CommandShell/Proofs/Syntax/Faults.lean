import CommandShell.Proofs.Syntax.Stretches

set_option autoImplicit false

namespace CommandShell

structure ClosesNothing (t : Text) (column : Nat) : Prop where
  sign : t[column]? = some ')'
  scanned : ∃ tokens, scan (t.take column) = .ok tokens

-- The parenthesis begins a token, and its block goes on to the end of the line.
structure StaysOpen (t : Text) (column : Nat) : Prop where
  sign : t[column]? = some '('
  begins : ∃ tokens, Mode.between.read 0 (t.take column) = .ok (.between, tokens)
  unclosed : (t.drop (column + 1)).foldlM blockStep (1, none) ≠ none

structure StaysQuoted (t : Text) (q : Quote) (column : Nat) : Prop where
  sign : t[column]? = some q.char
  scanned : ∃ tokens, scan (t.take column) = .ok tokens
  unclosed : q.char ∉ t.drop (column + 1)

def Mode.Opens : Mode → Prop
  | between => True
  | word _ => False
  | quoted _ _ => False
  | block _ _ quote _ => quote = none

-- The parenthesis opens a block, in another one or not, that the rest of the line does not close.
structure OpenAtEnd (t : Text) (column : Nat) : Prop where
  sign : t[column]? = some '('
  opens : ∃ m tokens, Mode.between.read 0 (t.take column) = .ok (m, tokens) ∧ m.Opens
  unclosed : (t.drop (column + 1)).foldlM blockStep (1, none) ≠ none

theorem split_at_column (t : Text) (column : Nat) (c : Char) :
    t[column]? = some c ↔ t = t.take column ++ c :: t.drop (column + 1) ∧ column < t.length := by
  constructor
  · intro sign
    obtain ⟨inside, same⟩ := List.getElem?_eq_some_iff.1 sign
    refine ⟨?_, inside⟩
    rw [← same, ← List.drop_eq_getElem_cons inside, List.take_append_drop]
  · rintro ⟨whole, inside⟩
    have width : (t.take column).length = column := by
      rw [List.length_take]
      omega
    rw [whole, List.getElem?_append_right (by omega), width, Nat.sub_self]
    rfl

theorem column_behind (front after : Text) (c : Char) : (front ++ c :: after)[front.length]? = some c ∧
    (front ++ c :: after).take front.length = front ∧ (front ++ c :: after).drop (front.length + 1) = after := by
  refine ⟨by simp, by simp, ?_⟩
  rw [List.append_cons]
  exact List.drop_left' (by simp)

namespace Row

theorem read_between_iff (row : List Stretch) (fits : Fits false row) :
    (∃ found, Mode.between.read 0 (typed row) = .ok (.between, found)) ↔ endsInWord false row = false := by
  obtain ⟨last, done, reading, ends, _⟩ := read_row none row 0 fits
  change Mode.between.read 0 (typed row) = _ at reading
  change last.isSome = endsInWord false row at ends
  rw [reading, ← ends]
  cases last with
  | none => simp [Mode.progress]
  | some w => simp [Mode.progress]

theorem row_before (t : Text) (column : Nat) (c : Char) (sign : t[column]? = some c)
    (scanned : ∃ found, scan (t.take column) = .ok found) : ∃ row, t.take column = typed row ∧ Fits false row ∧
      (typed row).length = column ∧ t = typed row ++ c :: t.drop (column + 1) := by
  obtain ⟨found, scanned⟩ := scanned
  obtain ⟨row, front, fits, _⟩ := (scan_ok_iff_row _ _).1 scanned
  obtain ⟨whole, inside⟩ := (split_at_column t column c).1 sign
  refine ⟨row, front, fits, ?_, front ▸ whole⟩
  rw [← front, List.length_take]
  omega

end Row

open Row

theorem scan_of_between (text : Text) (found : List Token)
    (reading : Mode.between.read 0 text = .ok (.between, found)) : scan text = .ok found :=
  (scan_ok_iff _ _).2 ⟨.between, found, [], reading, rfl, by simp⟩

theorem StaysOpen.scanned (line : Text) (column : Nat) (stays : StaysOpen line column) :
    ∃ tokens, scan (line.take column) = .ok tokens := by
  obtain ⟨found, reading⟩ := stays.begins
  exact ⟨found, scan_of_between _ found reading⟩

theorem unbalanced_iff (line : Text) (column : Nat) :
    scan line = .error (.unbalancedParen column) ↔ ClosesNothing line column ∨ StaysOpen line column := by
  constructor
  · intro failed
    obtain ⟨row, rest, rfl, fits, stops⟩ := (scan_error_iff_row _ _).1 failed
    have scanned : ∃ found, scan (typed row) = .ok found := ⟨_, scan_row row fits⟩
    cases stops with
    | closing after =>
        obtain ⟨sign, front, _⟩ := column_behind (typed row) after ')'
        exact .inl ⟨sign, by rwa [front]⟩
    | opening after outside unclosed =>
        obtain ⟨sign, front, back⟩ := column_behind (typed row) after '('
        have begins := (read_between_iff row fits).2 outside
        exact .inr ⟨sign, by rwa [front], by rwa [back]⟩
  · rintro (closes | stays)
    · obtain ⟨row, _, fits, rfl, whole⟩ := row_before line column ')' closes.sign closes.scanned
      exact (scan_error_iff_row _ _).2 ⟨row, _, whole, fits, .closing _⟩
    · obtain ⟨row, front, fits, rfl, whole⟩ := row_before line column '(' stays.sign (stays.scanned line column)
      have outside := (read_between_iff row fits).1 (front ▸ stays.begins)
      exact (scan_error_iff_row _ _).2 ⟨row, _, whole, fits, .opening _ outside stays.unclosed⟩

theorem unfinished_iff (line : Text) (q : Quote) :
    scan line = .error (.unfinishedQuote q) ↔ ∃ column, StaysQuoted line q column := by
  constructor
  · intro failed
    obtain ⟨row, rest, rfl, fits, stops⟩ := (scan_error_iff_row _ _).1 failed
    have scanned : ∃ found, scan (typed row) = .ok found := ⟨_, scan_row row fits⟩
    cases stops with
    | quote q after unclosed =>
        obtain ⟨sign, front, back⟩ := column_behind (typed row) after q.char
        exact ⟨_, sign, by rwa [front], by rwa [back]⟩
  · rintro ⟨column, stays⟩
    obtain ⟨row, _, fits, rfl, whole⟩ := row_before line column q.char stays.sign stays.scanned
    exact (scan_error_iff_row _ _).2 ⟨row, _, whole, fits, .quote q _ stays.unclosed⟩

theorem closes_nothing_shared (line other : Text) (column : Nat) (closes : ClosesNothing line column)
    (shared : line.take (column + 1) <+: other) : ClosesNothing other column := by
  obtain ⟨more, rfl⟩ := shared
  obtain ⟨whole, inside⟩ := (split_at_column line column ')').1 closes.sign
  have front : line.take (column + 1) = line.take column ++ [')'] := by
    rw [List.take_add_one, closes.sign]
    rfl
  have width : (line.take column).length = column := by
    rw [List.length_take]
    omega
  obtain ⟨sign, before, _⟩ := column_behind (line.take column) more ')'
  rw [width] at sign before
  rw [front, List.append_assoc, List.singleton_append]
  exact ⟨sign, by rw [before]; exact closes.scanned⟩

namespace Mode

theorem step_opens (m : Mode) (column : Nat) (opens : m.Opens) :
    ∃ opening depth body, m.step column '(' = .ok (block opening depth none body, []) := by
  cases m with
  | between => exact ⟨column, 0, [], rfl⟩
  | word d => exact opens.elim
  | quoted q d => exact opens.elim
  | block opening depth quote body =>
      obtain rfl : quote = none := opens
      exact ⟨opening, depth + 1, '(' :: body, rfl⟩

theorem read_opens (m : Mode) (column : Nat) (rest : Text) (opens : m.Opens)
    (unclosed : rest.foldlM blockStep (1, none) ≠ none) :
    ∃ opening depth quote body, m.read column ('(' :: rest) = .ok (block opening depth quote body, []) := by
  obtain ⟨opening, depth, body, stepped⟩ := step_opens m column opens
  obtain ⟨⟨last, quote⟩, goesOn⟩ := Option.ne_none_iff_exists'.1 unclosed
  have deeper := blocks_deeper 1 depth none quote rest last goesOn
  rw [Nat.add_comm 1 depth] at deeper
  obtain ⟨above, next, read, reading⟩ := read_unclosed opening depth none body rest (column + 1) (by simp [deeper])
  exact ⟨opening, above, next, read, read_move m _ _ column '(' rest [] [] ((step_ok_iff _ _ _ _ _).1 stepped) reading⟩

end Mode

-- Whatever is still open at the end of the line was opened at the reported column or behind it.
theorem outermost (line : Text) (column inner : Nat) (stays : StaysOpen line column) (unclosed : OpenAtEnd line inner) :
    column ≤ inner := by
  by_contra before
  have earlier : inner < column := by omega
  have sign : (line.take column)[inner]? = some '(' := by rw [List.getElem?_take_of_lt earlier, unclosed.sign]
  have whole := ((split_at_column (line.take column) inner '(').1 sign).1
  rw [List.take_take, Nat.min_eq_left earlier.le, List.drop_take] at whole
  have middle : ((line.drop (inner + 1)).take (column - (inner + 1))).foldlM blockStep (1, none) ≠ none := by
    apply blocks_front _ ((line.drop (inner + 1)).drop (column - (inner + 1)))
    rw [List.take_append_drop]
    exact unclosed.unclosed
  obtain ⟨m, first, front, opens⟩ := unclosed.opens
  obtain ⟨done, begins⟩ := stays.begins
  rw [whole] at begins
  obtain ⟨more, reading, _⟩ := Mode.read_rest _ m _ 0 _ _ first done front begins
  obtain ⟨opening, depth, quote, body, inside⟩ := Mode.read_opens m (0 + (line.take inner).length) _ opens middle
  rw [inside] at reading
  cases reading

theorem scan_errors_located (line : Text) :
    (∀ column, scan line = .error (.unbalancedParen column) ↔ ClosesNothing line column ∨ StaysOpen line column) ∧
    (∀ column, scan line = .error (.unbalancedParen column) →
      column < line.length ∧ ∃ tokens, scan (line.take column) = .ok tokens) ∧
    (∀ column other, ClosesNothing line column → line.take (column + 1) <+: other →
      scan other = .error (.unbalancedParen column)) ∧
    (∀ column inner, StaysOpen line column → OpenAtEnd line inner → column ≤ inner) ∧
    (∀ q, scan line = .error (.unfinishedQuote q) ↔ ∃ column, StaysQuoted line q column) ∧
    (∀ e, scan line = .error e → (∃ column, e = .unbalancedParen column) ∨ ∃ q, e = .unfinishedQuote q) := by
  refine ⟨unbalanced_iff line, fun column failed => ?_, fun column other closes shared => ?_, outermost line,
    unfinished_iff line, fun e failed => ?_⟩
  · rcases (unbalanced_iff line column).1 failed with closes | stays
    · exact ⟨((split_at_column line column _).1 closes.sign).2, closes.scanned⟩
    · exact ⟨((split_at_column line column _).1 stays.sign).2, stays.scanned line column⟩
  · exact (unbalanced_iff other column).2 (.inl (closes_nothing_shared line other column closes shared))
  · obtain ⟨row, rest, _, _, stops⟩ := (scan_error_iff_row line e).1 failed
    cases stops with
    | closing after => exact .inl ⟨_, rfl⟩
    | opening after outside unclosed => exact .inl ⟨_, rfl⟩
    | quote q after unclosed => exact .inr ⟨q, rfl⟩

theorem scan_errors_located_nested :
    (ClosesNothing "a(b))".toList 3 ∧ scan "a(b)(".toList = .error (.unbalancedParen 3)) ∧
    (StaysOpen "a (b (c".toList 2 ∧ OpenAtEnd "a (b (c".toList 5 ∧ 2 ≤ 5 ∧
      scan "a (b (c".toList = .error (.unbalancedParen 2)) ∧
    StaysQuoted "a 'b".toList .single 2 ∧ scan "a 'b".toList = .error (.unfinishedQuote .single) := by
  obtain ⟨_, _, shared, _⟩ := scan_errors_located "a(b))".toList
  obtain ⟨unbalanced, _, _, nested, _⟩ := scan_errors_located "a (b (c".toList
  obtain ⟨_, _, _, _, unfinished, _⟩ := scan_errors_located "a 'b".toList
  have closes : ClosesNothing "a(b))".toList 3 := ⟨rfl, _, rfl⟩
  have stays : StaysOpen "a (b (c".toList 2 := ⟨rfl, ⟨_, rfl⟩, by decide⟩
  have open' : OpenAtEnd "a (b (c".toList 5 := ⟨rfl, ⟨_, _, rfl, rfl⟩, by decide⟩
  have quoted : StaysQuoted "a 'b".toList .single 2 := ⟨rfl, ⟨_, rfl⟩, by decide⟩
  exact ⟨⟨closes, shared 3 _ closes (by decide)⟩, ⟨stays, open', nested 2 5 stays open', (unbalanced 2).2 (.inr stays)⟩,
    quoted, (unfinished .single).2 ⟨2, quoted⟩⟩

end CommandShell
