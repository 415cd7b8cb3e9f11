import CommandShell.Proofs.Text.Offsets
import CommandShell.Proofs.Syntax.Scanning

set_option autoImplicit false

namespace CommandShell

open Text

namespace Word

def draft (w : Word) : Draft := ⟨w.text.reverse, w.quote, w.commands.reverse⟩

def addQuoted (w : Word) (q : Quote) (t : Text) : Word where
  text := w.text ++ t
  quote := w.quote.or (some q)
  commands :=
    if q = .backtick then w.commands ++ [⟨byteLength w.text, byteLength (w.text ++ t)⟩] else w.commands

theorem word_draft (w : Word) : w.draft.word = w := by
  simp [draft, Draft.word]

theorem draft_append (w : Word) (t : Text) :
    draft { w with text := w.text ++ t } = { w.draft with text := t.reverse ++ w.draft.text } := by
  simp [draft]

theorem draft_add_quoted (w : Word) (q : Quote) (t : Text) :
    (w.addQuoted q t).draft =
      Draft.closeQuote { w.draft.openQuote q with text := t.reverse ++ (w.draft.openQuote q).text } q := by
  cases q with
  | double => simp [draft, addQuoted, Draft.openQuote, Draft.closeQuote]
  | single => simp [draft, addQuoted, Draft.openQuote, Draft.closeQuote]
  | backtick =>
      simp [draft, addQuoted, Draft.openQuote, Draft.closeQuote, byte_length_reverse, Nat.add_comm]

end Word

namespace Mode

theorem read_move (m next n : Mode) (column : Nat) (c : Char) (rest : Text) (done more : List Token)
    (moves : Moves column m c next done) (reading : next.read (column + 1) rest = .ok (n, more)) :
    m.read column (c :: rest) = .ok (n, done ++ more) :=
  (read_cons_ok_iff m n column c rest _).2 ⟨next, done, more, moves, reading, rfl⟩

theorem read_one (m n : Mode) (column : Nat) (c : Char) (done : List Token) (moves : Moves column m c n done) :
    m.read column [c] = .ok (n, done) := by
  simpa using read_move m n n column c [] done [] moves rfl

theorem read_bare (w : Word) (t : Text) (column : Nat) (bare : ∀ c ∈ t, IsBare c) :
    (word w.draft).read column t = .ok (word (Word.draft { w with text := w.text ++ t }), []) := by
  induction t generalizing w column with
  | nil => simp [read_nil]
  | cons c rest ih =>
      have others := ih { w with text := w.text ++ [c] } (column + 1) fun x member =>
        bare x (List.mem_cons_of_mem c member)
      rw [List.append_assoc, w.draft_append [c]] at others
      exact read_move _ _ _ column c rest [] [] (.extend w.draft c (bare c List.mem_cons_self)) others

theorem read_inside (d : Draft) (q : Quote) (t : Text) (column : Nat) (inside : q.char ∉ t) :
    (quoted q d).read column t = .ok (quoted q { d with text := t.reverse ++ d.text }, []) := by
  induction t generalizing d column with
  | nil => rfl
  | cons c rest ih =>
      have notClosing : c ≠ q.char := fun same => inside (same ▸ List.mem_cons_self)
      have others := ih (d.push c) (column + 1) fun member => inside (List.mem_cons_of_mem c member)
      have text : (c :: rest).reverse ++ d.text = rest.reverse ++ (d.push c).text := by simp [Draft.push]
      rw [text]
      exact read_move _ _ _ column c rest [] [] (.quote d q c notClosing) others

theorem read_quoted_from (m : Mode) (w : Word) (q : Quote) (t : Text) (column : Nat) (inside : q.char ∉ t)
    (opens : Moves column m q.char (quoted q (w.draft.openQuote q)) []) :
    m.read column (q.char :: (t ++ [q.char])) = .ok (word (w.addQuoted q t).draft, []) := by
  have body := read_inside (w.draft.openQuote q) q t (column + 1) inside
  have closing := read_one _ _ (column + 1 + t.length) q.char [] (.close
    { w.draft.openQuote q with text := t.reverse ++ (w.draft.openQuote q).text } q)
  rw [← w.draft_add_quoted q t] at closing
  exact read_move _ _ _ column q.char _ [] [] opens (read_append_ok _ _ _ _ _ _ [] [] body closing)

theorem read_quoted (w : Word) (q : Quote) (t : Text) (column : Nat) (inside : q.char ∉ t) :
    (word w.draft).read column (q.char :: (t ++ [q.char])) = .ok (word (w.addQuoted q t).draft, []) :=
  read_quoted_from _ w q t column inside (.openInside w.draft q)

theorem read_first_quoted (q : Quote) (t : Text) (column : Nat) (inside : q.char ∉ t) :
    between.read column (q.char :: (t ++ [q.char])) = .ok (word ((Word.bare []).addQuoted q t).draft, []) :=
  read_quoted_from _ (Word.bare []) q t column inside (.openQuote q)

theorem read_first_bare (c : Char) (t : Text) (column : Nat) (bare : ∀ x ∈ c :: t, IsBare x) (notOpen : c ≠ '(') :
    between.read column (c :: t) = .ok (word (Word.bare (c :: t)).draft, []) := by
  have others := read_bare (Word.bare [c]) t (column + 1) fun x member => bare x (List.mem_cons_of_mem c member)
  exact read_move _ _ _ column c t [] [] (.begin c (bare c List.mem_cons_self) notOpen) others

theorem read_word_end (w : Word) (t : Text) (column : Nat)
    (reading : between.read column t = .ok (word w.draft, [])) :
    between.read column (t ++ [' ']) = .ok (between, [.word w]) := by
  have ended := read_one _ _ (column + t.length) ' ' _ (.endWord w.draft ' ' (by decide))
  rw [w.word_draft] at ended
  exact read_append_ok _ _ _ _ _ _ [] [.word w] reading ended

theorem read_block (opening depth deeper : Nat) (quote next : Option Quote) (read body : Text) (column : Nat)
    (goesOn : body.foldlM blockStep (depth + 1, quote) = some (deeper + 1, next)) :
    (block opening depth quote read).read column body =
      .ok (block opening deeper next (body.reverse ++ read), []) := by
  induction body generalizing depth quote read column with
  | nil =>
      obtain ⟨rfl, rfl⟩ : depth = deeper ∧ quote = next := by simpa using goesOn
      rfl
  | cons c rest ih =>
      rw [List.foldlM_cons] at goesOn
      cases first : blockStep (depth + 1, quote) c with
      | none => simp [first] at goesOn
      | some after =>
          obtain ⟨between, quote'⟩ := after
          have positive := block_step_positive depth quote c _ first
          obtain ⟨depth', rfl⟩ : ∃ depth', between = depth' + 1 := ⟨between - 1, by simpa using by omega⟩
          have others := ih depth' quote' (c :: read) (column + 1) (by simpa [first] using goesOn)
          rw [List.reverse_cons, List.append_assoc]
          exact read_move _ _ _ column c rest [] []
            (.blockOn opening depth depth' quote quote' read c first) others

theorem read_blanks (t : Text) (column : Nat) (blank : t.isAllBlank = true) :
    between.read column t = .ok (between, []) := by
  induction t generalizing column with
  | nil => rfl
  | cons c rest ih =>
      obtain ⟨first, others⟩ : isBlank c = true ∧ isAllBlank rest = true := by simpa [isAllBlank] using blank
      exact read_move _ _ _ column c rest [] [] (.skip c first) (ih (column + 1) others)

theorem read_yields (m n : Mode) (column : Nat) (text : Text) (tokens last : List Token)
    (some : m = between → text.isAllBlank = false) (reading : m.read column text = .ok (n, tokens))
    (finishing : n.finish = .ok last) : tokens ++ last ≠ [] := by
  induction text generalizing m column tokens with
  | nil =>
      obtain ⟨rfl, rfl⟩ : m = n ∧ [] = tokens := by simpa [read_nil] using reading
      cases m with
      | between => cases some rfl
      | word d => simp [← Except.ok.inj finishing]
      | quoted q d => cases finishing
      | block opening depth quote body => cases finishing
  | cons c rest ih =>
      obtain ⟨next, done, more, moves, remaining, rfl⟩ := (read_cons_ok_iff m n column c rest tokens).1 reading
      have others := fun goesOn => ih next (column + 1) more goesOn remaining
      rw [List.append_assoc]
      cases moves with
      | skip c blank =>
          refine others fun same => ?_
          have whole := some rfl
          simpa [isAllBlank, blank] using whole
      | operator c t found => simp
      | endWord d c blank => simp
      | operatorAfter d c t found => simp
      | blockEnd opening depth quote body c closes => simp
      | openBlock => exact others (by simp)
      | openQuote q => exact others (by simp)
      | begin c bare notOpen => exact others (by simp)
      | openInside d q => exact others (by simp)
      | extend d c bare => exact others (by simp)
      | close d q => exact others (by simp)
      | quote d q c inside => exact others (by simp)
      | blockOn opening depth deeper quote next body c goesOn => exact others (by simp)

def InWord : Mode → Prop
  | word _ => True
  | quoted _ _ => True
  | between => False
  | block _ _ _ _ => False

theorem read_word_first (m n : Mode) (column : Nat) (text : Text) (tokens last : List Token) (inWord : m.InWord)
    (reading : m.read column text = .ok (n, tokens)) (finishing : n.finish = .ok last) :
    ∃ w, (tokens ++ last).head? = some (.word w) := by
  induction text generalizing m column tokens with
  | nil =>
      obtain ⟨rfl, rfl⟩ : m = n ∧ [] = tokens := by simpa [read_nil] using reading
      cases m with
      | between => exact inWord.elim
      | word d => exact ⟨d.word, by simp [← Except.ok.inj finishing]⟩
      | quoted q d => cases finishing
      | block opening depth quote body => exact inWord.elim
  | cons c rest ih =>
      obtain ⟨next, done, more, moves, remaining, rfl⟩ := (read_cons_ok_iff m n column c rest tokens).1 reading
      have others := fun stays => ih next (column + 1) more stays remaining
      cases moves with
      | endWord d c blank => exact ⟨d.word, rfl⟩
      | operatorAfter d c t found => exact ⟨d.word, rfl⟩
      | openInside d q => exact others trivial
      | extend d c bare => exact others trivial
      | close d q => exact others trivial
      | quote d q c inside => exact others trivial
      | skip c blank => exact inWord.elim
      | openBlock => exact inWord.elim
      | openQuote q => exact inWord.elim
      | operator c t found => exact inWord.elim
      | begin c bare notOpen => exact inWord.elim
      | blockOn opening depth deeper quote next body c goesOn => exact inWord.elim
      | blockEnd opening depth quote body c closes => exact inWord.elim

end Mode

end CommandShell
