import CommandShell.Proofs.Syntax.Regions
import CommandShell.Proofs.Syntax.Scanning

set_option autoImplicit false

namespace CommandShell

open Text

structure IsBareText (t : Text) : Prop where
  bare : ∀ c ∈ t, IsBare c
  notOpen : t.head? ≠ some '('

-- The parenthesis before `body` is open all along it and is the only one open at its end.
def IsBlockBody (body : Text) : Prop := body.foldlM blockStep (1, none) = some (1, none)

-- Only a word that begins with a quote is free in all of its text: one that is marked by a backtick shows
-- what stands before its first region as it was typed.
def Word.WellFormed (w : Word) : Prop :=
  match w.quote with
  | none => w.commands = [] ∧ w.text ≠ [] ∧ IsBareText w.text
  | some .double => Regions w.text w.commands
  | some .single => Regions w.text w.commands
  | some .backtick =>
    Regions w.text w.commands ∧ ∃ first ∈ w.commands.head?, IsBareText (splitBytes first.start w.text).1

def Token.WellFormed : Token → Prop
  | .word w => w.WellFormed
  | .subshell body => IsBlockBody body
  | .pipe | .ampersand | .semicolon => True

namespace Draft

theorem word_push (d : Draft) (c : Char) : (d.push c).word = { d.word with text := d.word.text ++ [c] } := by
  simp [push, word]

theorem word_open_backtick (d : Draft) :
    (d.openQuote .backtick).word = ⟨d.word.text, d.word.quote.or (some .backtick),
      d.word.commands ++ [⟨byteLength d.word.text, byteLength d.word.text⟩]⟩ := by
  simp [openQuote, word, byte_length_reverse]

theorem word_open_other (d : Draft) (q : Quote) (other : q ≠ .backtick) :
    (d.openQuote q).word = ⟨d.word.text, d.word.quote.or (some q), d.word.commands⟩ := by
  simp [openQuote, word, other]

theorem word_close_backtick (d : Draft) (span : Span) (older : List Span)
    (newest : d.word.commands = older ++ [span]) :
    (d.closeQuote .backtick).word =
      { d.word with commands := older ++ [{ span with stop := byteLength d.word.text }] } := by
  have commands : d.commands = span :: older.reverse := by
    simpa [word] using congrArg List.reverse newest
  simp [closeQuote, word, commands, byte_length_reverse]

theorem close_other (d : Draft) (q : Quote) (other : q ≠ .backtick) : d.closeQuote q = d := by
  cases q with
  | double => rfl
  | single => rfl
  | backtick => exact absurd rfl other

end Draft

namespace Word

-- What more text may follow: nothing yet, or a whole word.
def Begun (w : Word) : Prop := w = bare [] ∨ w.WellFormed

theorem begun_regions (w : Word) (begun : w.Begun) : Regions w.text w.commands := by
  rcases begun with rfl | wellFormed
  · exact regions_nil _
  · unfold WellFormed at wellFormed
    split at wellFormed
    · rw [wellFormed.1]
      exact regions_nil _
    · exact wellFormed
    · exact wellFormed
    · exact wellFormed.1

theorem begun_before_first (w : Word) (more : Text) (begun : w.Begun) (first : Span)
    (found : first ∈ w.commands.head?) :
    (splitBytes first.start (w.text ++ more)).1 = (splitBytes first.start w.text).1 := by
  have delimits := (begun_regions w begun).each first (List.mem_of_mem_head? found)
  obtain ⟨before, after, whole, width⟩ := delimits.start
  rw [whole, ← width, List.append_assoc, split_bytes_append, split_bytes_append]

theorem bare_text_snoc (t : Text) (c : Char) (bare : IsBareText t) (added : IsBare c)
    (notFirst : t = [] → c ≠ '(') : IsBareText (t ++ [c]) := by
  constructor
  · intro x member
    rcases List.mem_append.1 member with old | new
    · exact bare.bare x old
    · rw [List.mem_singleton.1 new]
      exact added
  · cases t with
    | nil => simpa using notFirst rfl
    | cons first rest => exact bare.notOpen

theorem marked_append (w : Word) (more : Text) (marked : w.quote ≠ none) (wellFormed : w.WellFormed) :
    WellFormed { w with text := w.text ++ more } := by
  have begun : w.Begun := .inr wellFormed
  have regions := regions_append w.text more w.commands (begun_regions w begun)
  unfold WellFormed at wellFormed ⊢
  cases mark : w.quote with
  | none => exact absurd mark marked
  | some q =>
      simp only [mark] at wellFormed ⊢
      cases q with
      | double => exact regions
      | single => exact regions
      | backtick =>
          obtain ⟨_, first, found, bare⟩ := wellFormed
          refine ⟨regions, first, found, ?_⟩
          rwa [begun_before_first w more begun first found]

theorem begun_bare (w : Word) (c : Char) (begun : w.Begun) (bare : IsBare c)
    (notFirst : w = Word.bare [] → c ≠ '(') : WellFormed { w with text := w.text ++ [c] } := by
  by_cases marked : w.quote = none
  · rcases begun with rfl | wellFormed
    · exact ⟨rfl, by simp [Word.bare], bare_text_snoc [] c ⟨by simp, by simp⟩ bare fun _ => notFirst rfl⟩
    · simp only [WellFormed, marked] at wellFormed ⊢
      obtain ⟨noRegion, nonempty, bareText⟩ := wellFormed
      exact ⟨noRegion, by simp, bare_text_snoc w.text c bareText bare fun empty => absurd empty nonempty⟩
  · rcases begun with rfl | wellFormed
    · exact absurd rfl marked
    · exact marked_append w [c] marked wellFormed

theorem begun_quote (w : Word) (q : Quote) (other : q ≠ .backtick) (begun : w.Begun) :
    WellFormed { w with quote := w.quote.or (some q) } := by
  have regions := begun_regions w begun
  cases mark : w.quote with
  | none => cases q with
    | double => exact regions
    | single => exact regions
    | backtick => exact absurd rfl other
  | some first =>
      rcases begun with rfl | wellFormed
      · cases mark
      · rw [Option.some_or, ← mark]
        exact wellFormed

theorem begun_bare_text (w : Word) (begun : w.Begun) (unmarked : w.quote = none) :
    IsBareText w.text ∧ w.commands = [] := by
  rcases begun with rfl | wellFormed
  · exact ⟨⟨by simp [Word.bare], by simp [Word.bare]⟩, rfl⟩
  · simp only [WellFormed, unmarked] at wellFormed
    exact ⟨wellFormed.2.2, wellFormed.1⟩

theorem begun_region (w : Word) (line : Text) (begun : w.Begun) (noBacktick : '`' ∉ line) :
    WellFormed ⟨w.text ++ line, w.quote.or (some .backtick),
      w.commands ++ [⟨byteLength w.text, byteLength (w.text ++ line)⟩]⟩ := by
  have regions := regions_snoc w.text line w.commands (begun_regions w begun) noBacktick
  cases mark : w.quote with
  | none =>
      obtain ⟨bareText, noRegion⟩ := begun_bare_text w begun mark
      refine ⟨regions, ⟨byteLength w.text, byteLength (w.text ++ line)⟩, by simp [noRegion], ?_⟩
      rwa [split_bytes_append]
  | some q =>
      rcases begun with rfl | wellFormed
      · cases mark
      · have begun : w.Begun := .inr wellFormed
        simp only [WellFormed, mark, Option.some_or] at wellFormed ⊢
        cases q with
        | double => exact regions
        | single => exact regions
        | backtick =>
            obtain ⟨_, first, found, bare⟩ := wellFormed
            refine ⟨regions, first, ?_, ?_⟩
            · rw [List.head?_append, found]
              rfl
            · rwa [begun_before_first w line begun first found]

end Word

namespace Mode

-- What is known of the text read so far. An open region has no end yet, so it is kept apart from the word.
def Sound : Mode → Prop
  | between => True
  | word d => d.word.WellFormed
  | quoted .backtick d => ∃ (w : Word) (line : Text), w.Begun ∧ '`' ∉ line ∧
      d.word = ⟨w.text ++ line, w.quote.or (some .backtick),
        w.commands ++ [⟨byteLength w.text, byteLength w.text⟩]⟩
  | quoted _ d => d.word.quote ≠ none ∧ d.word.WellFormed
  | block _ depth quote body => body.reverse.foldlM blockStep (1, none) = some (depth + 1, quote)

theorem sound_quoted_other (d : Draft) (q : Quote) (other : q ≠ .backtick) :
    Sound (quoted q d) ↔ d.word.quote ≠ none ∧ d.word.WellFormed := by
  cases q with
  | double => rfl
  | single => rfl
  | backtick => exact absurd rfl other

theorem sound_open (d : Draft) (q : Quote) (begun : d.word.Begun) : Sound (quoted q (d.openQuote q)) := by
  by_cases backtick : q = .backtick
  · subst backtick
    exact ⟨d.word, [], begun, by simp, by simpa using d.word_open_backtick⟩
  · have wellFormed := Word.begun_quote d.word q backtick begun
    rw [← d.word_open_other q backtick] at wellFormed
    have marked : (d.openQuote q).word.quote ≠ none := by
      rw [d.word_open_other q backtick]
      cases d.word.quote <;> simp
    exact (sound_quoted_other _ q backtick).2 ⟨marked, wellFormed⟩

theorem sound_push (d : Draft) (c : Char) (begun : d.word.Begun) (bare : IsBare c)
    (notFirst : d.word = Word.bare [] → c ≠ '(') : Sound (word (d.push c)) := by
  change (d.push c).word.WellFormed
  rw [d.word_push]
  exact Word.begun_bare d.word c begun bare notFirst

theorem sound_close (d : Draft) (q : Quote) (sound : Sound (quoted q d)) : Sound (word (d.closeQuote q)) := by
  by_cases backtick : q = .backtick
  · subst backtick
    obtain ⟨w, line, begun, noBacktick, wordEq⟩ := sound
    have closed := d.word_close_backtick ⟨byteLength w.text, byteLength w.text⟩ w.commands (by rw [wordEq])
    change (d.closeQuote .backtick).word.WellFormed
    rw [closed, wordEq]
    exact Word.begun_region w line begun noBacktick
  · rw [d.close_other q backtick]
    exact ((sound_quoted_other d q backtick).1 sound).2

theorem sound_quote (d : Draft) (q : Quote) (c : Char) (inside : c ≠ q.char) (sound : Sound (quoted q d)) :
    Sound (quoted q (d.push c)) := by
  by_cases backtick : q = .backtick
  · subst backtick
    obtain ⟨w, line, begun, noBacktick, wordEq⟩ := sound
    refine ⟨w, line ++ [c], begun, ?_, by rw [d.word_push, wordEq, List.append_assoc]⟩
    intro member
    rcases List.mem_append.1 member with old | new
    · exact noBacktick old
    · exact inside (List.mem_singleton.1 new).symm
  · obtain ⟨marked, wellFormed⟩ := (sound_quoted_other d q backtick).1 sound
    rw [sound_quoted_other _ q backtick, d.word_push]
    exact ⟨marked, Word.marked_append d.word [c] marked wellFormed⟩

theorem sound_block (opening depth deeper : Nat) (quote next : Option Quote) (body : Text) (c : Char)
    (goesOn : blockStep (depth + 1, quote) c = some (deeper + 1, next))
    (sound : Sound (block opening depth quote body)) : Sound (block opening deeper next (c :: body)) := by
  have soFar : body.reverse.foldlM blockStep (1, none) = some (depth + 1, quote) := sound
  change (c :: body).reverse.foldlM blockStep (1, none) = some (deeper + 1, next)
  rw [List.reverse_cons, List.foldlM_append, soFar]
  simpa using goesOn

theorem operator_well_formed (c : Char) (t : Token) (found : Token.operator? c = some t) : t.WellFormed := by
  have operators : t = .pipe ∨ t = .ampersand ∨ t = .semicolon := by grind [Token.operator?]
  rcases operators with rfl | rfl | rfl <;> trivial

theorem block_end_well_formed (opening depth : Nat) (quote : Option Quote) (body : Text) (c : Char)
    (closes : blockStep (depth + 1, quote) c = none) (sound : Sound (block opening depth quote body)) :
    IsBlockBody body.reverse := by
  obtain ⟨outermost, rfl, _⟩ := block_step_closes _ _ _ closes
  obtain rfl : depth = 0 := by omega
  exact sound

theorem moves_keep_sound (column : Nat) (m : Mode) (c : Char) (n : Mode) (done : List Token) (sound : m.Sound)
    (moves : Moves column m c n done) : n.Sound ∧ ∀ t ∈ done, t.WellFormed := by
  cases moves with
  | skip c blank => exact ⟨trivial, by simp⟩
  | openBlock => exact ⟨rfl, by simp⟩
  | openQuote q => exact ⟨sound_open {} q (.inl rfl), by simp⟩
  | operator c t found => exact ⟨trivial, by simpa using operator_well_formed c t found⟩
  | begin c bare notOpen => exact ⟨sound_push {} c (.inl rfl) bare fun _ => notOpen, by simp⟩
  | endWord d c blank =>
      have whole : (Token.word d.word).WellFormed := sound
      exact ⟨trivial, by simpa using whole⟩
  | openInside d q => exact ⟨sound_open d q (.inr sound), by simp⟩
  | operatorAfter d c t found =>
      have whole : (Token.word d.word).WellFormed := sound
      exact ⟨trivial, by simpa using ⟨whole, operator_well_formed c t found⟩⟩
  | extend d c bare =>
      refine ⟨sound_push d c (.inr sound) bare fun empty => ?_, by simp⟩
      -- nothing is well formed only when it is marked
      have wellFormed : d.word.WellFormed := sound
      rw [empty] at wellFormed
      exact absurd rfl wellFormed.2.1
  | close d q => exact ⟨sound_close d q sound, by simp⟩
  | quote d q c inside => exact ⟨sound_quote d q c inside sound, by simp⟩
  | blockOn opening depth deeper quote next body c goesOn =>
      exact ⟨sound_block opening depth deeper quote next body c goesOn sound, by simp⟩
  | blockEnd opening depth quote body c closes =>
      have closed : (Token.subshell body.reverse).WellFormed :=
        block_end_well_formed opening depth quote body c closes sound
      exact ⟨trivial, by simpa using closed⟩

end Mode

theorem scan_well_formed (line : Text) (tokens : List Token) (scanned : scan line = .ok tokens) :
    ∀ t ∈ tokens, t.WellFormed :=
  scan_keeps (fun _ => Mode.Sound) (fun _ => Token.WellFormed) (fun _ _ _ wellFormed => wellFormed)
    (fun _ => Mode.moves_keep_sound) (fun _ _ sound => sound) line tokens trivial scanned

end CommandShell
