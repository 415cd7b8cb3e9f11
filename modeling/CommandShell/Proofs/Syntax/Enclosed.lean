import CommandShell.Proofs.Syntax.Flattening
import CommandShell.Proofs.Syntax.WellFormed

set_option autoImplicit false

namespace CommandShell

open Text

def Enclosed (line inner : Text) : Prop :=
  ∃ before opening closing after, line = before ++ opening :: (inner ++ closing :: after)

theorem enclosed_append (line inner more : Text) (enclosed : Enclosed line inner) : Enclosed (line ++ more) inner := by
  obtain ⟨before, opening, closing, after, rfl⟩ := enclosed
  exact ⟨before, opening, closing, after ++ more, by simp⟩

theorem enclosed_shorter (line inner : Text) (enclosed : Enclosed line inner) :
    inner <:+: line ∧ inner.length + 2 ≤ line.length := by
  obtain ⟨before, opening, closing, after, rfl⟩ := enclosed
  refine ⟨⟨before ++ [opening], closing :: after, by simp⟩, ?_⟩
  simp only [List.length_append, List.length_cons]
  omega

structure Word.Within (typed : Text) (w : Word) : Prop where
  regions : Regions w.text w.commands
  enclosed : ∀ line ∈ w.lines, Enclosed typed line

def Token.Within (typed : Text) : Token → Prop
  | .word w => w.Within typed
  | .subshell body => Enclosed typed body
  | .pipe | .ampersand | .semicolon => True

namespace Word

theorem within_bare (typed t : Text) (mark : Option Quote) : Within typed ⟨t, mark, []⟩ :=
  ⟨regions_nil t, by simp [lines, pieces, cut, Piece.command?]⟩

theorem within_append (typed more added : Text) (mark : Option Quote) (w : Word) (within : w.Within typed) :
    Within (typed ++ more) ⟨w.text ++ added, mark, w.commands⟩ := by
  have regions := regions_append w.text added w.commands within.regions
  have same : (⟨w.text ++ added, mark, w.commands⟩ : Word).lines = w.lines := by
    rw [word_lines _ regions, word_lines w within.regions]
    exact List.map_congr_left fun span member => text_in_append span w.text added (within.regions.each span member)
  refine ⟨regions, fun line member => ?_⟩
  rw [same] at member
  exact enclosed_append typed line more (within.enclosed line member)

theorem within_more (typed more : Text) (w : Word) (within : w.Within typed) : w.Within (typed ++ more) := by
  simpa using within_append typed more [] w.quote w within

theorem within_region (front line : Text) (mark : Option Quote) (w : Word) (noBacktick : '`' ∉ line)
    (within : w.Within (front ++ '`' :: line)) :
    Within (front ++ '`' :: line ++ ['`'])
      ⟨w.text ++ line, mark, w.commands ++ [⟨byteLength w.text, byteLength (w.text ++ line)⟩]⟩ := by
  have regions := regions_snoc w.text line w.commands within.regions noBacktick
  have last := text_in_split w.text line []
  rw [List.append_nil] at last
  have older := within_append _ ['`'] line mark w within
  refine ⟨regions, fun inner member => ?_⟩
  rw [word_lines _ regions, List.map_append, ← word_lines ⟨w.text ++ line, mark, w.commands⟩ older.regions,
    List.map_singleton, last] at member
  rcases List.mem_append.1 member with early | new
  · exact older.enclosed inner early
  · rw [List.mem_singleton.1 new]
    exact ⟨front, '`', '`', [], by simp⟩

end Word

namespace Mode

-- What is known of the lines inside what was typed. The text of an open region is the end of it, and so is that of an
-- open block.
def Within (typed : Text) : Mode → Prop
  | between => True
  | word d => d.word.Within typed
  | quoted .backtick d => ∃ (w : Word) (front line : Text), typed = front ++ '`' :: line ∧ w.Within typed ∧ '`' ∉ line ∧
      d.word = ⟨w.text ++ line, w.quote.or (some .backtick), w.commands ++ [⟨byteLength w.text, byteLength w.text⟩]⟩
  | quoted _ d => d.word.Within typed
  | block _ _ _ body => ∃ front, typed = front ++ '(' :: body.reverse

theorem within_quoted_other (typed : Text) (d : Draft) (q : Quote) (other : q ≠ .backtick) :
    Within typed (quoted q d) ↔ d.word.Within typed := by
  cases q with
  | double => rfl
  | single => rfl
  | backtick => exact absurd rfl other

theorem within_open (typed : Text) (d : Draft) (q : Quote) (within : d.word.Within typed) :
    Within (typed ++ [q.char]) (quoted q (d.openQuote q)) := by
  by_cases backtick : q = .backtick
  · subst backtick
    exact ⟨d.word, typed, [], rfl, d.word.within_more typed _ within, by simp, by simpa using d.word_open_backtick⟩
  · rw [within_quoted_other _ _ q backtick, d.word_open_other q backtick]
    simpa using Word.within_append typed [q.char] [] (d.word.quote.or (some q)) d.word within

theorem within_push (typed : Text) (d : Draft) (c : Char) (within : d.word.Within typed) :
    (d.push c).word.Within (typed ++ [c]) := by
  rw [d.word_push]
  exact Word.within_append typed [c] [c] d.word.quote d.word within

theorem within_close (typed : Text) (d : Draft) (q : Quote) (within : Within typed (quoted q d)) :
    Within (typed ++ [q.char]) (word (d.closeQuote q)) := by
  by_cases backtick : q = .backtick
  · subst backtick
    obtain ⟨w, front, line, rfl, wordWithin, noBacktick, wordEq⟩ := within
    have closed := d.word_close_backtick ⟨byteLength w.text, byteLength w.text⟩ w.commands (by rw [wordEq])
    change (d.closeQuote .backtick).word.Within _
    rw [closed, wordEq]
    exact Word.within_region front line _ w noBacktick wordWithin
  · rw [d.close_other q backtick]
    exact d.word.within_more typed _ ((within_quoted_other typed d q backtick).1 within)

theorem within_quote (typed : Text) (d : Draft) (q : Quote) (c : Char) (inside : c ≠ q.char)
    (within : Within typed (quoted q d)) : Within (typed ++ [c]) (quoted q (d.push c)) := by
  by_cases backtick : q = .backtick
  · subst backtick
    obtain ⟨w, front, line, rfl, wordWithin, noBacktick, wordEq⟩ := within
    refine ⟨w, front, line ++ [c], by simp, w.within_more _ [c] wordWithin, ?_,
      by rw [d.word_push, wordEq, List.append_assoc]⟩
    have other : c ≠ '`' := inside
    simpa [noBacktick] using other.symm
  · rw [within_quoted_other _ _ q backtick]
    exact within_push typed d c ((within_quoted_other typed d q backtick).1 within)

theorem token_within_more (typed more : Text) (t : Token) (within : t.Within typed) : t.Within (typed ++ more) := by
  cases t with
  | word w => exact w.within_more typed more within
  | subshell body => exact enclosed_append typed body more within
  | pipe => trivial
  | ampersand => trivial
  | semicolon => trivial

theorem moves_keep_within (typed : Text) (column : Nat) (m : Mode) (c : Char) (n : Mode) (done : List Token)
    (within : m.Within typed) (moves : Moves column m c n done) :
    n.Within (typed ++ [c]) ∧ ∀ t ∈ done, t.Within (typed ++ [c]) := by
  have operator (t : Token) (found : Token.operator? c = some t) : t.Within (typed ++ [c]) := by
    have operators : t = .pipe ∨ t = .ampersand ∨ t = .semicolon := by grind [Token.operator?]
    rcases operators with rfl | rfl | rfl <;> trivial
  have ended (d : Draft) (whole : d.word.Within typed) : (Token.word d.word).Within (typed ++ [c]) :=
    d.word.within_more typed [c] whole
  have nothing : (Draft.word {}).Within typed := Word.within_bare typed [] none
  cases moves with
  | skip c blank => exact ⟨trivial, by simp⟩
  | openBlock => exact ⟨⟨typed, rfl⟩, by simp⟩
  | openQuote q => exact ⟨within_open typed {} q nothing, by simp⟩
  | operator c t found => exact ⟨trivial, by simpa using operator t found⟩
  | begin c bare notOpen => exact ⟨within_push typed {} c nothing, by simp⟩
  | endWord d c blank => exact ⟨trivial, by simpa using ended d within⟩
  | openInside d q => exact ⟨within_open typed d q within, by simp⟩
  | operatorAfter d c t found => exact ⟨trivial, by simpa using ⟨ended d within, operator t found⟩⟩
  | extend d c bare => exact ⟨within_push typed d c within, by simp⟩
  | close d q => exact ⟨within_close typed d q within, by simp⟩
  | quote d q c inside => exact ⟨within_quote typed d q c inside within, by simp⟩
  | blockOn opening depth deeper quote next body c goesOn =>
      obtain ⟨front, rfl⟩ := within
      exact ⟨⟨front, by simp⟩, by simp⟩
  | blockEnd opening depth quote body c closes =>
      obtain ⟨front, rfl⟩ := within
      have block : (Token.subshell body.reverse).Within (front ++ '(' :: body.reverse ++ [c]) :=
        ⟨front, '(', c, [], by simp⟩
      exact ⟨trivial, by simpa using block⟩

end Mode

theorem scan_within (line : Text) (tokens : List Token) (scanned : scan line = .ok tokens) :
    ∀ t ∈ tokens, t.Within line :=
  scan_keeps Mode.Within Token.Within Mode.token_within_more Mode.moves_keep_within (fun _ _ within => within) line
    tokens trivial scanned

theorem mem_intercalate {α : Type} (separator part : List α) (parts : List (List α)) (a : α) (inPart : a ∈ part)
    (member : part ∈ parts) : a ∈ separator.intercalate parts := by
  induction parts with
  | nil => cases member
  | cons first rest ih =>
      cases rest with
      | nil => simpa [List.mem_singleton.1 member] using inPart
      | cons next more =>
          rw [List.intercalate_cons_cons]
          rcases List.mem_cons.1 member with rfl | later
          · exact List.mem_append_left _ (List.mem_append_left _ inPart)
          · exact List.mem_append_right _ (ih later)

def Stage.body? {α : Type} : Stage α → Option Text
  | .simple _ => none
  | .subshell body => some body

namespace CommandList

def regions (list : CommandList Word) : List Text := list.commands.flatMap fun words => words.flatMap Word.lines

def bodies {α : Type} (list : CommandList α) : List Text :=
  list.pipelines.flatMap fun p => p.stages.filterMap Stage.body?

theorem mem_flatten (list : CommandList Word) (p : Pipeline Word) (s : Stage Word) (t : Token)
    (pipeline : p ∈ list.pipelines) (stage : s ∈ p.stages) (token : t ∈ s.flatten) : t ∈ list.flatten := by
  have inPipeline : t ∈ p.flatten := mem_intercalate _ s.flatten _ t token (List.mem_map_of_mem stage)
  exact List.mem_append_left _ (mem_intercalate _ p.flatten _ t inPipeline (List.mem_map_of_mem pipeline))

theorem of_tokens (line : Text) (list : CommandList Word) (P : Token → Prop) (parsed : ofLine line = .ok list)
    (tokens : ∀ tokens, scan line = .ok tokens → ∀ t ∈ tokens, P t) :
    (∀ words ∈ list.commands, ∀ w ∈ words, P (.word w)) ∧ ∀ body ∈ list.bodies, P (.subshell body) := by
  obtain ⟨all, scanned, parsed⟩ := (except_bind_ok_iff _ _ _).1 parsed
  have written := ((parse_ok_iff all list).1 parsed).2
  have kept (p : Pipeline Word) (s : Stage Word) (t : Token) (pipeline : p ∈ list.pipelines) (stage : s ∈ p.stages)
      (token : t ∈ s.flatten) : P t := by
    have member := mem_flatten list p s t pipeline stage token
    rcases written with rfl | ⟨_, _, rfl⟩
    · exact tokens _ scanned t member
    · exact tokens _ scanned t (List.mem_append_left _ member)
  constructor
  · intro words command w member
    obtain ⟨p, pipeline, found⟩ := List.mem_flatMap.1 command
    obtain ⟨s, stage, isWords⟩ := List.mem_filterMap.1 found
    cases s with
    | subshell body => cases isWords
    | simple same =>
        obtain rfl : same = words := Option.some.inj isWords
        exact kept p (.simple same) (.word w) pipeline stage (List.mem_map_of_mem member)
  · intro body member
    obtain ⟨p, pipeline, found⟩ := List.mem_flatMap.1 member
    obtain ⟨s, stage, isBody⟩ := List.mem_filterMap.1 found
    cases s with
    | simple words => cases isBody
    | subshell same =>
        obtain rfl : same = body := Option.some.inj isBody
        exact kept p (.subshell same) (.subshell same) pipeline stage List.mem_cons_self

theorem nested_enclosed (line inner : Text) (list : CommandList Word) (parsed : ofLine line = .ok list)
    (nested : inner ∈ list.regions ++ list.bodies) : Enclosed line inner := by
  obtain ⟨words, bodies⟩ := of_tokens line list (Token.Within line) parsed fun tokens => scan_within line tokens
  rcases List.mem_append.1 nested with region | body
  · obtain ⟨command, inList, found⟩ := List.mem_flatMap.1 region
    obtain ⟨w, inCommand, found⟩ := List.mem_flatMap.1 found
    exact (words command inList w inCommand).enclosed inner found
  · exact bodies inner body

end CommandList

end CommandShell
