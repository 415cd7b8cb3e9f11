import CommandShell.Proofs.Execution.Nesting

set_option autoImplicit false

namespace CommandShell

open Text

theorem Text.split_bytes_joined (n : Nat) (t : Text) : (splitBytes n t).1 ++ (splitBytes n t).2 = t := by
  fun_induction splitBytes n t with
  | case1 => rfl
  | case2 n c rest fits before after split ih => simpa [split] using ih
  | case3 => rfl

-- The text between two offsets; none if one of them falls into a character or lies after the end, or if they are not in
-- order.
def Text.slice? (t : Text) (start stop : Nat) : Option Text :=
  let front := (splitBytes stop t).1
  let (before, line) := splitBytes start front
  if byteLength front = stop ∧ byteLength before = start then some line else none

theorem Text.slice_some_iff (t : Text) (start stop : Nat) (line : Text) : t.slice? start stop = some line ↔
    ∃ before after, t = before ++ line ++ after ∧ start = byteLength before ∧ stop = byteLength (before ++ line) := by
  constructor
  · intro sliced
    simp only [slice?, Option.ite_none_right_eq_some, Option.some.injEq] at sliced
    obtain ⟨⟨stopEq, startEq⟩, rfl⟩ := sliced
    have front := split_bytes_joined start (splitBytes stop t).1
    refine ⟨_, (splitBytes stop t).2, ?_, startEq.symm, ?_⟩
    · rw [front, split_bytes_joined]
    · rw [front, stopEq]
  · rintro ⟨before, after, rfl, rfl, rfl⟩
    simp only [slice?, split_bytes_append, and_self, if_true]

namespace Word

-- The pieces of a text whose regions are `spans`, from the offset `rest` on; none as soon as one is out of range.
def slices? (t : Text) (rest : Nat) : List Span → Option (List Piece)
  | [] => do return [.plain (← t.slice? rest (byteLength t))]
  | span :: more => do
    let before ← t.slice? rest span.start
    let line ← t.slice? span.start span.stop
    let others ← slices? t span.stop more
    return .plain before :: .command line :: others

theorem slices_cut (spans : List Span) (before rest : Text) (regions : Regions (before ++ rest) spans)
    (later : ∀ next ∈ spans.head?, byteLength before ≤ next.start) :
    slices? (before ++ rest) (byteLength before) spans = some (cut (byteLength before) rest spans) := by
  induction spans generalizing before rest with
  | nil =>
      have tail := (slice_some_iff (before ++ rest) _ _ rest).2 ⟨before, [], by simp, rfl, rfl⟩
      rw [slices?, tail]
      rfl
  | cons span more ih =>
      obtain ⟨plain, line, after, restEq, spanEq, _, restRegions, following⟩ :=
        regions_cons before rest span more regions (later span rfl)
      subst restEq spanEq
      have whole : before ++ (plain ++ line ++ after) = before ++ plain ++ line ++ after := by simp
      have first := (slice_some_iff (before ++ plain ++ line ++ after) _ _ plain).2
        ⟨before, line ++ after, by simp, rfl, rfl⟩
      have region := (slice_some_iff (before ++ plain ++ line ++ after) _ _ line).2
        ⟨before ++ plain, after, rfl, rfl, rfl⟩
      have others := ih (before ++ plain ++ line) after restRegions following
      rw [whole, cut_at, slices?, first, region, others]
      rfl

end Word

variable {σ : Type}

-- `Answered run s lines answers last`: the lines run from `s`, each in the state the one before it left, with success and
-- with `answers` as their outputs, and the last one leaves `last`.
inductive Answered (run : Text → Run σ Outcome) : σ → List Text → List Text → σ → Prop where
  | done (s : σ) : Answered run s [] [] s
  | passed (s middle last : σ) (line : Text) (later : List Text) (outcome : Outcome) (answer : Text)
      (answers : List Text) (ran : (run line).run.run s = (.ok outcome, middle)) (success : outcome.code = 0)
      (output : outcome.output = some answer) (others : Answered run middle later answers last) :
      Answered run s (line :: later) (answer :: answers) last

namespace Piece

def filled : List Piece → List Text → Text
  | .plain t :: rest, answers => t ++ filled rest answers
  | .command _ :: rest, answer :: answers => trimEnd answer ++ filled rest answers
  | _, _ => []

end Piece

namespace Word

theorem expand_command_piece_iff (nested : Nested σ) (line : Text) (s last : σ) (text : Text) :
    (expandPiece nested (.command line)).run.run s = (.ok text, last) ↔ ∃ outcome answer,
      (nested.run line).run.run s = (.ok outcome, last) ∧ outcome.code = 0 ∧ outcome.output = some answer ∧
        text = trimEnd answer := by
  rw [expandPiece, Run.run_bind_ok_iff]
  constructor
  · rintro ⟨outcome, middle, ran, answered⟩
    rw [substitution_eq] at answered
    by_cases useless : outcome.code ≠ 0 ∨ outcome.output = none
    · rw [if_pos useless] at answered
      cases answered
    · obtain ⟨success, some⟩ := not_or.1 useless
      obtain ⟨answer, output⟩ := Option.ne_none_iff_exists'.1 some
      rw [if_neg useless, output] at answered
      cases answered
      exact ⟨outcome, answer, ran, Decidable.not_not.1 success, output, rfl⟩
  · rintro ⟨outcome, answer, ran, success, output, rfl⟩
    refine ⟨outcome, last, ran, ?_⟩
    rw [Outcome.substitution, if_neg (not_not_intro success), output]
    rfl

theorem expand_more_iff (nested : Nested σ) (piece : Piece) (rest : List Piece) (s last : σ) (text : Text) :
    (∃ texts, ((piece :: rest).mapM (expandPiece nested)).run.run s = (.ok texts, last) ∧ text = texts.flatten) ↔
      ∃ first middle others, (expandPiece nested piece).run.run s = (.ok first, middle) ∧
        (∃ texts, (rest.mapM (expandPiece nested)).run.run middle = (.ok texts, last) ∧ others = texts.flatten) ∧
        text = first ++ others := by
  simp only [List.mapM_cons, Run.run_bind_ok_iff]
  constructor
  · rintro ⟨texts, ⟨first, middle, ran, more, after, others, whole⟩, rfl⟩
    cases whole
    exact ⟨first, middle, more.flatten, ran, ⟨more, others, rfl⟩, rfl⟩
  · rintro ⟨first, middle, _, ran, ⟨more, others, rfl⟩, rfl⟩
    exact ⟨first :: more, ⟨first, middle, ran, more, last, others, rfl⟩, rfl⟩

theorem expand_pieces_iff (nested : Nested σ) (pieces : List Piece) (s last : σ) (text : Text) :
    (∃ texts, (pieces.mapM (expandPiece nested)).run.run s = (.ok texts, last) ∧ text = texts.flatten) ↔
      ∃ answers, Answered nested.run s (pieces.filterMap Piece.command?) answers last ∧
        text = Piece.filled pieces answers := by
  induction pieces generalizing s text with
  | nil =>
      constructor
      · rintro ⟨texts, ran, rfl⟩
        cases ran
        exact ⟨[], .done _, rfl⟩
      · rintro ⟨answers, answered, rfl⟩
        cases answered
        exact ⟨[], rfl, rfl⟩
  | cons piece rest ih =>
      simp only [expand_more_iff, ih]
      cases piece with
      | plain t =>
          constructor
          · rintro ⟨first, middle, _, ran, ⟨answers, answered, rfl⟩, rfl⟩
            cases ran
            exact ⟨answers, answered, rfl⟩
          · rintro ⟨answers, answered, rfl⟩
            exact ⟨t, s, _, rfl, ⟨answers, answered, rfl⟩, rfl⟩
      | command line =>
          constructor
          · rintro ⟨first, middle, _, ran, ⟨answers, answered, rfl⟩, rfl⟩
            obtain ⟨outcome, answer, run, success, output, rfl⟩ := (expand_command_piece_iff _ _ _ _ _).1 ran
            exact ⟨_, .passed s middle last line _ outcome answer answers run success output answered, rfl⟩
          · rintro ⟨_, answered, rfl⟩
            cases answered with
            | passed _ middle _ _ _ outcome answer answers ran success output answered =>
                have first := (expand_command_piece_iff nested line s middle _).2 ⟨outcome, answer, ran, success, output, rfl⟩
                exact ⟨_, middle, _, first, ⟨answers, answered, rfl⟩, rfl⟩

theorem expand_commands_iff (nested : Nested σ) (w v : Word) (regions : w.commands ≠ []) (s last : σ) :
    (w.expandCommands nested).run.run s = (.ok v, last) ↔ ∃ answers, Answered nested.run s w.lines answers last ∧
      v = { w with text := Piece.filled w.pieces answers, commands := [] } := by
  have some : ¬ w.commands.isEmpty = true := by simpa using regions
  rw [expandCommands, if_neg some, Run.run_bind_ok_iff]
  constructor
  · rintro ⟨texts, middle, ran, whole⟩
    cases whole
    obtain ⟨answers, answered, same⟩ := (expand_pieces_iff nested w.pieces s last _).1 ⟨texts, ran, rfl⟩
    exact ⟨answers, answered, by rw [← same]⟩
  · rintro ⟨answers, answered, rfl⟩
    obtain ⟨texts, ran, same⟩ := (expand_pieces_iff nested w.pieces s last _).2 ⟨answers, answered, rfl⟩
    exact ⟨texts, last, ran, by rw [same]; rfl⟩

end Word

theorem Word.expand_home_quoted (home : Text) (w : Word) (quoted : w.quote ≠ none) : w.expandHome home = w := by
  rw [expandHome, if_pos (by simpa [isQuoted, Option.isSome_iff_ne_none] using quoted)]

theorem Word.expand_pattern_quoted (names : List Text) (w : Word) (quoted : w.quote ≠ none) :
    w.expandPattern names = [w] := by
  have noPattern : ¬ w.hasPattern = true := by simp [hasPattern, isQuoted, Option.isSome_iff_ne_none.2 quoted]
  rw [expandPattern, if_neg noPattern]

namespace Expansion

def withRegions (words : List Word) : List Word := words.filter fun w => !w.commands.isEmpty

theorem with_regions_kept (f : Word → List Word) (words : List Word) (marked : ∀ w ∈ words, w.Marked)
    (keeps : ∀ w : Word, w.quote ≠ none → f w = [w]) (adds : ∀ w : Word, w.commands = [] → ∀ v ∈ f w, v.commands = []) :
    withRegions (words.flatMap f) = withRegions words := by
  have each (w : Word) (member : w ∈ words) : withRegions (f w) = withRegions [w] := by
    by_cases none : w.commands = []
    · have nothing (v : Word) (made : v ∈ f w) : ¬ (!v.commands.isEmpty) = true := by simp [adds w none v made]
      rw [withRegions, List.filter_eq_nil_iff.2 nothing]
      simp [withRegions, none]
    · rw [keeps w fun unmarked => none (marked w member unmarked)]
  calc withRegions (words.flatMap f)
      _ = words.flatMap fun w => withRegions (f w) := List.filter_flatMap
      _ = words.flatMap fun w => withRegions [w] := List.flatMap_congr each
      _ = withRegions (words.flatMap fun w => [w]) := List.filter_flatMap.symm
      _ = withRegions words := by rw [List.flatMap_singleton']

theorem home_keeps_regions (home : Text) (words : List Word) (marked : ∀ w ∈ words, w.Marked) :
    withRegions (words.map (Word.expandHome home)) = withRegions words := by
  rw [List.map_eq_flatMap]
  refine with_regions_kept _ words marked (fun w quoted => by rw [w.expand_home_quoted home quoted]) fun w none v made => ?_
  obtain rfl := List.mem_singleton.1 made
  by_cases quoted : w.isQuoted = true <;> simp [Word.expandHome, quoted, none]

theorem pattern_keeps_regions (names : List Text) (words : List Word) (marked : ∀ w ∈ words, w.Marked) :
    withRegions (words.flatMap (Word.expandPattern names)) = withRegions words := by
  refine with_regions_kept _ words marked (fun w quoted => w.expand_pattern_quoted names quoted) fun w none v made => ?_
  rcases w.mem_expand_pattern names v made with rfl | ⟨name, _, rfl⟩
  · exact none
  · rfl

theorem run_home_pattern (nested : Nested σ) (words : List Word) (s : σ) :
    (applySteps nested [.home, .pattern] words).run.run s =
      (.ok ((words.map (Word.expandHome (nested.session s).home)).flatMap
        (Word.expandPattern (((nested.files s).list (nested.session s).directory).toOption.getD []))), s) := rfl

theorem run_after_pattern (nested : Nested σ) (words : List Word) (s : σ) :
    (expandWords nested words).run.run s = (applySteps nested [.command, .variable]
      ((words.map (Word.expandHome (nested.session s).home)).flatMap
        (Word.expandPattern (((nested.files s).list (nested.session s).directory).toOption.getD [])))).run.run s := rfl

theorem before_regions (nested : Nested σ) (words : List Word) (s : σ) (marked : ∀ w ∈ words, w.Marked) :
    ∃ reached, (applySteps nested [.home, .pattern] words).run.run s = (.ok reached, s) ∧
      (expandWords nested words).run.run s = (applySteps nested [.command, .variable] reached).run.run s ∧
      withRegions reached = withRegions words := by
  let names := ((nested.files s).list (nested.session s).directory).toOption.getD []
  let home := words.map (Word.expandHome (nested.session s).home)
  have homeMarked : ∀ w ∈ home, w.Marked := by
    intro w member
    obtain ⟨v, inWords, rfl⟩ := List.mem_map.1 member
    exact (v.expand_home_keeps _ (marked v inWords)).1
  refine ⟨home.flatMap (Word.expandPattern names), run_home_pattern nested words s, run_after_pattern nested words s, ?_⟩
  rw [pattern_keeps_regions names home homeMarked, home_keeps_regions _ words marked]

end Expansion

structure Word.Cuttable (w : Word) : Prop where
  quoted : w.quote ≠ none
  -- Between two characters, in order by itself and with the others, and within the text.
  regions : Regions w.text w.commands
  within : ∀ span ∈ w.commands, span.stop ≤ byteLength w.text
  slices : Word.slices? w.text 0 w.commands = some w.pieces
  whole : Piece.joined w.pieces = w.text
  placed : Piece.spansFrom 0 w.pieces = w.commands

theorem Word.WellFormed.cuttable (w : Word) (wellFormed : w.WellFormed) (some : w.commands ≠ []) : w.Cuttable := by
  have regions := Word.begun_regions w (.inr wellFormed)
  obtain ⟨whole, placed, _⟩ := cut_regions w.commands [] w.text regions fun _ _ => Nat.zero_le _
  refine ⟨fun unmarked => ?_, regions, fun span member => ?_, ?_, whole, placed⟩
  · rw [Word.WellFormed, unmarked] at wellFormed
    exact some wellFormed.1
  · exact boundary_le w.text span.stop (regions.each span member).stop
  · exact slices_cut w.commands [] w.text regions fun _ _ => Nat.zero_le _

theorem regions_cut_in_range (nested : Nested σ) (line : Text) (list : CommandList Word) (words : List Word) (s : σ)
    (parsed : CommandList.ofLine line = .ok list) (command : words ∈ list.commands) :
    ∃ reached, (Expansion.applySteps nested [.home, .pattern] words).run.run s = (.ok reached, s) ∧
      (Expansion.expandWords nested words).run.run s =
        (Expansion.applySteps nested [.command, .variable] reached).run.run s ∧
      Expansion.withRegions reached = Expansion.withRegions words ∧
      ∀ w ∈ Expansion.withRegions reached, w.Cuttable ∧ ∀ (t last : σ) (v : Word),
        (w.expandCommands nested).run.run t = (.ok v, last) ↔ ∃ answers, Answered nested.run t w.lines answers last ∧
          v = { w with text := Piece.filled w.pieces answers, commands := [] } := by
  have wellFormed := (CommandList.of_tokens line list Token.WellFormed parsed fun tokens =>
    scan_well_formed line tokens).1 words command
  obtain ⟨reached, ran, rest, kept⟩ := Expansion.before_regions nested words s (words_marked line list parsed words command)
  refine ⟨reached, ran, rest, kept, fun w member => ?_⟩
  rw [kept] at member
  obtain ⟨inWords, nonempty⟩ := List.mem_filter.1 member
  have some : w.commands ≠ [] := by simpa using nonempty
  exact ⟨Word.WellFormed.cuttable w (wellFormed w inWords) some, fun t last v => w.expand_commands_iff nested v some t last⟩

theorem regions_cut_in_range_two :
    let w : Word := ⟨"xaéb".toList, some .backtick, [⟨1, 2⟩, ⟨4, 5⟩]⟩
    ∃ list, CommandList.ofLine "echo x`a`é`b`".toList = .ok list ∧ [.bare "echo".toList, w] ∈ list.commands ∧
      ∀ (nested : Nested World) (s : World), ∃ reached,
        (Expansion.applySteps nested [.home, .pattern] [.bare "echo".toList, w]).run.run s = (.ok reached, s) ∧
        Expansion.withRegions reached = [w] ∧ w.Cuttable ∧ ∀ (t last : World) (v : Word),
          (w.expandCommands nested).run.run t = (.ok v, last) ↔ ∃ answers,
            Answered nested.run t [['a'], ['b']] answers last ∧
            v = ⟨Piece.filled [.plain ['x'], .command ['a'], .plain ['é'], .command ['b'], .plain []] answers,
              some .backtick, []⟩ := by
  intro w
  have parsed := CommandList.of_line_one "echo x`a`é`b`".toList (.simple [.bare "echo".toList, w])
    (List.cons_ne_nil _ _) rfl
  have command : [.bare "echo".toList, w] ∈
      (⟨[⟨.simple [.bare "echo".toList, w], []⟩], false⟩ : CommandList Word).commands := List.mem_singleton.2 rfl
  refine ⟨_, parsed, command, fun nested s => ?_⟩
  obtain ⟨reached, ran, _, kept, cuts⟩ := regions_cut_in_range nested _ _ _ s parsed command
  obtain ⟨cuttable, filled⟩ := cuts w (kept ▸ List.mem_singleton.2 rfl)
  exact ⟨reached, ran, kept, cuttable, filled⟩

end CommandShell
