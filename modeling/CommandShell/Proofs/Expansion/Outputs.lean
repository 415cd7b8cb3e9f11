import CommandShell.Proofs.Execution.Phases
import CommandShell.Proofs.Expansion.Slices

set_option autoImplicit false

namespace CommandShell

variable {σ : Type}

def Word.answered (w : Word) (answers : List Text) : Word :=
  { w with text := Piece.filled w.pieces answers, commands := [] }

-- `WordsAnswered run s words answers last`: the lines of the regions of all words run from `s`, one after the other, with
-- `answers` as what the lines of each word put out, and the last one leaves `last`.
inductive WordsAnswered (run : Text → Run σ Outcome) : σ → List Word → List (List Text) → σ → Prop where
  | done (s : σ) : WordsAnswered run s [] [] s
  | word (s middle last : σ) (w : Word) (rest : List Word) (first : List Text) (answers : List (List Text))
      (ran : Answered run s w.lines first middle) (others : WordsAnswered run middle rest answers last) :
      WordsAnswered run s (w :: rest) (first :: answers) last

namespace Word

theorem answered_no_region (w : Word) (none : w.commands = []) : w.answered [] = w := by
  obtain ⟨text, quote, commands⟩ := w
  subst none
  simp [answered, pieces, cut, Piece.filled]

theorem expand_word_iff (nested : Nested σ) (w v : Word) (s last : σ) :
    (w.expandCommands nested).run.run s = (.ok v, last) ↔
      ∃ answers, Answered nested.run s w.lines answers last ∧ v = w.answered answers := by
  by_cases none : w.commands = []
  · rw [lines_of_no_command w none, expandCommands, if_pos (by simp [none])]
    constructor
    · intro ran
      cases ran
      exact ⟨[], .done _, (w.answered_no_region none).symm⟩
    · rintro ⟨answers, ran, rfl⟩
      cases ran
      rw [w.answered_no_region none]
      rfl
  · exact w.expand_commands_iff nested v none s last

theorem expand_all_iff (nested : Nested σ) (words values : List Word) (s last : σ) :
    (words.mapM (expandCommands nested)).run.run s = (.ok values, last) ↔
      ∃ answers, WordsAnswered nested.run s words answers last ∧ values = words.zipWith answered answers := by
  induction words generalizing s values with
  | nil =>
      constructor
      · intro ran
        cases ran
        exact ⟨[], .done _, rfl⟩
      · rintro ⟨answers, ran, rfl⟩
        cases ran
        rfl
  | cons w rest ih =>
      rw [List.mapM_cons, Run.run_bind_ok_iff]
      constructor
      · rintro ⟨v, middle, ran, others⟩
        obtain ⟨more, last', rest', same⟩ := (Run.run_bind_ok_iff _ _ _ _ _).1 others
        cases same
        obtain ⟨first, answered, rfl⟩ := (w.expand_word_iff nested v s middle).1 ran
        obtain ⟨answers, later, rfl⟩ := (ih more middle).1 rest'
        exact ⟨first :: answers, .word s middle last w rest first answers answered later, rfl⟩
      · rintro ⟨_, ran, rfl⟩
        cases ran with
        | word _ middle _ _ _ first answers answered later =>
            refine ⟨w.answered first, middle, (w.expand_word_iff nested _ s middle).2 ⟨first, answered, rfl⟩, ?_⟩
            have others := (ih (rest.zipWith Word.answered answers) middle).2 ⟨answers, later, rfl⟩
            exact (Run.run_bind_ok_iff _ _ _ _ _).2 ⟨_, last, others, rfl⟩

end Word

namespace Expansion

theorem expand_words_iff (nested : Nested σ) (words final : List Word) (s last : σ) (marked : ∀ w ∈ words, w.Marked) :
    ∃ reached, (applySteps nested [.home, .pattern] words).run.run s = (.ok reached, s) ∧
      withRegions reached = withRegions words ∧
      ((expandWords nested words).run.run s = (.ok final, last) ↔ ∃ answers,
        WordsAnswered nested.run s reached answers last ∧
        final = (reached.zipWith Word.answered answers).map (Word.expandVariables (nested.session last).bindings)) := by
  obtain ⟨reached, ran, rest, kept⟩ := before_regions nested words s marked
  have command : (applySteps nested [.command, .variable] reached).run.run s =
      (reached.mapM (Word.expandCommands nested) >>= fun values => applyStep nested .variable values).run.run s := rfl
  refine ⟨reached, ran, kept, ?_⟩
  rw [rest, command, Run.run_bind_ok_iff]
  constructor
  · rintro ⟨values, middle, filled, expanded⟩
    obtain ⟨answers, answered, rfl⟩ := (Word.expand_all_iff nested reached values s middle).1 filled
    cases expanded
    exact ⟨answers, answered, rfl⟩
  · rintro ⟨answers, answered, rfl⟩
    exact ⟨_, last, (Word.expand_all_iff nested reached _ s last).2 ⟨answers, answered, rfl⟩, rfl⟩

end Expansion

theorem Word.expand_answered (vars : Variables) (w : Word) (answers : List Text) (quoted : w.quote ≠ none) :
    ((w.answered answers).expandVariables vars).text =
      if w.quote = some .double then vars.expand (Piece.filled w.pieces answers) else Piece.filled w.pieces answers := by
  obtain ⟨text, quote, commands⟩ := w
  cases quote with
  | none => exact absurd rfl quoted
  | some q => cases q <;> rfl

theorem outputs_stay_unless_double (nested : Nested σ) (line : Text) (list : CommandList Word) (words final : List Word)
    (s last : σ) (parsed : CommandList.ofLine line = .ok list) (command : words ∈ list.commands)
    (ran : (Expansion.expandWords nested words).run.run s = (.ok final, last)) :
    ∃ reached answers, Expansion.withRegions reached = Expansion.withRegions words ∧
      WordsAnswered nested.run s reached answers last ∧
      final = (reached.zipWith Word.answered answers).map (Word.expandVariables (nested.session last).bindings) ∧
      ∀ w ∈ reached, w.commands ≠ [] → ∀ outputs vars,
        (w.quote ≠ some .double ∨ '$' ∉ Piece.filled w.pieces outputs →
          ((w.answered outputs).expandVariables vars).text = Piece.filled w.pieces outputs) ∧
        (w.quote = some .double →
          ((w.answered outputs).expandVariables vars).text = vars.expand (Piece.filled w.pieces outputs)) := by
  have marked := words_marked line list parsed words command
  obtain ⟨reached, _, kept, expands⟩ := Expansion.expand_words_iff nested words final s last marked
  obtain ⟨answers, answered, whole⟩ := expands.1 ran
  refine ⟨reached, answers, kept, answered, whole, fun w member some outputs vars => ?_⟩
  have inWords : w ∈ words := by
    have region : w ∈ Expansion.withRegions reached := List.mem_filter.2 ⟨member, by simpa using some⟩
    rw [kept] at region
    exact (List.mem_filter.1 region).1
  have quoted : w.quote ≠ none := fun unmarked => some (marked w inWords unmarked)
  rw [w.expand_answered vars outputs quoted]
  by_cases double : w.quote = Option.some .double
  · refine ⟨fun either => ?_, fun _ => if_pos double⟩
    have noSign := either.resolve_left (not_not_intro double)
    rw [if_pos double, vars.expand_no_reference _ noSign]
  · exact ⟨fun _ => if_neg double, fun isDouble => absurd isDouble double⟩

theorem outputs_stay_unless_double_backtick :
    let word : Word := ⟨"ax".toList, some .backtick, [⟨1, 2⟩]⟩
    let s : Session := .start Calculator.eval (.ofList [(['X'], ['1'])]) ['/'] ['/']
    let nested : Nested Session := ⟨id, fun _ => {}, fun _ => pure { output := some "$X\n".toList }⟩
    let final : List Word := [.bare "echo".toList, ⟨"a$X".toList, some .backtick, []⟩]
    CommandList.ofLine "echo a`x`".toList = .ok ⟨[⟨.simple [.bare "echo".toList, word], []⟩], false⟩ ∧
      (Expansion.expandWords nested [.bare "echo".toList, word]).run.run s = (.ok final, s) ∧
      ∃ reached answers, Expansion.withRegions reached = [word] ∧ WordsAnswered nested.run s reached answers s ∧
        ∀ outputs vars, ((word.answered outputs).expandVariables vars).text = Piece.filled word.pieces outputs := by
  intro word s nested final
  have parsed := CommandList.of_line_one "echo a`x`".toList (.simple [.bare "echo".toList, word]) (List.cons_ne_nil _ _) rfl
  have ran : (Expansion.expandWords nested [.bare "echo".toList, word]).run.run s = (.ok final, s) := rfl
  obtain ⟨reached, answers, kept, answered, _, each⟩ := outputs_stay_unless_double nested _ _ _ _ s s parsed
    (List.mem_singleton.2 rfl) ran
  have region : word ∈ Expansion.withRegions reached := kept ▸ List.mem_singleton.2 rfl
  have texts := each word (List.mem_filter.1 region).1 (List.cons_ne_nil _ _)
  exact ⟨parsed, ran, reached, answers, kept, answered, fun outputs vars => (texts outputs vars).1 (.inl (by decide))⟩

-- The line in the region puts out `$X`. In its place stands what `X` is bound to, for the word begins with a double quote.
theorem output_expanded_in_double :
    let line := "echo \"\"`echo '$X'`".toList
    let inner := "echo '$X'".toList
    let words : List Word := [.bare "echo".toList, ⟨inner, some .double, [⟨0, 9⟩]⟩]
    let w : World := { session := .start Calculator.eval (.ofList [(['X'], ['1'])]) ['/'] ['/'], files := {} }
    CommandList.ofLine line = .ok ⟨[⟨.simple words, []⟩], false⟩ ∧ ∀ host,
      (runLine host .capture inner).run.run w = (.ok { output := some "$X\n".toList }, w) ∧
      (expandCommand (runLine host) words).run.run w = (.ok ["echo".toList, ['1']], w) ∧
      (runLine host .capture line).run.run w = (.ok { output := some "1\n".toList }, w) := by
  intro line inner words w
  have parsed := CommandList.of_line_one line (.simple words) (List.cons_ne_nil _ _) rfl
  refine ⟨parsed, fun host => ?_⟩
  have shown : (runLine host .capture inner).run.run w = (.ok { output := some "$X\n".toList }, w) := by
    have parsedInner := CommandList.of_line_one inner (.simple [.bare "echo".toList, .quoted .single "$X".toList])
      (List.cons_ne_nil _ _) rfl
    have expanded := expand_list_simple (runLine host) [.bare "echo".toList, .quoted .single "$X".toList] _ w w rfl
    rw [run_line_eq, run_line_phases host _ .capture _ _ parsedInner (List.cons_ne_nil _ _),
      Run.run_bind_ok _ _ _ _ _ expanded]
    rfl
  have answered : WordsAnswered (runLine host .capture) w words [[], ["$X\n".toList]] w :=
    .word w w w _ _ [] _ (.done w) (.word w w w _ _ _ _ (.passed w w w inner [] _ _ _ shown rfl rfl (.done w)) (.done w))
  have expanded : (expandCommand (runLine host) words).run.run w = (.ok ["echo".toList, ['1']], w) := by
    have marked : ∀ v ∈ words, v.Marked := by simp [words, Word.Marked, Word.bare]
    obtain ⟨reached, first, _, expands⟩ := Expansion.expand_words_iff (LineRunner.captured (runLine host)) words _ w w marked
    obtain rfl : words = reached := Except.ok.inj (congrArg Prod.fst first)
    rw [expandCommand, Run.run_bind_ok _ _ w w _ (expands.2 ⟨_, answered, rfl⟩)]
    rfl
  refine ⟨shown, expanded, ?_⟩
  rw [run_line_eq, run_line_phases host _ .capture _ _ parsed (List.cons_ne_nil _ _),
    Run.run_bind_ok _ _ _ _ _ (expand_list_simple (runLine host) words _ w w expanded)]
  rfl

end CommandShell
