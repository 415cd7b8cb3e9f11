import CommandShell.Proofs.Execution.Arithmetic
import CommandShell.Proofs.Expansion.Outputs
import Mathlib.Data.List.Forall2

set_option autoImplicit false

namespace CommandShell

variable {σ : Type}

namespace Text

def withHome (text home : Text) : Text := text.flatMap fun c => if c = '~' then home else [c]

def HasSign (text : Text) : Prop := ∃ c ∈ text, c ∈ ['*', '?', '[', ']']

end Text

-- `Grouped home names vars w group`: what the word `w` comes to, in a directory with the entries `names`.
inductive Grouped (home : Text) (names : List Text) (vars : Variables) : Word → List Word → Prop where
  | quoted (w v : Word) (marked : w.quote ≠ none) (mark : v.quote = w.quote) (noRegion : v.commands = [])
      (same : w.quote = some .single → w.commands = [] → v = w) : Grouped home names vars w [v]
  | plain (w : Word) (unmarked : w.quote = none)
      (noPattern : ¬ (w.text.withHome home).HasSign ∨ Pattern.parse? (w.text.withHome home) = none) :
      Grouped home names vars w [.bare (vars.expand (w.text.withHome home))]
  | pattern (w : Word) (p : Pattern) (unmarked : w.quote = none) (sign : (w.text.withHome home).HasSign)
      (parsed : Pattern.parse? (w.text.withHome home) = some p) :
      Grouped home names vars w ((names.filter p.matchesName).map fun name => .bare (vars.expand name))

theorem forall_groups {α β γ : Type} (R : β → γ → Prop) (f : α → List β) (items : List α) (values : List γ)
    (related : List.Forall₂ R (items.flatMap f) values) :
    ∃ groups, values = groups.flatten ∧ List.Forall₂ (fun a group => List.Forall₂ R (f a) group) items groups := by
  induction items generalizing values with
  | nil =>
      obtain rfl := List.forall₂_nil_left_iff.1 related
      exact ⟨[], rfl, .nil⟩
  | cons a rest ih =>
      have first := List.forall₂_take (f a).length related
      have others := List.forall₂_drop (f a).length related
      rw [List.flatMap_cons, List.take_left] at first
      rw [List.flatMap_cons, List.drop_left] at others
      obtain ⟨groups, whole, each⟩ := ih _ others
      refine ⟨values.take (f a).length :: groups, ?_, .cons first each⟩
      rw [List.flatten_cons, ← whole, List.take_append_drop]

namespace Word

theorem expand_home_bare (home : Text) (w : Word) (unmarked : w.quote = none) (none : w.commands = []) :
    w.expandHome home = .bare (w.text.withHome home) := by
  obtain ⟨text, quote, commands⟩ := w
  subst unmarked none
  simp [expandHome, isQuoted, bare, Text.withHome]

theorem has_pattern_bare (text : Text) : (bare text).hasPattern = true ↔ text.HasSign := by
  simp [hasPattern, isQuoted, bare, Text.HasSign, or_assoc]

theorem expand_variables_keeps (vars : Variables) (w : Word) :
    (w.expandVariables vars).quote = w.quote ∧ (w.expandVariables vars).commands = w.commands := by
  obtain ⟨text, quote, commands⟩ := w
  cases quote with
  | none => exact ⟨rfl, rfl⟩
  | some q => cases q <;> exact ⟨rfl, rfl⟩

def Becomes (vars : Variables) (w v : Word) : Prop :=
  ∃ outputs, v = (w.answered outputs).expandVariables vars ∧ (w.commands = [] → v = w.expandVariables vars)

theorem bare_becomes (vars : Variables) (text : Text) (v : Word) (becomes : (bare text).Becomes vars v) :
    .bare (vars.expand text) = v := by
  obtain ⟨outputs, _, same⟩ := becomes
  exact (same rfl).symm

theorem single_becomes (vars : Variables) (text : Text) (group : List Word)
    (each : List.Forall₂ (Becomes vars) [bare text] group) : group = [.bare (vars.expand text)] := by
  cases each with
  | cons first others =>
      cases others
      rw [bare_becomes vars text _ first]

theorem names_become (vars : Variables) (names : List Text) (group : List Word)
    (each : List.Forall₂ (Becomes vars) (names.map bare) group) :
    group = names.map fun name => .bare (vars.expand name) := by
  have expanded : List.Forall₂ (fun name v => Word.bare (vars.expand name) = v) names group :=
    (List.forall₂_map_left_iff.1 each).imp fun name v becomes => bare_becomes vars name v becomes
  have same := List.forall₂_map_left_iff.2 expanded
  rw [List.forall₂_eq_eq_eq] at same
  exact same.symm

theorem grouped (home : Text) (names : List Text) (vars : Variables) (w : Word) (marked : w.Marked)
    (group : List Word) (each : List.Forall₂ (Becomes vars) ((w.expandHome home).expandPattern names) group) :
    Grouped home names vars w group := by
  by_cases unmarked : w.quote = none
  · rw [w.expand_home_bare home unmarked (marked unmarked), expandPattern] at each
    by_cases sign : (bare (w.text.withHome home)).hasPattern = true
    · rw [if_pos sign] at each
      cases parsed : Pattern.parse? (w.text.withHome home) with
      | none =>
          rw [bare, parsed] at each
          rw [single_becomes vars _ group each]
          exact .plain w unmarked (.inr parsed)
      | some p =>
          rw [bare, parsed] at each
          rw [names_become vars _ group each]
          exact .pattern w p unmarked ((has_pattern_bare _).1 sign) parsed
    · rw [if_neg sign] at each
      rw [single_becomes vars _ group each]
      exact .plain w unmarked (.inl fun hasSign => sign ((has_pattern_bare _).2 hasSign))
  · rw [w.expand_home_quoted home unmarked, w.expand_pattern_quoted names unmarked] at each
    cases each with
    | cons first others =>
        cases others
        obtain ⟨outputs, rfl, same⟩ := first
        obtain ⟨mark, commands⟩ := expand_variables_keeps vars (w.answered outputs)
        refine .quoted w _ unmarked mark commands fun single none => ?_
        rw [same none, expandVariables, single]

end Word

theorem words_become (nested : Nested σ) (vars : Variables) (s last : σ) (words : List Word)
    (answers : List (List Text)) (ran : WordsAnswered nested.run s words answers last) :
    List.Forall₂ (Word.Becomes vars) words ((words.zipWith Word.answered answers).map (Word.expandVariables vars)) := by
  induction ran with
  | done s => exact .nil
  | word s middle last w rest first answers ran others ih =>
      refine .cons ⟨first, rfl, fun none => ?_⟩ ih
      rw [w.lines_of_no_command none] at ran
      cases ran
      rw [w.answered_no_region none]

theorem words_in_groups (nested : Nested σ) (line : Text) (list : CommandList Word) (words final : List Word)
    (s last : σ) (parsed : CommandList.ofLine line = .ok list) (command : words ∈ list.commands)
    (ran : (Expansion.expandWords nested words).run.run s = (.ok final, last)) :
    (∃ groups, final = groups.flatten ∧ List.Forall₂
      (Grouped (nested.session s).home (((nested.files s).list (nested.session s).directory).toOption.getD [])
        (nested.session last).bindings) words groups) ∧
    ∀ (runner : LineRunner) (w : World), (expandCommand runner words).run.run w =
      ((Expansion.expandWords runner.captured words).run.run w).map (Except.map (List.map Word.text)) id := by
  have marked := words_marked line list parsed words command
  refine ⟨?_, fun runner w => ?_⟩
  · obtain ⟨reached, first, _, expands⟩ := Expansion.expand_words_iff nested words final s last marked
    obtain ⟨answers, answered, rfl⟩ := expands.1 ran
    have become := words_become nested (nested.session last).bindings s last reached answers answered
    obtain rfl := Except.ok.inj (congrArg Prod.fst ((Expansion.run_home_pattern nested words s).symm.trans first))
    obtain ⟨groups, whole, each⟩ := forall_groups _ _ _ _ become
    have paired := (List.forall₂_and_left _ _).2 ⟨marked, List.forall₂_map_left_iff.1 each⟩
    exact ⟨groups, whole, paired.imp fun w group both => w.grouped _ _ _ both.1 group both.2⟩
  · rw [expandCommand, Run.run_bind_pure]

-- An unquoted `~`, a quoted one, and a pattern, in a directory that is not listed in the order of names.
theorem words_in_groups_three :
    let words : List Word := [.bare "~".toList, .quoted .single "~".toList, .bare "?".toList]
    let w : World := { session := .start Calculator.eval {} ['/'] ['/'],
                       files := { entries := [(["b".toList], .directory), (["a".toList], .directory)] } }
    let final : List Word := [.bare "/".toList, .quoted .single "~".toList, .bare "b".toList, .bare "a".toList]
    CommandList.ofLine "~ '~' ?".toList = .ok ⟨[⟨.simple words, []⟩], false⟩ ∧ ∀ runner : LineRunner,
      (Expansion.expandWords runner.captured words).run.run w = (.ok final, w) ∧
      (∃ groups, final = groups.flatten ∧
        List.Forall₂ (Grouped "/".toList ["b".toList, "a".toList] w.session.bindings) words groups) ∧
      (expandCommand runner words).run.run w = (.ok ["/".toList, "~".toList, "b".toList, "a".toList], w) := by
  intro words w final
  have parsed := CommandList.of_line_one "~ '~' ?".toList (.simple words) (List.cons_ne_nil _ _) rfl
  refine ⟨parsed, fun runner => ?_⟩
  have ran : (Expansion.expandWords runner.captured words).run.run w = (.ok final, w) := by
    rw [Expansion.run_after_pattern]
    rfl
  obtain ⟨groups, contents⟩ := words_in_groups runner.captured _ _ words final w w parsed (List.mem_singleton.2 rfl) ran
  refine ⟨ran, groups, ?_⟩
  rw [contents runner w, ran]
  rfl

end CommandShell
