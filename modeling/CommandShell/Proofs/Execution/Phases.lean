import CommandShell.Proofs.Execution.Nesting

set_option autoImplicit false

namespace CommandShell

def runExpanded (host : Host) (nested : LineRunner) (sink : Sink) (line : Text) (expanded : CommandList Text) :
    Run World Outcome := do
  if isUnknown (← get) expanded.pipelines then evaluateLine line
  else if expanded.background then return {}
  else runPipelines host nested sink {} expanded.pipelines

theorem run_line_phases (host : Host) (nested : LineRunner) (sink : Sink) (line : Text) (list : CommandList Word)
    (parsed : CommandList.ofLine line = .ok list) (nonempty : list.pipelines ≠ []) :
    runLineWith host nested sink line = expandList nested list >>= runExpanded host nested sink line := by
  have some : ¬ list.pipelines.isEmpty = true := by simpa using nonempty
  rw [runLineWith, parsed]
  simp only [if_neg some]
  rfl

theorem expand_list_simple (nested : LineRunner) (words : List Word) (values : List Text) (w last : World)
    (expanded : (expandCommand nested words).run.run w = (.ok values, last)) :
    (expandList nested ⟨[⟨.simple words, []⟩], false⟩).run.run w = (.ok ⟨[⟨.simple values, []⟩], false⟩, last) := by
  have steps : expandList nested ⟨[⟨.simple words, []⟩], false⟩ = expandCommand nested words >>= fun values =>
      pure ⟨[⟨.simple values, []⟩], false⟩ := by
    simp [expandList, CommandList.mapWordsM, Pipeline.mapWordsM, Stage.mapWordsM]
  rw [steps, Run.run_bind_ok _ _ w last values expanded]
  rfl

theorem run_expanded_unknown (host : Host) (nested : LineRunner) (sink : Sink) (line : Text)
    (expanded : CommandList Text) (w : World) (unknown : isUnknown w expanded.pipelines = true) :
    (runExpanded host nested sink line expanded).run.run w = (.ok (w.session.evaluate line), w) := by
  have started : (runExpanded host nested sink line expanded).run.run w =
      (if isUnknown w expanded.pipelines = true then evaluateLine line
        else if expanded.background then return {}
        else runPipelines host nested sink {} expanded.pipelines : Run World Outcome).run.run w := rfl
  rw [started, if_pos unknown]
  rfl

theorem is_unknown_simple (w : World) (words : List Text) (rest : List (Stage Text)) (more : List (Pipeline Text))
    (unresolved : ∀ name ∈ words.head?, Command.find w.files w.session name = none) :
    isUnknown w (⟨.simple words, rest⟩ :: more) = true := by
  cases words with
  | nil => rfl
  | cons name arguments => simp [isUnknown, unresolved name rfl]

theorem regions_run_first (host : Host) (sink : Sink) (line : Text) (list : CommandList Word) (w : World)
    (parsed : CommandList.ofLine line = .ok list) (nonempty : list.pipelines ≠ []) :
    (∀ nested : LineRunner, ∃ ended last, Substituted (nested .capture) w list.regions ended last ∧
      (∀ failure, ended = some failure → (runLineWith host nested sink line).run.run w = (.error failure, last)) ∧
      (ended = none → ∃ expanded, (expandList nested list).run.run w = (.ok expanded, last) ∧
        ∀ words rest more, expanded.pipelines = ⟨.simple words, rest⟩ :: more →
          (∀ name ∈ words.head?, Command.find last.files last.session name = none) →
          (runLineWith host nested sink line).run.run w = (.ok (last.session.evaluate line), last))) ∧
    runLine host sink line = runLineWith host (runLine host) sink line := by
  refine ⟨fun nested => ?_, run_line_eq host sink line⟩
  have phases := run_line_phases host nested sink line list parsed nonempty
  rcases expand_list_substitutes nested line list parsed w with
    ⟨expanded, last, passed, ran, _⟩ | ⟨failure, last, failed, ran⟩
  · refine ⟨none, last, passed, fun failure isFailure => (by cases isFailure), fun _ => ⟨expanded, ran, ?_⟩⟩
    intro words rest more first unresolved
    have unknown := is_unknown_simple last words rest more unresolved
    rw [← first] at unknown
    rw [phases, Run.run_bind_ok _ _ w last expanded ran]
    exact run_expanded_unknown host nested sink line expanded last unknown
  · refine ⟨some failure, last, failed, fun other same => ?_, fun noFailure => (by cases noFailure)⟩
    obtain rfl : failure = other := Option.some.inj same
    rw [phases, Run.run_bind, ran]

theorem regions_run_first_two : ∃ list, CommandList.ofLine "a `b` `c`".toList = .ok list ∧ list.pipelines ≠ [] ∧
    ∀ (host : Host) (sink : Sink) (w : World), ∃ ended last,
      Substituted (runLine host .capture) w ["b".toList, "c".toList] ended last ∧
      ∀ failure, ended = some failure → (runLine host sink "a `b` `c`".toList).run.run w = (.error failure, last) := by
  let words : List Word := [.bare ['a'], ⟨['b'], some .backtick, [⟨0, 1⟩]⟩, ⟨['c'], some .backtick, [⟨0, 1⟩]⟩]
  have parsed := CommandList.of_line_one "a `b` `c`".toList (.simple words) (List.cons_ne_nil _ _) rfl
  refine ⟨_, parsed, List.cons_ne_nil _ _, fun host sink w => ?_⟩
  obtain ⟨phases, itself⟩ := regions_run_first host sink _ _ w parsed (List.cons_ne_nil _ _)
  obtain ⟨ended, last, ran, failed, _⟩ := phases (runLine host)
  rw [itself]
  exact ⟨ended, last, ran, failed⟩

end CommandShell
