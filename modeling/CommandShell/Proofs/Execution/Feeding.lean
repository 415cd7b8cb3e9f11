import CommandShell.Proofs.Execution.Calls
import CommandShell.Proofs.Execution.Pipes
import CommandShell.Proofs.Syntax.Composition

set_option autoImplicit false

namespace CommandShell

theorem input_of_bytes (w : World) (data : Bytes) : (w.input (.input ⟨data⟩)).flatten = data := pieces_flatten data

theorem run_stage_subshell (host : Host) (nested : LineRunner) (source : Source) (stdout stderr : Sink) (body : Text) :
    runStage host nested source stdout stderr (.subshell body) = runSubshell nested body stdout stderr := rfl

theorem expand_pipeline_joined (nested : LineRunner) (p q : Pipeline Word) :
    (p.joined q).mapWordsM (expandCommand nested) = p.mapWordsM (expandCommand nested) >>= fun first =>
      q.mapWordsM (expandCommand nested) >>= fun second => pure (first.joined second) := by
  simp [Pipeline.joined, Pipeline.mapWordsM, Pipeline.stages, List.mapM_append]

theorem expand_list_one (nested : LineRunner) (p : Pipeline Word) (background : Bool) :
    expandList nested ⟨[p], background⟩ = p.mapWordsM (expandCommand nested) >>= fun expanded =>
      pure ⟨[expanded], background⟩ := by
  simp [expandList, CommandList.mapWordsM]

theorem is_unknown_joined (w : World) (p q : Pipeline Text) (more more' : List (Pipeline Text)) :
    isUnknown w (p.joined q :: more) = isUnknown w (p :: more') := by
  obtain ⟨first, rest⟩ := p
  cases first with
  | simple words => cases words <;> rfl
  | subshell body => rfl

theorem run_line_pipeline (host : Host) (line : Text) (p : Pipeline Word) (p' : Pipeline Text) (w middle : World)
    (parsed : CommandList.ofLine line = .ok ⟨[p], false⟩)
    (expanded : (p.mapWordsM (expandCommand (runLine host))).run.run w = (.ok p', middle))
    (known : isUnknown middle [p'] = false) : (runLine host .capture line).run.run w =
      ((runPipeline host (runLine host) .capture p').run.run middle).map (Except.map Outcome.withoutEmpty) id := by
  have list : (expandList (runLine host) ⟨[p], false⟩).run.run w = (.ok ⟨[p'], false⟩, middle) := by
    rw [expand_list_one, Run.run_bind_ok _ _ w middle p' expanded]
    rfl
  rw [run_line_runs_as host .capture line w middle _ ⟨⟨_, parsed, List.cons_ne_nil _ _, list⟩, known, rfl⟩,
    run_pipelines_one, funext Outcome.followed_by_first]

theorem run_line_cat (host : Host) (w : World) : (runLine host .capture "cat".toList).run.run w = (.ok {}, w) := by
  have parsed := CommandList.of_line_one "cat".toList (.simple [.bare "cat".toList]) (List.cons_ne_nil _ _) rfl
  have nothing : Bytes.pieces [] = [] := by rw [Bytes.pieces, dif_pos rfl]
  have silent := run_cat host (runLine host) [] w
  rw [nothing] at silent
  rw [run_line_pipeline host _ _ ⟨catStage, []⟩ w w parsed rfl rfl, run_pipeline_stages]
  change ((runStage host (runLine host) (.input ⟨[]⟩) .capture .capture catStage).run.run w |>.map _ id).map _ id = _
  rw [silent]
  rfl

section Piped

variable (host : Host) (line : Text) (tokens : List Token) (p : Pipeline Word) (p' : Pipeline Text) (w middle : World)
  (scanned : scan line = .ok tokens) (parsed : CommandList.ofLine line = .ok ⟨[p], false⟩)
  (goesOn : tokens.getLast? ≠ some .semicolon)
  (expanded : (p.mapWordsM (expandCommand (runLine host))).run.run w = (.ok p', middle))
  (known : isUnknown middle [p'] = false)

include scanned parsed goesOn expanded known

theorem run_line_piped (more : Text) (q : Pipeline Word) (q' : Pipeline Text)
    (listed : CommandList.ofLine more = .ok ⟨[q], false⟩)
    (same : (q.mapWordsM (expandCommand (runLine host))).run.run middle = (.ok q', middle)) :
    (runLine host .capture (line ++ ' ' :: '|' :: more)).run.run w =
      ((runPipeline host (runLine host) .capture (p'.joined q')).run.run middle).map
        (Except.map Outcome.withoutEmpty) id := by
  have spaced : scan (line ++ [' ']) = .ok tokens := by
    rw [scan_separated line [] ' ' tokens scanned (.inl rfl)]
    exact congrArg Except.ok (by simp [Token.separator, Token.operator?])
  have spacedList : CommandList.ofLine (line ++ [' ']) = .ok ⟨[] ++ [p], false⟩ := by
    rw [List.nil_append, ← parsed, CommandList.ofLine, CommandList.ofLine, spaced, scanned]
  have some : scan more ≠ .ok [] := fun none => by
    rw [CommandList.of_line_blank more none] at listed
    cases listed
  have joined : CommandList.ofLine (line ++ ' ' :: '|' :: more) = .ok ⟨[p.joined q], false⟩ := by
    have piped := CommandList.of_line_piped (line ++ [' ']) more tokens [] p spaced spacedList goesOn some
    rw [listed, List.append_assoc] at piped
    exact piped
  refine run_line_pipeline host _ (p.joined q) (p'.joined q') w middle joined ?_ ?_
  · rw [expand_pipeline_joined, Run.run_bind_ok _ _ w middle p' expanded, Run.run_bind_ok _ _ middle middle q' same]
    rfl
  · rw [is_unknown_joined middle p' q' [] [], known]

theorem run_line_piped_cat : (runLine host .capture (line ++ " | cat".toList)).run.run w =
    ((runLine host .capture line).run.run w).map (Except.map fun o => { o with code := 0 }) id := by
  have listed := CommandList.of_line_one " cat".toList (.simple [.bare "cat".toList]) (List.cons_ne_nil _ _) rfl
  have piped := run_line_piped host line tokens p p' w middle scanned parsed goesOn expanded known " cat".toList _
    ⟨catStage, []⟩ listed rfl
  have added : p'.joined ⟨catStage, []⟩ = ⟨p'.first, p'.rest ++ catStage :: []⟩ := rfl
  refine piped.trans ?_
  rw [run_line_pipeline host line p p' w middle parsed expanded known, added, run_pipeline_cat, List.append_nil]
  cases (runPipeline host (runLine host) .capture p').run.run middle with
  | mk result after =>
      cases result with
      | error failure => rfl
      | ok o => rfl

theorem run_line_piped_subshell_cat : (runLine host .capture (line ++ " | (cat)".toList)).run.run w =
    ((runLine host .capture line).run.run w).map (Except.map fun o => { o with code := 0, output := none }) id := by
  have listed := CommandList.of_line_one " (cat)".toList (.subshell "cat".toList) trivial rfl
  have piped := run_line_piped host line tokens p p' w middle scanned parsed goesOn expanded known " (cat)".toList _
    ⟨.subshell "cat".toList, []⟩ listed rfl
  have added : p'.joined ⟨.subshell "cat".toList, []⟩ = ⟨p'.first, p'.rest ++ .subshell "cat".toList :: []⟩ := rfl
  refine piped.trans ?_
  rw [run_line_pipeline host line p p' w middle parsed expanded known, added, run_pipeline_stages, run_pipeline_stages,
    run_stages_append]
  cases (runStages host (runLine host) .capture (firstSource .capture) p'.first p'.rest).run.run middle with
  | mk result after =>
      cases result with
      | error failure => rfl
      | ok effect =>
          have silent : (after.withExiting after.session.exiting).deliver .capture .capture ({} : Outcome).effect =
              ({ writes := [[]] }, after) := rfl
          simp only [runStages, run_stage_subshell, run_subshell, run_line_cat, silent]
          simp [Except.map, Effect.outcome, Effect.output]
          rfl

end Piped

theorem subshell_stage_reads_nothing (host : Host) :
    (∀ nested source first front next back w,
      (runStages host nested .capture source first (front ++ next :: back)).run.run w =
        match (runStages host nested .capture source first front).run.run w with
        | (.ok effect, after) => ((runStages host nested .capture (.input ⟨effect.output⟩) next back).run.run after).map
            (Except.map fun others => { others with errors := effect.errors ++ others.errors }) id
        | (.error failure, after) => (.error failure, after)) ∧
    (∀ (w : World) data, (w.input (.input ⟨data⟩)).flatten = data) ∧
    (∀ nested source body, runStage host nested source .capture .capture (.subshell body) =
      runStage host nested (.input {}) .capture .capture (.subshell body)) ∧
    ∀ line tokens p w middle p', scan line = .ok tokens → CommandList.ofLine line = .ok ⟨[p], false⟩ →
      tokens.getLast? ≠ some .semicolon →
      (expandList (runLine host) ⟨[p], false⟩).run.run w = (.ok ⟨[p'], false⟩, middle) → isUnknown middle [p'] = false →
      (runLine host .capture (line ++ " | (cat)".toList)).run.run w =
          ((runLine host .capture line).run.run w).map (Except.map fun o => { o with code := 0, output := none }) id ∧
        (runLine host .capture (line ++ " | cat".toList)).run.run w =
          ((runLine host .capture line).run.run w).map (Except.map fun o => { o with code := 0 }) id := by
  refine ⟨fun nested => run_stages_append host nested, input_of_bytes, fun nested source body => rfl, ?_⟩
  intro line tokens p w middle p' scanned parsed goesOn listed known
  have expanded : (p.mapWordsM (expandCommand (runLine host))).run.run w = (.ok p', middle) := by
    rw [expand_list_one, Run.run_bind_ok_iff] at listed
    obtain ⟨q, last, ran, same⟩ := listed
    cases same
    exact ran
  exact ⟨run_line_piped_subshell_cat host line tokens p p' w middle scanned parsed goesOn expanded known,
    run_line_piped_cat host line tokens p p' w middle scanned parsed goesOn expanded known⟩

theorem subshell_stage_reads_nothing_echo : scan "echo a".toList = .ok [.word (.bare "echo".toList), .word (.bare ['a'])] ∧
    CommandList.ofLine "echo a".toList = .ok ⟨[⟨.simple [.bare "echo".toList, .bare ['a']], []⟩], false⟩ ∧
    ∀ host w, (runLine host .capture "echo a | (cat)".toList).run.run w =
        ((runLine host .capture "echo a".toList).run.run w).map
          (Except.map fun o => { o with code := 0, output := none }) id ∧
      (runLine host .capture "echo a | cat".toList).run.run w =
        ((runLine host .capture "echo a".toList).run.run w).map (Except.map fun o => { o with code := 0 }) id := by
  have parsed := CommandList.of_line_one "echo a".toList (.simple [.bare "echo".toList, .bare ['a']])
    (List.cons_ne_nil _ _) rfl
  refine ⟨rfl, parsed, fun host w => ?_⟩
  obtain ⟨_, _, _, piped⟩ := subshell_stage_reads_nothing host
  exact piped "echo a".toList _ _ w w _ rfl parsed (by decide)
    (expand_list_simple (runLine host) [.bare "echo".toList, .bare ['a']] _ w w rfl) rfl

theorem subshell_loses_input :
    let w : World := { session := .start Calculator.eval {} ['/'] ['/'], files := {} }
    CommandList.ofLine "echo a".toList = .ok ⟨[⟨.simple [.bare "echo".toList, .bare ['a']], []⟩], false⟩ ∧
      Command.find w.files w.session "echo".toList = some (.builtin .echo) ∧ ∀ host,
        (runLine host .capture "echo a".toList).run.run w = (.ok { output := some "a\n".toList }, w) ∧
        (runLine host .capture "echo a | (cat)".toList).run.run w = (.ok {}, w) ∧
        (runLine host .capture "echo a | cat".toList).run.run w = (.ok { output := some "a\n".toList }, w) := by
  intro w
  have parsed := CommandList.of_line_one "echo a".toList (.simple [.bare "echo".toList, .bare ['a']])
    (List.cons_ne_nil _ _) rfl
  refine ⟨parsed, rfl, fun host => ?_⟩
  have shown : (runLine host .capture "echo a".toList).run.run w = (.ok { output := some "a\n".toList }, w) := by
    rw [run_line_pipeline host _ _ ⟨.simple ["echo".toList, ['a']], []⟩ w w parsed rfl rfl]
    rfl
  have lost := run_line_piped_subshell_cat host "echo a".toList _ _ _ w w rfl parsed (by decide) rfl rfl
  have passed := run_line_piped_cat host "echo a".toList _ _ _ w w rfl parsed (by decide) rfl rfl
  rw [shown] at lost passed
  exact ⟨shown, lost, passed⟩

end CommandShell
