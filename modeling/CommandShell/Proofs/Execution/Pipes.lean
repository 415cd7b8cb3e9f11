import CommandShell.Proofs.Execution.Stages

set_option autoImplicit false

namespace CommandShell

theorem pieces_flatten (data : Bytes) : data.pieces.flatten = data := by
  fun_induction Bytes.pieces data with
  | case1 => rfl
  | case2 data nonempty ih => rw [List.flatten_cons, ih, List.take_append_drop]

def catStage : Stage Text := .simple ["cat".toList]

def Effect.throughCat (e : Effect) : Effect := { e with code := 0, writes := e.output.pieces }

theorem through_cat_output (e : Effect) : e.throughCat.output = e.output := pieces_flatten e.output

theorem through_cat_outcome (e : Effect) : e.throughCat.outcome = { e.outcome with code := 0 } := by
  rw [Effect.outcome, through_cat_output]
  rfl

section Stages

variable (host : Host) (nested : LineRunner)

theorem run_cat (data : Bytes) (w : World) :
    (runStage host nested (.input ⟨data⟩) .capture .capture catStage).run.run w =
      (.ok { writes := data.pieces }, w) := rfl

theorem run_stages_cat (data : Bytes) (next : Stage Text) (rest : List (Stage Text)) (w : World) :
    (runStages host nested .capture (.input ⟨data⟩) catStage (next :: rest)).run.run w =
      (runStages host nested .capture (.input ⟨data⟩) next rest).run.run w := by
  have passed : ({ writes := data.pieces } : Effect).output = data := pieces_flatten data
  rw [run_stages_more, run_cat]
  dsimp only
  rw [passed]
  cases (runStages host nested .capture (.input ⟨data⟩) next rest).run.run w with
  | mk result after =>
      cases result with
      | ok others => rfl
      | error failure => rfl

theorem run_stages_cat_inside (source : Source) (first : Stage Text) (front back : List (Stage Text)) (w : World) :
    (runStages host nested .capture source first (front ++ catStage :: back)).run.run w =
      ((runStages host nested .capture source first (front ++ back)).run.run w).map
        (Except.map (if back = [] then Effect.throughCat else id)) id := by
  rw [run_stages_append]
  cases back with
  | nil =>
      rw [List.append_nil]
      cases (runStages host nested .capture source first front).run.run w with
      | mk result after =>
          cases result with
          | error failure => rfl
          | ok effect =>
              simp only [runStages, run_cat]
              simp [Effect.throughCat, Except.map]
  | cons next rest =>
      rw [run_stages_append]
      cases (runStages host nested .capture source first front).run.run w with
      | mk result after =>
          cases result with
          | error failure => rfl
          | ok effect =>
              simp only [run_stages_cat]
              cases (runStages host nested .capture (.input ⟨effect.output⟩) next rest).run.run after with
              | mk result last =>
                  cases result with
                  | error failure => rfl
                  | ok others => rfl

theorem run_stages_cat_first (source : Source) (s : Stage Text) (back : List (Stage Text)) (w : World) :
    (runStages host nested .capture source s (catStage :: back)).run.run w =
      ((runStages host nested .capture source s back).run.run w).map
        (Except.map (if back = [] then Effect.throughCat else id)) id :=
  run_stages_cat_inside host nested source s [] back w

theorem run_pipeline_cat (first : Stage Text) (front back : List (Stage Text)) (w : World) :
    (runPipeline host nested .capture ⟨first, front ++ catStage :: back⟩).run.run w =
      ((runPipeline host nested .capture ⟨first, front ++ back⟩).run.run w).map
        (Except.map (if back = [] then fun o => { o with code := 0 } else id)) id := by
  rw [run_pipeline_stages, run_pipeline_stages, run_stages_cat_inside]
  cases (runStages host nested .capture (firstSource .capture) first (front ++ back)).run.run w with
  | mk result after =>
      cases result with
      | error failure => rfl
      | ok effect => by_cases atEnd : back = [] <;> simp [atEnd, Except.map, through_cat_outcome]

end Stages

section Pipelines

variable (host : Host) (nested : LineRunner)

-- How many of these pipelines are run: those up to the first that fails or leaves the session exiting.
def executed (sink : Sink) : World → List (Pipeline Text) → Nat
  | _, [] => 0
  | w, p :: rest =>
    match (runPipeline host nested sink p).run.run w with
    | (.ok _, after) => if after.session.exiting then 1 else 1 + executed sink after rest
    | (.error _, _) => 1

theorem executed_pos (sink : Sink) (w : World) (p : Pipeline Text) (rest : List (Pipeline Text)) :
    0 < executed host nested sink w (p :: rest) := by
  rw [executed]
  split
  · split <;> omega
  · exact Nat.one_pos

theorem run_pipelines_cat (done : Outcome) (before after : List (Pipeline Text)) (first : Stage Text)
    (front back : List (Stage Text)) (w : World) :
    (runPipelines host nested .capture done (before ++ ⟨first, front ++ catStage :: back⟩ :: after)).run.run w =
      ((runPipelines host nested .capture done (before ++ ⟨first, front ++ back⟩ :: after)).run.run w).map
        (Except.map
          (if back = [] ∧ executed host nested .capture w (before ++ ⟨first, front ++ back⟩ :: after) = before.length + 1
            then fun o => { o with code := 0 } else id)) id := by
  induction before generalizing done w with
  | nil =>
      rw [List.nil_append, List.nil_append, run_pipelines_more, run_pipelines_more, run_pipeline_cat, executed]
      cases (runPipeline host nested .capture ⟨first, front ++ back⟩).run.run w with
      | mk result middle =>
          cases result with
          | error failure => rfl
          | ok outcome =>
              by_cases atEnd : back = []
              · by_cases exiting : middle.session.exiting = true
                · simp [atEnd, exiting, Except.map, Outcome.followedBy]
                · cases after with
                  | nil =>
                      have nothingMore (o : Outcome) :
                          (runPipelines host nested .capture o []).run.run middle = (.ok o, middle) := rfl
                      simp [atEnd, exiting, Except.map, Outcome.followedBy, executed, nothingMore]
                  | cons q more =>
                      have notLast := Nat.ne_of_gt (executed_pos host nested .capture middle q more)
                      have code := run_pipelines_code host nested .capture (done.followedBy outcome) 0 q more
                      have same : done.followedBy { outcome with code := 0 } =
                          { done.followedBy outcome with code := 0 } := rfl
                      simp [atEnd, exiting, Except.map, notLast, same, code]
              · simp [atEnd]
  | cons p rest ih =>
      rw [List.cons_append, List.cons_append, run_pipelines_more, run_pipelines_more, executed]
      cases (runPipeline host nested .capture p).run.run w with
      | mk result middle =>
          cases result with
          | error failure => rfl
          | ok outcome =>
              by_cases exiting : middle.session.exiting = true
              · simp [exiting]
              · simp [exiting, ih, Nat.add_comm 1]

theorem cat_stage_passes (before after : List (Pipeline Text)) (first : Stage Text) (front back : List (Stage Text))
    (w : World) :
    (runPipelines host nested .capture {} (before ++ ⟨first, front ++ catStage :: back⟩ :: after)).run.run w =
      ((runPipelines host nested .capture {} (before ++ ⟨first, front ++ back⟩ :: after)).run.run w).map
        (Except.map
          (if back = [] ∧ executed host nested .capture w (before ++ ⟨first, front ++ back⟩ :: after) = before.length + 1
            then fun o => { o with code := 0 } else id)) id ∧
    ∀ (source : Source) (s : Stage Text),
      ((runStages host nested .capture source s [catStage]).run.run w).map (Except.map Effect.output) id =
        ((runStage host nested source .capture .capture s).run.run w).map (Except.map Effect.output) id := by
  refine ⟨run_pipelines_cat host nested {} before after first front back w, fun source s => ?_⟩
  rw [run_stages_cat_first, if_pos rfl, runStages]
  cases (runStage host nested source .capture .capture s).run.run w with
  | mk result last =>
      cases result with
      | error failure => rfl
      | ok effect => simp [Except.map, through_cat_output]

end Pipelines

end CommandShell
