import CommandShell.Proofs.Execution.Nesting

set_option autoImplicit false

namespace CommandShell

variable {σ α β : Type}

-- In the changed state `r` does what `r'` does in the state itself, and it leaves the state that `r'` does, changed.
def Run.Follows (change : σ → σ) (r r' : Run σ α) : Prop :=
  ∀ state, r.run.run (change state) = (r'.run.run state).map id change

namespace Run.Follows

variable (change : σ → σ)

theorem value (v : α) : Follows change (pure v) (pure v) := fun _ => rfl

theorem failure (f : Failure) : Follows change (throw f : Run σ α) (throw f) := fun _ => rfl

theorem seq (first first' : Run σ α) (next next' : α → Run σ β) (front : Follows change first first')
    (back : ∀ v, Follows change (next v) (next' v)) : Follows change (first >>= next) (first' >>= next') := by
  intro state
  rw [Run.run_bind, Run.run_bind, front state]
  cases first'.run.run state with
  | mk result middle =>
      cases result with
      | error failure => rfl
      | ok v => exact back v middle

theorem read (f f' : σ → Run σ α) (each : ∀ state, Follows change (f (change state)) (f' state)) :
    Follows change (get >>= f) (get >>= f') := fun state => each state state

theorem all (f f' : α → Run σ β) (items : List α) (each : ∀ a, Follows change (f a) (f' a)) :
    Follows change (items.mapM f) (items.mapM f') := by
  induction items with
  | nil => exact value change []
  | cons a rest ih =>
      rw [List.mapM_cons, List.mapM_cons]
      exact seq change _ _ _ _ (each a) fun b => seq change _ _ _ _ ih fun values => value change _

end Run.Follows

-- A change of the world that leaves its files, and its session but for the mark of an exiting one.
structure World.Unseen (change : World → World) : Prop where
  session : ∀ w, ∃ exiting, (change w).session = { w.session with exiting }
  files : ∀ w, (change w).files = w.files

section Expansion

variable (change : World → World) (unseen : World.Unseen change) (nested nested' : LineRunner)
  (follows : ∀ inner, Run.Follows change (nested .capture inner) (nested' .capture inner))

include follows

theorem expand_piece_follows (piece : Piece) :
    Run.Follows change (Word.expandPiece nested.captured piece) (Word.expandPiece nested'.captured piece) := by
  cases piece with
  | plain text => exact .value change text
  | command line =>
      refine .seq change _ _ _ _ (follows line) fun outcome => ?_
      cases outcome.substitution line with
      | ok text => exact .value change text
      | error failure => exact .failure change failure

theorem expand_commands_follows (w : Word) :
    Run.Follows change (w.expandCommands nested.captured) (w.expandCommands nested'.captured) := by
  rw [Word.expandCommands, Word.expandCommands]
  by_cases none : w.commands.isEmpty = true
  · rw [if_pos none, if_pos none]
    exact .value change w
  · rw [if_neg none, if_neg none]
    exact .seq change _ _ _ _ (.all change _ _ _ (expand_piece_follows change nested nested' follows)) fun texts =>
      .value change _

include unseen

theorem apply_step_follows (step : Expansion.Step) (words : List Word) : Run.Follows change
    (Expansion.applyStep nested.captured step words) (Expansion.applyStep nested'.captured step words) := by
  refine .read change _ _ fun w => ?_
  obtain ⟨exiting, session⟩ := unseen.session w
  have directory : (change w).session.directory = w.session.directory := by
    rw [session]
    rfl
  cases step with
  | home =>
      simp only [session]
      exact .value change _
  | pattern =>
      simp only [directory, unseen.files w]
      exact .value change _
  | command => exact .all change _ _ _ (expand_commands_follows change nested nested' follows)
  | «variable» =>
      simp only [session]
      exact .value change _

theorem apply_steps_follows (steps : List Expansion.Step) (words : List Word) : Run.Follows change
    (Expansion.applySteps nested.captured steps words) (Expansion.applySteps nested'.captured steps words) := by
  induction steps generalizing words with
  | nil => exact .value change words
  | cons step rest ih =>
      rw [Expansion.applySteps, Expansion.applySteps, List.foldlM_cons, List.foldlM_cons]
      exact .seq change _ _ _ _ (apply_step_follows change unseen nested nested' follows step words) ih

theorem expand_stage_follows (s : Stage Word) : Run.Follows change (s.mapWordsM (expandCommand nested))
    (s.mapWordsM (expandCommand nested')) := by
  have command (words : List Word) : Run.Follows change (expandCommand nested words) (expandCommand nested' words) :=
    .seq change _ _ _ _ (apply_steps_follows change unseen nested nested' follows Expansion.steps words) fun _ =>
      .value change _
  cases s with
  | simple words =>
      rw [Stage.mapWordsM, Stage.mapWordsM, map_eq_pure_bind, map_eq_pure_bind]
      exact .seq change _ _ _ _ (command words) fun _ => .value change _
  | subshell body => exact .value change _

theorem expand_list_follows (list : CommandList Word) :
    Run.Follows change (expandList nested list) (expandList nested' list) := by
  have stage := expand_stage_follows change unseen nested nested' follows
  have pipeline (p : Pipeline Word) : Run.Follows change (p.mapWordsM (expandCommand nested))
      (p.mapWordsM (expandCommand nested')) :=
    .seq change _ _ _ _ (stage p.first) fun first => .seq change _ _ _ _ (.all change _ _ _ stage) fun rest =>
      .value change _
  exact .seq change _ _ _ _ (.all change _ _ _ pipeline) fun pipelines => .value change _

end Expansion

end CommandShell
