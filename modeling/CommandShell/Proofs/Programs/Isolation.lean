import CommandShell.Programs.PosixShell.Run

set_option autoImplicit false

namespace CommandShell.PosixShell

section Keeping

variable {α β γ : Type}

def Keeps (view : Own → γ) (m : Shell α) : Prop := ∀ s : State, view (m.run.run s).2.own = view s.own

theorem keeps_pure (view : Own → γ) (a : α) : Keeps view (pure a : Shell α) := fun _ => rfl

theorem keeps_throw (view : Own → γ) (stop : Stop) : Keeps view (throw stop : Shell α) := fun _ => rfl

theorem keeps_bind (view : Own → γ) (m : Shell α) (f : α → Shell β) (first : Keeps view m)
    (next : ∀ a, Keeps view (f a)) : Keeps view (m >>= f) := by
  intro s
  have before := first s
  change view (Id.run ((m.run.run s) >>= fun (a, t) => ExceptT.bindCont f a t)).2.own = view s.own
  cases done : m.run.run s with
  | mk result after =>
      rw [done] at before
      cases result with
      | error stop => exact before
      | ok a => exact (next a after).trans before

theorem keeps_ite (view : Own → γ) (c : Prop) [Decidable c] (m n : Shell α) (yes : Keeps view m) (no : Keeps view n) :
    Keeps view (if c then m else n) := by
  by_cases holds : c
  · rw [if_pos holds]
    exact yes
  · rw [if_neg holds]
    exact no

theorem keeps_lift (view : Own → γ) (m : StateM State α) (same : ∀ s, view (m.run s).2.own = view s.own) :
    Keeps view (liftM m : Shell α) := same

theorem keeps_get (view : Own → γ) (f : State → Shell α)
    (next : ∀ s, view ((f s).run.run s).2.own = view s.own) : Keeps view (get >>= f) := next

theorem keeps_modify_own (view : Own → γ) (f : Own → Own) (same : ∀ o, view (f o) = view o) :
    Keeps view (Shell.modifyOwn f) := fun s => same s.own

theorem keeps_own (view : Own → γ) (f : Own → Shell α) (next : ∀ o, Keeps view (f o)) :
    Keeps view (Shell.own >>= f) := by
  intro s
  exact next s.own s

end Keeping

open Shell

variable {γ : Type} (view : Own → γ)

theorem write_keeps (fd : Nat) (data : Bytes) : Keeps view (write fd data) := by
  refine keeps_bind view _ _ (keeps_own view _ fun o => keeps_pure view _) fun number? => ?_
  cases number? with
  | none => exact keeps_pure view false
  | some number =>
      refine keeps_get view _ fun s => ?_
      cases s.shared.system.write? number data with
      | none => rfl
      | some system => rfl

theorem report_death_keeps (death : Death) : Keeps view (reportDeath death) := by
  rw [reportDeath]
  cases death.signal with
  | none => exact keeps_pure view ()
  | some signal =>
      exact keeps_ite view _ _ _ (keeps_bind view _ _ (write_keeps view _ _) fun _ => keeps_pure view ())
        (keeps_pure view ())

-- A shell without its jobs, the signals that have come to it and where it has found commands.
def Own.lasting (o : Own) : Own := { o with jobs := [], jobOrder := [], arrived := [], found := [] }

theorem receive_keeps (signal : Nat) : Keeps Own.lasting (receive signal) := by
  refine keeps_own Own.lasting _ fun o => ?_
  cases o.traps.lookup signal with
  | none => exact keeps_ite _ _ _ _ (keeps_throw _ _) (keeps_pure _ _)
  | some action =>
      have arrives : Keeps Own.lasting (if action.isEmpty then pure () else modifyOwn fun o =>
          { o with arrived := (o.arrived.filter (· ≠ signal) ++ [signal]).mergeSort (· ≤ ·) }) :=
        keeps_ite _ _ _ _ (keeps_pure _ _) (keeps_modify_own _ _ fun o => rfl)
      exact keeps_ite _ _ _ _ (keeps_bind _ _ _ (keeps_throw _ _) fun _ => arrives) arrives

theorem receive_all_keeps (signals : List Nat) : Keeps Own.lasting (receiveAll signals) := by
  induction signals with
  | nil => exact keeps_pure _ _
  | cons signal rest ih => exact keeps_bind _ _ _ (receive_keeps signal) fun _ => ih

theorem receive_sent_keeps : Keeps Own.lasting receiveSent := by
  refine keeps_get _ _ fun s => ?_
  by_cases nothing : (s.shared.signals.partition (·.1 = s.own.process)).1.isEmpty = true
  · simp only [nothing]
    rfl
  · simp only [nothing]
    exact receive_all_keeps _ { s with shared := _ }

theorem new_process_keeps : Keeps view newProcess := fun _ => rfl

theorem take_place_keeps : Keeps Own.lasting takePlace := fun _ => rfl

variable (r : Runner)

-- A job runs on a state of its own, and this one comes back behind it.
theorem run_jobs_own (rounds : Nat) (s : State) : ((r.runJobs rounds).run s).2.own = s.own := by
  induction rounds generalizing s with
  | zero => rfl
  | succ rounds ih =>
      change ((get >>= fun s : State => _ : StateM State Unit).run s).2.own = s.own
      cases waiting : s.shared.waiting with
      | nil =>
          simp only [StateT.run_bind, StateT.run_get, pure_bind, waiting]
          rfl
      | cons job rest =>
          simp only [StateT.run_bind, StateT.run_get, pure_bind, waiting]
          exact (ih _).trans rfl

theorem catch_up_keeps : Keeps Own.lasting r.catchUp := by
  refine keeps_bind _ _ _ (keeps_lift _ _ fun s => ?_) fun _ => receive_sent_keeps
  exact congrArg Own.lasting (run_jobs_own r _ s)

-- A subshell may do to itself what it likes: the shell that started it goes on as it was.
theorem fork_keeps (body : Shell Unit) : Keeps Own.lasting (r.fork body) := by
  refine keeps_bind _ _ _ (catch_up_keeps r) fun _ => keeps_bind _ _ _ take_place_keeps fun _ =>
    keeps_bind _ _ _ (new_process_keeps _) fun process => keeps_get _ _ fun before => ?_
  have back (death : Death) : Keeps Own.lasting (do receiveSent; pure death : Shell Death) :=
    keeps_bind _ _ _ receive_sent_keeps fun _ => keeps_pure _ _
  let child : State := { before with own := before.own.child process }
  exact back _ { ((r.runToEnd body).run child).2 with own := before.own }

theorem add_channel_keeps (c : Channel) : Keeps view (addChannel c) := fun _ => rfl

theorem files_keeps : Keeps view files := fun _ => rfl

theorem places_keeps (searchPath : Option Text) : Keeps view (places searchPath) := fun _ => rfl

theorem inner_meaning_keeps (mode : LookupMode) (name : Text) : Keeps view (innerMeaning? mode name) := by
  refine keeps_own view _ fun o => ?_
  cases (if mode.skipsFunctions then none else o.functions.lookup name) with
  | none => exact keeps_pure _ _
  | some body => exact keeps_pure _ _

theorem remember_keeps (name : Text) (index : Nat) : Keeps Own.lasting (remember name index) := fun _ => rfl

theorem forget_keeps (name : Text) : Keeps Own.lasting (forget name) := fun _ => rfl

theorem meaning_keeps (mode : LookupMode) (name : Text) : Keeps Own.lasting (meaning mode name) := by
  refine keeps_ite _ _ _ _ (keeps_pure _ _) (keeps_bind _ _ _ (inner_meaning_keeps _ mode name) fun inner? => ?_)
  cases inner? with
  | some inner => exact keeps_pure _ _
  | none =>
      refine keeps_own _ _ fun o => ?_
      dsimp only
      split
      · exact keeps_pure _ _
      · refine keeps_bind _ _ _ (files_keeps _) fun fs => keeps_bind _ _ _ (places_keeps _ _) fun searched => ?_
        cases findProgram fs name 0 .notFound searched with
        | ok index =>
            exact keeps_ite _ _ _ _ (keeps_bind _ _ _ (remember_keeps name index) fun _ => keeps_pure _ _) (keeps_pure _ _)
        | error cause =>
            exact keeps_ite _ _ _ _ (keeps_bind _ _ _ (forget_keeps name) fun _ => keeps_pure _ _) (keeps_pure _ _)

theorem remember_stage_keeps (stage : Command) : Keeps Own.lasting (Runner.rememberStage stage) := by
  cases stage with
  | simple line assignments words redirections =>
    cases words with
    | nil => exact keeps_pure _ _
    | cons word rest =>
        rw [Runner.rememberStage]
        cases Piece.plain? word with
        | none => exact keeps_pure _ _
        | some name =>
            exact keeps_ite _ _ _ _ (keeps_bind _ _ _ (meaning_keeps {} name) fun _ => keeps_pure _ _) (keeps_pure _ _)
  | _ => exact keeps_pure _ _

theorem run_stages_keeps (standing : Standing) (stages : List Command) (input : Option Nat) (death : Death) :
    Keeps Own.lasting (r.runStages standing input stages death) := by
  induction stages generalizing input death with
  | nil => exact keeps_pure _ _
  | cons stage rest ih =>
      have others (output : Option Nat) (body : Shell Unit) : Keeps Own.lasting (do
          let death ← r.fork body
          reportDeath death
          r.runStages standing output rest death) :=
        keeps_bind _ _ _ (fork_keeps r body) fun death =>
          keeps_bind _ _ _ (report_death_keeps _ death) fun _ => ih output death
      refine keeps_bind _ _ _ (remember_stage_keeps stage) fun _ => keeps_ite _ _ _ _ ?_ ?_
      · exact keeps_bind _ _ _ (keeps_pure _ _) fun output => others output _
      · exact keeps_bind _ _ _ (add_channel_keeps _ _) fun _ =>
          keeps_bind _ _ _ (keeps_pure _ _) fun output => others output _

theorem run_subshell_keeps (standing : Standing) (body : Command) (stays : standing.isLast = false) :
    Keeps Own.lasting (r.runSubshell standing body []) := by
  refine keeps_bind _ _ _ (keeps_pure _ _) fun redirections => keeps_own _ _ fun o => ?_
  simp only [stays, Bool.false_and, Bool.false_eq_true, if_false]
  exact keeps_bind _ _ _ (fork_keeps r _) fun death =>
    keeps_bind _ _ _ (report_death_keeps _ death) fun _ => keeps_pure _ _

end CommandShell.PosixShell
