import CommandShell.Proofs.Programs.Isolation

set_option autoImplicit false

namespace CommandShell.PosixShell

section Running

variable {α β : Type}

theorem run_bind_ok (m : Shell α) (f : α → Shell β) (s t : State) (a : α) (done : m.run.run s = (.ok a, t)) :
    (m >>= f).run.run s = (f a).run.run t := by
  simp only [ExceptT.run_bind, StateT.run_bind, done]
  rfl

theorem run_bind_error (m : Shell α) (f : α → Shell β) (s t : State) (stop : Stop)
    (done : m.run.run s = (.error stop, t)) : (m >>= f).run.run s = (.error stop, t) := by
  simp only [ExceptT.run_bind, StateT.run_bind, done]
  rfl

theorem run_try_ok (m : Shell α) (handle : Stop → Shell α) (s t : State) (a : α) (done : m.run.run s = (.ok a, t)) :
    (tryCatch m handle).run.run s = (.ok a, t) := by
  change StateT.run m s = _ at done
  simp only [tryCatch, tryCatchThe, MonadExceptOf.tryCatch, ExceptT.tryCatch, ExceptT.run_mk, StateT.run_bind, done]
  rfl

theorem run_try_error (m : Shell α) (handle : Stop → Shell α) (s t : State) (stop : Stop)
    (done : m.run.run s = (.error stop, t)) : (tryCatch m handle).run.run s = (handle stop).run.run t := by
  change StateT.run m s = _ at done
  simp only [tryCatch, tryCatchThe, MonadExceptOf.tryCatch, ExceptT.tryCatch, ExceptT.run_mk, StateT.run_bind, done]
  rfl

end Running

open Shell

variable {γ : Type} (view : Own → γ) (r : Runner)

theorem lookup_entry {α β : Type} [BEq α] [LawfulBEq α] [DecidableEq α] (name other : α) (value : β)
    (rest : List (α × β)) :
    ((name, value) :: rest).lookup other = if other = name then some value else rest.lookup other := by
  rw [List.lookup_cons]
  by_cases same : other = name
  · simp [same]
  · simp [same, beq_false_of_ne same]

theorem lookup_filter_key {α β : Type} [BEq α] [LawfulBEq α] [DecidableEq α] (key other : α)
    (entries : List (α × β)) :
    (entries.filter (·.1 ≠ key)).lookup other = if other = key then none else entries.lookup other := by
  induction entries with
  | nil => simp
  | cons first rest ih =>
      cases first with
      | mk name value =>
        by_cases dropped : name = key
        · rw [List.filter_cons_of_neg (by simp [dropped]), ih, lookup_entry, dropped]
          by_cases same : other = key
          · rw [if_pos same, if_pos same]
          · rw [if_neg same, if_neg same, if_neg same]
        · rw [List.filter_cons_of_pos (by simp [dropped]), lookup_entry, lookup_entry, ih]
          by_cases same : other = name
          · rw [if_pos same, if_neg (same ▸ dropped), if_pos same]
          · rw [if_neg same, if_neg same]

theorem descriptors_close (d : Descriptors) (fd other : Nat) :
    (d.close fd).get? other = if other = fd then none else d.get? other := lookup_filter_key fd other d

theorem descriptors_set (d : Descriptors) (fd channel other : Nat) :
    (d.set fd channel).get? other = if other = fd then some channel else d.get? other := by
  rw [Descriptors.set, Descriptors.get?, lookup_entry]
  by_cases same : other = fd
  · rw [if_pos same, if_pos same]
  · rw [if_neg same, if_neg same]
    exact (descriptors_close d fd other).trans (if_neg same)

theorem restore_descriptors_get (before : Descriptors) (moved : List Nat) (d : Descriptors) (fd : Nat) :
    (Runner.restoreDescriptors before moved d).get? fd = if fd ∈ moved then before.get? fd else d.get? fd := by
  induction moved generalizing d with
  | nil => rfl
  | cons first rest ih =>
      rw [Runner.restoreDescriptors]
      cases known : before.get? first with
      | some number =>
        simp only [ih, descriptors_set]
        by_cases isFirst : fd = first <;> simp [isFirst, known]
      | none =>
        simp only [ih, descriptors_close]
        by_cases isFirst : fd = first <;> simp [isFirst, known]

-- What a command is run in is put back behind it, and just so where it stops.
theorem restored_behind {α β : Type} (value : γ) (f : Own → Own) (sets : ∀ o, view (f o) = value)
    (m : Shell α) (k : α → Shell β) (kept : ∀ a, Keeps view (k a)) (s : State) :
    view ((do
      let a ← tryCatch m fun stop => do
        modifyOwn f
        throw stop
      modifyOwn f
      k a : Shell β).run.run s).2.own = value := by
  cases ran : m.run.run s with
  | mk result after =>
      cases result with
      | ok a =>
          rw [run_bind_ok _ _ s after a (run_try_ok _ _ _ _ a ran)]
          exact (kept a _).trans (sets after.own)
      | error stop =>
          have caught := run_try_error m (fun stop => do modifyOwn f; throw stop) s after stop ran
          rw [run_bind_error _ _ s { after with own := f after.own } stop caught]
          exact sets after.own

-- Whatever comes out of a command, the descriptors that were led elsewhere for it are led back.
theorem redirected_restores (redirections : List Redirection) (failed body : Shell Int) (s t : State)
    (prepared : List Prepared) (ready : (prepareAll r.substitute redirections).run.run s = (.ok prepared, t))
    (fd : Nat) (moved : fd ∈ prepared.map Prepared.fd) :
    ((r.redirected redirections false failed body).run.run s).2.own.descriptors.get? fd = t.own.descriptors.get? fd := by
  rw [Runner.redirected, run_bind_ok _ _ s t prepared ready, run_bind_ok own _ t t t.own rfl]
  simp only [Bool.not_false, if_true]
  refine restored_behind (fun o => o.descriptors.get? fd) _ _ (fun o => ?_) _ _ (fun status => keeps_pure _ status) t
  exact (restore_descriptors_get _ _ _ fd).trans (if_pos moved)

theorem complain_keeps (message : Text) : Keeps view (complain message) := by
  refine keeps_own view _ fun o => keeps_bind view _ _ (write_keeps view 2 _) fun _ => keeps_pure _ _

def Own.frame (o : Own) : List Text × Nat × Nat × Nat × Option Nat :=
  (o.arguments, o.depth, o.loops, o.optionIndex, o.optionOffset)

theorem flush_keeps : Keeps Own.frame flush := by
  refine keeps_own _ _ fun o => keeps_ite _ _ _ _ (keeps_pure _ _) ?_
  refine keeps_bind _ _ _ (keeps_modify_own _ _ fun _ => rfl) fun _ => keeps_ite _ _ _ _ (keeps_pure _ _) ?_
  exact keeps_bind _ _ _ (write_keeps _ 1 _) fun isWritten =>
    keeps_ite _ _ _ _ (keeps_modify_own _ _ fun _ => rfl) (keeps_pure _ _)

def Stops {α : Type} (m : Shell α) : Prop := ∀ (s : State) (a : α) (t : State), m.run.run s ≠ (.ok a, t)

theorem stops_behind {α β : Type} (m : Shell α) (f : α → Shell β) (next : ∀ a, Stops (f a)) : Stops (m >>= f) := by
  intro s b t
  cases done : m.run.run s with
  | mk result after =>
      cases result with
      | ok a =>
          rw [run_bind_ok _ _ _ _ _ done]
          exact next a after b t
      | error stop =>
          rw [run_bind_error _ _ _ _ _ done]
          intro same
          cases same

theorem keeps_stopped {α β : Type} (m : Shell α) (f : α → Shell β) (kept : Keeps view m) (stops : Stops m) :
    Keeps view (m >>= f) := by
  intro s
  have before := kept s
  cases done : m.run.run s with
  | mk result after =>
      rw [done] at before
      cases result with
      | ok a => exact absurd done (stops s a after)
      | error stop =>
          rw [run_bind_error _ _ _ _ _ done]
          exact before

theorem fail_keeps {α : Type} (message : Text) : Keeps Own.frame (fail message : Shell α) := by
  rw [fail, failWith]
  refine keeps_bind _ _ _ (complain_keeps _ message) fun _ => keeps_bind _ _ _ flush_keeps fun _ => ?_
  exact keeps_bind _ _ _ (fun _ => rfl) fun _ => keeps_throw _ _

theorem fail_stops {α : Type} (message : Text) : Stops (fail message : Shell α) := by
  rw [fail, failWith]
  refine stops_behind _ _ fun _ => stops_behind _ _ fun _ => stops_behind _ _ fun _ s a t same => ?_
  cases same

-- A function has arguments of its own only while it runs.
theorem call_function_keeps (standing : Standing) (body : Command) (arguments : List Text) :
    Keeps Own.frame (r.callFunction standing body arguments) := by
  intro s
  rw [Runner.callFunction, run_bind_ok own _ s s s.own rfl]
  by_cases tooDeep : maxFunctionDepth ≤ s.own.depth
  · simp only [if_pos tooDeep]
    exact keeps_stopped _ _ _ (fail_keeps _) (fail_stops _) s
  · simp only [if_neg tooDeep]
    rw [run_bind_ok (modifyOwn _) _ s _ () rfl]
    refine restored_behind Own.frame s.own.frame _ (fun o => ?_) _ _ (fun status => ?_) _
    · rfl
    · exact keeps_bind _ _ _ (keeps_modify_own _ _ fun o => rfl) fun _ => keeps_own _ _ fun o => keeps_pure _ _

theorem lookup_insert_variable (name other : Text) (v : Variable) (bindings : List (Text × Variable)) :
    (Own.insertVariable name v bindings).lookup other = if other = name then some v else bindings.lookup other := by
  fun_induction Own.insertVariable name v bindings with
  | case1 => rw [lookup_entry]
  | case2 first w rest before => rw [lookup_entry]
  | case3 w rest before =>
      rw [lookup_entry, lookup_entry]
      by_cases same : other = name
      · rw [if_pos same, if_pos same]
      · rw [if_neg same, if_neg same, if_neg same]
  | case4 first w rest before apart ih =>
      rw [lookup_entry, lookup_entry, ih]
      by_cases same : other = first
      · have isOther : other ≠ name := fun isName => apart (isName.symm.trans same)
        rw [if_pos same, if_neg isOther, if_pos same]
      · rw [if_neg same, if_neg same]

theorem entry_restore (o : Own) (name other : Text) (before : Option Variable) :
    Own.entry? (o.restore name before) other = if other = name then before else o.entry? other := by
  cases before with
  | some v => exact lookup_insert_variable name other v o.bindings
  | none => exact lookup_filter_key name other o.bindings

theorem entry_notice_change (o : Own) (name value other : Text) :
    Own.entry? (o.noticeChange name value) other = o.entry? other := by
  rw [Own.noticeChange]
  split
  · rfl
  · split
    · rfl
    · rfl

def Saved.before? (name : Text) : Saved → Option (Option Variable)
  | .variable other before => if name = other then some before else none
  | .switches _ => none

-- A variable becomes what it was before the first of the changes that are undone.
theorem close_scopes_entry (left : Nat) (s : State) (name : Text) :
    let closing := s.own.saved.take (s.own.saved.length - left)
    Own.entry? ((closeScopes left).run.run s).2.own name =
      ((closing.flatten.filterMap (Saved.before? name)).getLast?).getD (Own.entry? s.own name) := by
  intro closing
  change Own.entry? (closing.flatten.foldl _ s.own) name = _
  generalize s.own = o
  induction closing.flatten generalizing o with
  | nil => rfl
  | cons first rest ih =>
      rw [List.foldl_cons, ih]
      cases first with
      | switches before =>
          rw [List.filterMap_cons_none rfl]
          rfl
      | «variable» other before =>
          dsimp only
          rw [entry_notice_change, entry_restore]
          by_cases same : name = other
          · have found : Saved.before? name (.variable other before) = some before := if_pos same
            rw [List.filterMap_cons_some found, if_pos same, List.getLast?_cons, Option.getD_some]
          · have passed : Saved.before? name (.variable other before) = none := if_neg same
            rw [List.filterMap_cons_none passed, if_neg same]

end CommandShell.PosixShell
