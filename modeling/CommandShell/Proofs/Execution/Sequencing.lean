import CommandShell.Execution.Outcome

set_option autoImplicit false

namespace CommandShell

namespace Run

variable {σ α β : Type}

theorem run_bind (first : Run σ α) (next : α → Run σ β) (state : σ) :
    (first >>= next).run.run state = match first.run.run state with
      | (.ok value, after) => (next value).run.run after
      | (.error failure, after) => (.error failure, after) := by
  simp only [bind, ExceptT.bind, ExceptT.mk, StateT.bind, ExceptT.run, StateT.run]
  cases first state with
  | mk result after =>
      cases result with
      | ok value => rfl
      | error failure => rfl

theorem run_bind_ok (first : Run σ α) (next : α → Run σ β) (state after : σ) (value : α)
    (done : first.run.run state = (.ok value, after)) :
    (first >>= next).run.run state = (next value).run.run after := by
  rw [run_bind, done]

theorem run_bind_ok_iff (first : Run σ α) (next : α → Run σ β) (state last : σ) (result : β) :
    (first >>= next).run.run state = (.ok result, last) ↔ ∃ value middle,
      first.run.run state = (.ok value, middle) ∧ (next value).run.run middle = (.ok result, last) := by
  constructor
  · intro done
    rw [run_bind] at done
    cases ran : first.run.run state with
    | mk outcome middle =>
        rw [ran] at done
        cases outcome with
        | ok value => exact ⟨value, middle, rfl, done⟩
        | error failure => cases done
  · rintro ⟨value, middle, ran, done⟩
    rw [run_bind_ok first next state middle value ran, done]

theorem run_bind_pure (first : Run σ α) (f : α → β) (state : σ) :
    (first >>= fun value => pure (f value)).run.run state = (first.run.run state).map (Except.map f) id := by
  rw [run_bind]
  cases first.run.run state with
  | mk result after =>
      cases result with
      | ok value => rfl
      | error failure => rfl

theorem run_catch (first : Run σ α) (handler : Failure → Run σ α) (state : σ) :
    (tryCatch first handler).run.run state = match first.run.run state with
      | (.ok value, after) => (.ok value, after)
      | (.error failure, after) => (handler failure).run.run after := by
  simp only [tryCatch, tryCatchThe, MonadExceptOf.tryCatch, ExceptT.tryCatch, ExceptT.mk, bind, StateT.bind,
    ExceptT.run, StateT.run]
  cases first state with
  | mk result after =>
      cases result with
      | ok value => rfl
      | error failure => rfl

end Run

end CommandShell
