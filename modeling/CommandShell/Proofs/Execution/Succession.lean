import CommandShell.Proofs.Execution.Stages
import CommandShell.Proofs.Execution.Subshell

set_option autoImplicit false

namespace CommandShell

namespace Outcome

theorem join_texts_nonempty (a b : Option Text) : joinTexts a b ≠ some [] := by
  rw [joinTexts]
  by_cases empty : a.getD [] ++ b.getD [] = []
  · simp [empty]
  · simp [List.isEmpty_iff, empty]

theorem join_texts_assoc (a b c : Option Text) : joinTexts (joinTexts a b) c = joinTexts a (joinTexts b c) := by
  rw [joinTexts, join_texts_text, List.append_assoc, ← join_texts_text b c]
  rfl

theorem join_texts_first (a b : Option Text) : joinTexts a (joinTexts none b) = joinTexts a b := by
  rw [joinTexts, join_texts_text]
  rfl

theorem followed_by_assoc (a b c : Outcome) : (a.followedBy b).followedBy c = a.followedBy (b.followedBy c) := by
  simp only [followedBy, join_texts_assoc]

theorem followed_by_after_first (a b : Outcome) : a.followedBy (followedBy {} b) = a.followedBy b := by
  simp only [followedBy, join_texts_first]

end Outcome

section Parts

variable (host : Host) (nested : LineRunner) (sink : Sink)

theorem run_pipelines_done (done : Outcome) (p : Pipeline Text) (rest : List (Pipeline Text)) (w : World) :
    (runPipelines host nested sink done (p :: rest)).run.run w =
      ((runPipelines host nested sink {} (p :: rest)).run.run w).map (Except.map done.followedBy) id := by
  induction rest generalizing done p w with
  | nil =>
      rw [run_pipelines_one, run_pipelines_one]
      cases (runPipeline host nested sink p).run.run w with
      | mk result after =>
          cases result with
          | error failure => rfl
          | ok outcome => exact congrArg (fun o => (Except.ok o, after)) (done.followed_by_after_first outcome).symm
  | cons q more ih =>
      rw [run_pipelines_more, run_pipelines_more host nested sink {}]
      cases (runPipeline host nested sink p).run.run w with
      | mk result after =>
          cases result with
          | error failure => rfl
          | ok outcome =>
              by_cases exiting : after.session.exiting = true
              · simp [exiting, Except.map, Outcome.followed_by_after_first]
              · simp only [exiting]
                rw [ih (done.followedBy outcome), ih (Outcome.followedBy {} outcome)]
                cases (runPipelines host nested sink {} (q :: more)).run.run after with
                | mk result last =>
                    cases result with
                    | error failure => rfl
                    | ok others => simp [Except.map, Outcome.followed_by_assoc, Outcome.followed_by_after_first]

theorem run_pipelines_append (done : Outcome) (first later : List (Pipeline Text)) (nonempty : first ≠ []) (w : World) :
    (runPipelines host nested sink done (first ++ later)).run.run w =
      match (runPipelines host nested sink done first).run.run w with
      | (.ok outcome, after) =>
          if after.session.exiting then (.ok outcome, after)
          else (runPipelines host nested sink outcome later).run.run after
      | (.error failure, after) => (.error failure, after) := by
  induction first generalizing done w with
  | nil => exact absurd rfl nonempty
  | cons p rest ih =>
      rw [List.cons_append, run_pipelines_more, run_pipelines_more]
      cases (runPipeline host nested sink p).run.run w with
      | mk result after =>
          cases result with
          | error failure => rfl
          | ok outcome =>
              by_cases exiting : after.session.exiting = true
              · simp [exiting]
              · cases rest with
                | nil =>
                    have nothingMore : (runPipelines host nested sink (done.followedBy outcome) []).run.run after =
                        (.ok (done.followedBy outcome), after) := rfl
                    simp [exiting, nothingMore]
                | cons q more =>
                    simp only [exiting]
                    exact ih (done.followedBy outcome) (List.cons_ne_nil q more) after

theorem pipelines_in_succession (first later : List (Pipeline Text)) (nonempty : first ≠ []) (more : later ≠ [])
    (w : World) :
    (runPipelines host nested sink {} (first ++ later)).run.run w =
      (match (runPipelines host nested sink {} first).run.run w with
      | (.error failure, after) => (.error failure, after)
      | (.ok outcome, after) =>
          if after.session.exiting then (.ok outcome, after)
          else match (runPipelines host nested sink {} later).run.run after with
            | (.error failure, last) => (.error failure, last)
            | (.ok others, last) =>
                (.ok ⟨others.code, Outcome.joinTexts outcome.output others.output,
                  Outcome.joinTexts outcome.errors others.errors⟩, last)) ∧
    ∀ a b, (Outcome.joinTexts a b).getD [] = a.getD [] ++ b.getD [] ∧ Outcome.joinTexts a b ≠ some [] := by
  refine ⟨?_, fun a b => ⟨Outcome.join_texts_text a b, Outcome.join_texts_nonempty a b⟩⟩
  obtain ⟨q, others, rfl⟩ := List.exists_cons_of_ne_nil more
  rw [run_pipelines_append host nested sink {} first _ nonempty]
  cases (runPipelines host nested sink {} first).run.run w with
  | mk result after =>
      cases result with
      | error failure => rfl
      | ok outcome =>
          by_cases exiting : after.session.exiting = true
          · simp only [exiting, if_true]
          · simp only [exiting]
            rw [run_pipelines_done]
            cases (runPipelines host nested sink {} (q :: others)).run.run after with
            | mk result last =>
                cases result with
                | error failure => rfl
                | ok rest => rfl

end Parts

theorem pipelines_in_succession_exit :
    let echo (c : Char) : Pipeline Text := ⟨.simple ["echo".toList, [c]], []⟩
    let exit : Pipeline Text := ⟨.simple ["exit".toList, ['3']], []⟩
    let w : World := { session := .start Calculator.eval {} ['/'] ['/'], files := {} }
    [echo 'a'] ≠ [] ∧ [exit, echo 'b'] ≠ [] ∧ ∀ host nested,
      (runPipelines host nested .capture {} ([echo 'a'] ++ [exit, echo 'b'])).run.run w =
        (.ok { code := 3, output := some "a\n".toList }, w.withExiting true) := by
  intro echo exit w
  have nonempty : [echo 'a'] ≠ [] := List.cons_ne_nil _ _
  have more : [exit, echo 'b'] ≠ [] := List.cons_ne_nil _ _
  refine ⟨nonempty, more, fun host nested => ?_⟩
  have parts := pipelines_in_succession host nested .capture _ _ nonempty more w
  refine parts.1.trans ?_
  rfl

end CommandShell
