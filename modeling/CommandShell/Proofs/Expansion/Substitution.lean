import CommandShell.Expansion.Words
import CommandShell.Proofs.Execution.Sequencing
import Mathlib.Data.List.Basic

set_option autoImplicit false

namespace CommandShell

variable {σ α β : Type}

def Outcome.refusal (o : Outcome) (line : Text) : Failure :=
  match o.errors with
  | some text => .reported (Text.trimEnd text)
  | none => if o.code ≠ 0 then .exited line o.code else .silent line

-- `Substituted run s lines none last`: the lines run from `s`, each in the state the one before it left, all of them
-- succeed with output, and the last one leaves `last`. With a failure in place of `none`, the lines after the one that
-- failed are not run, and that one leaves `last`.
inductive Substituted (run : Text → Run σ Outcome) : σ → List Text → Option Failure → σ → Prop where
  | done (s : σ) : Substituted run s [] none s
  | failed (s last : σ) (line : Text) (later : List Text) (failure : Failure)
      (ran : (run line).run.run s = (.error failure, last)) : Substituted run s (line :: later) (some failure) last
  | refused (s last : σ) (line : Text) (later : List Text) (outcome : Outcome)
      (ran : (run line).run.run s = (.ok outcome, last)) (useless : outcome.code ≠ 0 ∨ outcome.output = none) :
      Substituted run s (line :: later) (some (outcome.refusal line)) last
  | passed (s middle last : σ) (line : Text) (later : List Text) (outcome : Outcome) (text : Text)
      (ended : Option Failure) (ran : (run line).run.run s = (.ok outcome, middle)) (success : outcome.code = 0)
      (output : outcome.output = some text) (others : Substituted run middle later ended last) :
      Substituted run s (line :: later) ended last

theorem substituted_append (run : Text → Run σ Outcome) (s middle last : σ) (first later : List Text)
    (ended : Option Failure) (front : Substituted run s first none middle)
    (back : Substituted run middle later ended last) : Substituted run s (first ++ later) ended last := by
  generalize noFailure : none = none' at front
  induction front with
  | done s => exact back
  | failed s last line more failure ran => cases noFailure
  | refused s last line more outcome ran useless => cases noFailure
  | passed s next middle line more outcome text ended ran success output others ih =>
      exact .passed s next last line _ outcome text _ ran success output (ih back noFailure)

theorem substituted_append_failed (run : Text → Run σ Outcome) (s last : σ) (first later : List Text)
    (failure : Failure) (front : Substituted run s first (some failure) last) :
    Substituted run s (first ++ later) (some failure) last := by
  generalize isFailure : some failure = ended at front
  induction front with
  | done s => cases isFailure
  | failed s last line more failure ran => exact .failed s last line _ failure ran
  | refused s last line more outcome ran useless => exact .refused s last line _ outcome ran useless
  | passed s middle last line more outcome text ended ran success output others ih =>
      exact .passed s middle last line _ outcome text _ ran success output (ih isFailure)

-- What `r` does to the state is to run `lines`: it fails as they fail, and otherwise yields a value of which `P` holds.
def Substitutes (run : Text → Run σ Outcome) (lines : List Text) (r : Run σ α) (P : α → Prop) : Prop :=
  ∀ s, (∃ v last, Substituted run s lines none last ∧ r.run.run s = (.ok v, last) ∧ P v) ∨
    ∃ failure last, Substituted run s lines (some failure) last ∧ r.run.run s = (.error failure, last)

namespace Substitutes

variable {run : Text → Run σ Outcome}

theorem value (v : α) (P : α → Prop) (holds : P v) : Substitutes run [] (pure v) P :=
  fun s => .inl ⟨v, s, .done s, rfl, holds⟩

theorem read (lines : List Text) (f : σ → Run σ α) (P : α → Prop) (each : ∀ s, Substitutes run lines (f s) P) :
    Substitutes run lines (get >>= f) P :=
  fun s => each s s

theorem seq (first later : List Text) (r : Run σ α) (next : α → Run σ β) (P : α → Prop) (Q : β → Prop)
    (front : Substitutes run first r P) (back : ∀ v, P v → Substitutes run later (next v) Q) :
    Substitutes run (first ++ later) (r >>= next) Q := by
  intro s
  rcases front s with ⟨v, middle, passed, ran, holds⟩ | ⟨failure, last, failed, ran⟩
  · rw [Run.run_bind_ok r next s middle v ran]
    rcases back v holds middle with ⟨w, last, passed', ran', holds'⟩ | ⟨failure, last, failed, ran'⟩
    · exact .inl ⟨w, last, substituted_append run s middle last first later none passed passed', ran', holds'⟩
    · exact .inr ⟨failure, last, substituted_append run s middle last first later _ passed failed, ran'⟩
  · refine .inr ⟨failure, last, substituted_append_failed run s last first later failure failed, ?_⟩
    rw [Run.run_bind, ran]

theorem map (lines : List Text) (r : Run σ α) (f : α → β) (P : α → Prop) (Q : β → Prop)
    (front : Substitutes run lines r P) (holds : ∀ v, P v → Q (f v)) :
    Substitutes run lines (r >>= fun v => pure (f v)) Q := by
  have both := seq lines [] r (fun v => pure (f v)) P Q front fun v given => value (f v) Q (holds v given)
  rwa [List.append_nil] at both

theorem weaken {lines : List Text} {r : Run σ α} {P Q : α → Prop} (substitutes : Substitutes run lines r P)
    (holds : ∀ v, P v → Q v) : Substitutes run lines r Q := by
  intro s
  rcases substitutes s with ⟨v, last, passed, ran, given⟩ | failed
  · exact .inl ⟨v, last, passed, ran, holds v given⟩
  · exact .inr failed

theorem each {γ : Type} (lines : α → List Text) (f : α → Run σ β) (view : α → γ) (viewed : β → γ) (items : List α)
    (one : ∀ a ∈ items, Substitutes run (lines a) (f a) fun b => viewed b = view a) :
    Substitutes run (items.flatMap lines) (items.mapM f) fun values => values.map viewed = items.map view := by
  induction items with
  | nil => exact value [] _ rfl
  | cons a rest ih =>
      have others := ih fun b member => one b (List.mem_cons_of_mem a member)
      rw [List.flatMap_cons, List.mapM_cons]
      refine seq _ _ _ _ _ _ (one a List.mem_cons_self) fun b first => ?_
      refine map _ _ _ _ _ others fun values rest => ?_
      rw [List.map_cons, List.map_cons, first, rest]

theorem all (lines : α → List Text) (f : α → Run σ β) (items : List α)
    (one : ∀ a ∈ items, Substitutes run (lines a) (f a) fun _ => True) :
    Substitutes run (items.flatMap lines) (items.mapM f) fun _ => True :=
  (each lines f (fun _ => ()) (fun _ => ()) items fun a member => (one a member).weaken fun _ _ => rfl).weaken
    fun _ _ => trivial

theorem yields (lines : List Text) (r : Run σ α) (P : α → Prop) (substitutes : Substitutes run lines r P) (s last : σ)
    (v : α) (ran : r.run.run s = (.ok v, last)) : P v := by
  rcases substitutes s with ⟨w, end', _, ran', holds⟩ | ⟨failure, end', _, ran'⟩
  · rw [ran] at ran'
    cases ran'
    exact holds
  · rw [ran] at ran'
    cases ran'

end Substitutes

theorem substitution_eq (o : Outcome) (line : Text) : o.substitution line =
    if o.code ≠ 0 ∨ o.output = none then .error (o.refusal line) else .ok (Text.trimEnd (o.output.getD [])) := by
  cases code : decide (o.code = 0) <;> cases output : o.output <;> cases errors : o.errors <;>
    simp_all [Outcome.substitution, Outcome.refusal, Failure.ofErrors]

theorem Variables.expand_no_reference (vars : Variables) (t : Text) (none : '$' ∉ t) : vars.expand t = t := by
  change vars.expandFrom 0 t = t
  induction t with
  | nil => rfl
  | cons c rest ih =>
      have other : ¬ c = '$' := fun same => none (same ▸ List.mem_cons_self)
      rw [expandFrom, if_neg other, ih fun member => none (List.mem_cons_of_mem c member)]

namespace Word

theorem expand_piece_substitutes (nested : Nested σ) (piece : Piece) :
    Substitutes nested.run piece.command?.toList (expandPiece nested piece) fun _ => True := by
  cases piece with
  | plain text => exact Substitutes.value text _ trivial
  | command line =>
      intro s
      cases ran : (nested.run line).run.run s with
      | mk result last =>
          cases result with
          | error failure =>
              refine .inr ⟨failure, last, .failed s last line [] failure ran, ?_⟩
              rw [expandPiece, Run.run_bind, ran]
          | ok outcome =>
              rw [expandPiece, Run.run_bind_ok _ _ s last outcome ran, substitution_eq]
              by_cases useless : outcome.code ≠ 0 ∨ outcome.output = none
              · rw [if_pos useless]
                exact .inr ⟨_, last, .refused s last line [] outcome ran useless, rfl⟩
              · obtain ⟨success, some⟩ := not_or.1 useless
                obtain ⟨text, output⟩ := Option.ne_none_iff_exists'.1 some
                rw [if_neg useless]
                have passed := Substituted.passed s last last line [] outcome text none ran
                  (Decidable.not_not.1 success) output (.done last)
                exact .inl ⟨_, last, passed, rfl, trivial⟩

theorem lines_of_no_command (w : Word) (none : w.commands = []) : w.lines = [] := by
  rw [lines, pieces, none]
  rfl

theorem expand_commands_substitutes (nested : Nested σ) (w : Word) :
    Substitutes nested.run w.lines (expandCommands nested w) fun _ => True := by
  by_cases none : w.commands = []
  · rw [lines_of_no_command w none, expandCommands, if_pos (by simp [none])]
    exact Substitutes.value w _ trivial
  · have pieces := Substitutes.all (fun piece : Piece => piece.command?.toList) (expandPiece nested) w.pieces
      fun piece _ => expand_piece_substitutes nested piece
    rw [lines, List.filterMap_eq_flatMap_toList, expandCommands, if_neg (by simpa using none)]
    exact Substitutes.map _ _ _ _ _ pieces fun _ _ => trivial

def Marked (w : Word) : Prop := w.quote = none → w.commands = []

theorem expand_home_keeps (home : Text) (w : Word) (marked : w.Marked) :
    (w.expandHome home).Marked ∧ (w.expandHome home).lines = w.lines := by
  by_cases quoted : w.isQuoted = true
  · rw [expandHome, if_pos quoted]
    exact ⟨marked, rfl⟩
  · have none : w.commands = [] := marked (by simpa [isQuoted] using quoted)
    rw [expandHome, if_neg quoted, lines_of_no_command w none]
    exact ⟨fun _ => none, lines_of_no_command _ none⟩

theorem bare_no_lines (text : Text) : (bare text).Marked ∧ (bare text).lines = [] := ⟨fun _ => rfl, rfl⟩

theorem mem_expand_pattern (names : List Text) (w v : Word) (member : v ∈ w.expandPattern names) :
    v = w ∨ ∃ name ∈ names, v = bare name := by
  unfold expandPattern at member
  split at member
  · split at member
    · obtain ⟨name, found, rfl⟩ := List.mem_map.1 member
      exact .inr ⟨name, (List.mem_filter.1 found).1, rfl⟩
    · exact .inl (List.mem_singleton.1 member)
  · exact .inl (List.mem_singleton.1 member)

theorem expand_pattern_keeps (names : List Text) (w : Word) (marked : w.Marked) :
    (∀ v ∈ w.expandPattern names, v.Marked) ∧ (w.expandPattern names).flatMap lines = w.lines := by
  have same : (∀ v ∈ [w], v.Marked) ∧ [w].flatMap lines = w.lines := ⟨by simpa using marked, by simp⟩
  by_cases pattern : w.hasPattern = true
  · have unquoted : w.isQuoted = false := by
      rw [hasPattern, Bool.and_eq_true] at pattern
      simpa using pattern.1
    have none : w.commands = [] := marked (by simpa [isQuoted] using unquoted)
    rw [expandPattern, if_pos pattern]
    cases Pattern.parse? w.text with
    | none => exact same
    | some pattern =>
        rw [lines_of_no_command w none]
        refine ⟨fun v member => ?_, ?_⟩
        · obtain ⟨name, _, rfl⟩ := List.mem_map.1 member
          exact (bare_no_lines name).1
        · simp [List.flatMap_map, bare_no_lines]
  · rw [expandPattern, if_neg pattern]
    exact same

end Word

namespace Expansion

structure Regions (lines : List Text) (words : List Word) : Prop where
  marked : ∀ w ∈ words, w.Marked
  lines : words.flatMap Word.lines = lines

theorem home_substitutes (nested : Nested σ) (lines : List Text) (words : List Word) (regions : Regions lines words) :
    Substitutes nested.run [] (applyStep nested .home words) (Regions lines) := by
  refine Substitutes.read [] _ _ fun state => Substitutes.value _ _ ⟨fun w member => ?_, ?_⟩
  · obtain ⟨v, vMember, rfl⟩ := List.mem_map.1 member
    exact (v.expand_home_keeps _ (regions.marked v vMember)).1
  · rw [← regions.lines, List.flatMap_map]
    exact List.flatMap_congr fun v member => (v.expand_home_keeps _ (regions.marked v member)).2

theorem pattern_substitutes (nested : Nested σ) (lines : List Text) (words : List Word)
    (regions : Regions lines words) : Substitutes nested.run [] (applyStep nested .pattern words) (Regions lines) := by
  refine Substitutes.read [] _ _ fun state => Substitutes.value _ _ ⟨fun w member => ?_, ?_⟩
  · obtain ⟨v, vMember, member⟩ := List.mem_flatMap.1 member
    exact (v.expand_pattern_keeps _ (regions.marked v vMember)).1 w member
  · rw [← regions.lines, List.flatMap_assoc]
    exact List.flatMap_congr fun v member => (v.expand_pattern_keeps _ (regions.marked v member)).2

theorem command_substitutes (nested : Nested σ) (words : List Word) :
    Substitutes nested.run (words.flatMap Word.lines) (applyStep nested .command words) fun _ => True := by
  refine Substitutes.read _ _ _ fun state => ?_
  exact Substitutes.all _ _ words fun w _ => w.expand_commands_substitutes nested

theorem variable_substitutes (nested : Nested σ) (words : List Word) :
    Substitutes nested.run [] (applyStep nested .variable words) fun _ => True :=
  Substitutes.read [] _ _ fun _ => Substitutes.value _ _ trivial

theorem expand_words_substitutes (nested : Nested σ) (lines : List Text) (words : List Word)
    (regions : Regions lines words) : Substitutes nested.run lines (expandWords nested words) fun _ => True := by
  refine Substitutes.seq [] lines _ _ _ _ (home_substitutes nested lines words regions) fun afterHome homeRegions => ?_
  refine Substitutes.seq [] lines _ _ _ _ (pattern_substitutes nested lines afterHome homeRegions)
    fun afterPattern patternRegions => ?_
  rw [← List.append_nil lines, ← patternRegions.lines]
  refine Substitutes.seq _ [] _ _ _ _ (command_substitutes nested afterPattern) fun afterCommand _ => ?_
  exact Substitutes.map [] _ id _ _ (variable_substitutes nested afterCommand) fun _ _ => trivial

end Expansion

end CommandShell
