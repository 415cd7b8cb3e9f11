import CommandShell.Execution.Line
import CommandShell.Proofs.Execution.Sequencing
import CommandShell.Proofs.Syntax.Flattening
import CommandShell.Proofs.Syntax.Runs
import Mathlib.Data.List.SplitBy

set_option autoImplicit false

namespace CommandShell

open Text

def quotePart (part : Text) : Text :=
  if part = ['\''] then ['"', '\'', '"'] else '\'' :: (part ++ ['\''])

-- Cuts at every single quote: it is a part by itself, and between two of them lies one part at most.
def quoteParts (argument : Text) : List Text := argument.splitBy fun a b => a != '\'' && b != '\''

-- The two quotes in front give the word its mark, and make an empty argument a word.
def quoteArgument (argument : Text) : Text := ['\'', '\''] ++ (quoteParts argument).flatMap quotePart

def quoteLine (arguments : List Text) : Text := Text.join [' '] (arguments.map quoteArgument)

def argumentWord (argument : Text) : Word := ⟨argument, some .single, []⟩

theorem quote_parts_flatten (argument : Text) : (quoteParts argument).flatten = argument :=
  List.flatten_splitBy _ argument

theorem uncut_free (a b : Char) (rest : Text)
    (uncut : (a :: b :: rest).IsChain fun x y => (x != '\'' && y != '\'') = true) : '\'' ∉ a :: b :: rest := by
  induction rest generalizing a b with
  | nil =>
      obtain ⟨left, right⟩ : a ≠ '\'' ∧ b ≠ '\'' := by simpa using uncut
      simp [left.symm, right.symm]
  | cons c more ih =>
      obtain ⟨first, others⟩ := List.isChain_cons_cons.1 uncut
      obtain ⟨left, _⟩ : a ≠ '\'' ∧ b ≠ '\'' := by simpa using first
      exact List.not_mem_cons_of_ne_of_not_mem left.symm (ih b c others)

theorem quote_parts_free (argument part : Text) (member : part ∈ quoteParts argument) :
    part = ['\''] ∨ '\'' ∉ part := by
  have chain := List.isChain_of_mem_splitBy member
  cases part with
  | nil => exact .inr (by simp)
  | cons a rest =>
      cases rest with
      | nil =>
          by_cases single : a = '\''
          · exact .inl (by rw [single])
          · exact .inr (by simpa using Ne.symm single)
      | cons b more => exact .inr (uncut_free a b more chain)

theorem quote_line_one (argument : Text) : quoteLine [argument] = quoteArgument argument := by
  rw [quoteLine, List.map_singleton, Text.join, List.intercalate_singleton]

theorem quote_line_more (argument next : Text) (more : List Text) :
    quoteLine (argument :: next :: more) = quoteArgument argument ++ [' '] ++ quoteLine (next :: more) := by
  simp [quoteLine, Text.join, List.intercalate_cons_cons]

namespace Mode

theorem read_part (t part : Text) (column : Nat) (cut : part = ['\''] ∨ '\'' ∉ part) :
    (word (argumentWord t).draft).read column (quotePart part) = .ok (word (argumentWord (t ++ part)).draft, []) := by
  by_cases single : part = ['\'']
  · subst single
    exact read_quoted (argumentWord t) .double ['\''] column (by decide)
  · have free : '\'' ∉ part := cut.resolve_left single
    rw [quotePart, if_neg single]
    exact read_quoted (argumentWord t) .single part column free

theorem read_parts (t : Text) (parts : List Text) (column : Nat) (cut : ∀ part ∈ parts, part = ['\''] ∨ '\'' ∉ part) :
    (word (argumentWord t).draft).read column (parts.flatMap quotePart) =
      .ok (word (argumentWord (t ++ parts.flatten)).draft, []) := by
  induction parts generalizing t column with
  | nil => simp [read_nil]
  | cons part rest ih =>
      have first := read_part t part column (cut part List.mem_cons_self)
      have others := ih (t ++ part) (column + (quotePart part).length) fun p member =>
        cut p (List.mem_cons_of_mem part member)
      rw [List.append_assoc] at others
      exact read_append_ok _ _ _ _ _ _ [] [] first others

theorem read_argument (argument : Text) (column : Nat) :
    between.read column (quoteArgument argument) = .ok (word (argumentWord argument).draft, []) := by
  have first := read_first_quoted .single [] column (by simp)
  have others := read_parts [] (quoteParts argument) (column + 2) (quote_parts_free argument)
  rw [quote_parts_flatten] at others
  exact read_append_ok _ _ _ _ _ _ [] [] first others

theorem read_arguments (argument : Text) (others : List Text) (column : Nat) :
    ∃ complete last, between.read column (quoteLine (argument :: others)) = .ok (word last.draft, complete) ∧
      complete ++ [.word last] = (argument :: others).map (Token.word ∘ argumentWord) := by
  induction others generalizing argument column with
  | nil =>
      refine ⟨[], argumentWord argument, ?_, rfl⟩
      rw [quote_line_one]
      exact read_argument argument column
  | cons next more ih =>
      have first := read_word_end (argumentWord argument) _ column (read_argument argument column)
      obtain ⟨complete, last, reading, whole⟩ := ih next (column + (quoteArgument argument ++ [' ']).length)
      refine ⟨.word (argumentWord argument) :: complete, last, ?_, by simpa using whole⟩
      rw [quote_line_more]
      exact read_append_ok _ _ _ _ _ _ _ complete first reading

end Mode

theorem scan_quote_line (argument : Text) (others : List Text) :
    scan (quoteLine (argument :: others)) = .ok ((argument :: others).map (Token.word ∘ argumentWord)) := by
  obtain ⟨complete, last, reading, whole⟩ := Mode.read_arguments argument others 0
  exact (scan_ok_iff _ _).2 ⟨_, complete, [.word last.draft.word], reading, rfl, by rw [last.word_draft, whole]⟩

structure Word.Inert (w : Word) : Prop where
  mark : w.quote = some .single
  noRegion : w.commands = []

namespace Expansion

variable {σ : Type}

theorem expand_commands_inert (nested : Nested σ) (words : List Word) (inert : ∀ w ∈ words, w.Inert) :
    words.mapM (Word.expandCommands nested) = pure words := by
  induction words with
  | nil => rfl
  | cons w rest ih =>
      have first : Word.expandCommands nested w = pure w := by
        simp [Word.expandCommands, (inert w List.mem_cons_self).noRegion]
      rw [List.mapM_cons, first, ih fun other member => inert other (List.mem_cons_of_mem w member)]
      simp

theorem apply_step_inert (nested : Nested σ) (step : Step) (words : List Word) (inert : ∀ w ∈ words, w.Inert)
    (state : σ) : (applyStep nested step words).run.run state = (.ok words, state) := by
  have quoted (w : Word) (member : w ∈ words) : w.isQuoted = true := by
    simp [Word.isQuoted, (inert w member).mark]
  have kept (f : Word → Word) (same : ∀ w ∈ words, f w = w) : words.map f = words :=
    (List.map_congr_left same).trans (List.map_id words)
  cases step with
  | home =>
      have same := kept (Word.expandHome (nested.session state).home) fun w member => if_pos (quoted w member)
      exact congrArg (fun after => (Except.ok after, state)) same
  | pattern =>
      have one (names : List Text) (w : Word) (member : w ∈ words) : w.expandPattern names = [w] := by
        simp [Word.expandPattern, Word.hasPattern, quoted w member]
      have same (names : List Text) : words.flatMap (Word.expandPattern names) = words := by
        rw [List.flatMap_congr (one names), List.flatMap_singleton']
      exact congrArg (fun after => (Except.ok after, state)) (same _)
  | command =>
      have same := expand_commands_inert nested words inert
      exact congrArg (fun run : Run σ (List Word) => run.run.run state) same
  | «variable» =>
      have same := kept (Word.expandVariables (nested.session state).bindings) fun w member => by
        rw [Word.expandVariables, (inert w member).mark]
      exact congrArg (fun after => (Except.ok after, state)) same

theorem apply_steps_inert (nested : Nested σ) (steps : List Step) (words : List Word) (inert : ∀ w ∈ words, w.Inert)
    (state : σ) : (applySteps nested steps words).run.run state = (.ok words, state) := by
  induction steps with
  | nil => rfl
  | cons step rest ih =>
      have first := apply_step_inert nested step words inert state
      rw [applySteps, List.foldlM_cons, Run.run_bind_ok _ _ _ _ _ first]
      exact ih

theorem expand_words_inert (nested : Nested σ) (words : List Word) (inert : ∀ w ∈ words, w.Inert) (state : σ) :
    (expandWords nested words).run.run state = (.ok words, state) :=
  apply_steps_inert nested steps words inert state

end Expansion

theorem expand_command_inert (nested : LineRunner) (words : List Word) (inert : ∀ w ∈ words, w.Inert) (w : World) :
    (expandCommand nested words).run.run w = (.ok (words.map Word.text), w) := by
  have expanded := Expansion.expand_words_inert ⟨World.session, World.files, nested .capture⟩ words inert w
  rw [expandCommand, Run.run_bind_ok _ _ _ _ _ expanded]
  rfl

theorem argument_words_inert (arguments : List Text) : ∀ w ∈ arguments.map argumentWord, w.Inert := by
  intro w member
  obtain ⟨text, _, rfl⟩ := List.mem_map.1 member
  exact ⟨rfl, rfl⟩

theorem argument_words_text (arguments : List Text) : (arguments.map argumentWord).map Word.text = arguments := by
  simp [argumentWord, Function.comp_def]

theorem quoted_arguments_inert (arguments : List Text) (nonempty : arguments ≠ []) :
    ∃ words, CommandList.ofLine (quoteLine arguments) = .ok ⟨[⟨.simple words, []⟩], false⟩ ∧
      words.map Word.text = arguments ∧
      (∀ (σ : Type) (nested : Nested σ) (state : σ),
        (Expansion.expandWords nested words).run.run state = (.ok words, state)) ∧
      ∀ (nested : LineRunner) (w : World), (expandCommand nested words).run.run w = (.ok arguments, w) := by
  obtain ⟨argument, others, rfl⟩ := List.exists_cons_of_ne_nil nonempty
  have inert := argument_words_inert (argument :: others)
  have texts := argument_words_text (argument :: others)
  refine ⟨_, ?_, texts, fun σ nested state => ?_, fun nested w => ?_⟩
  · have scanned := scan_quote_line argument others
    rw [← List.map_map] at scanned
    exact CommandList.of_line_one _ (.simple _) (by simp [Stage.WellFormed]) scanned
  · exact Expansion.expand_words_inert nested _ inert state
  · rw [expand_command_inert nested _ inert w, texts]

theorem quoted_arguments_inert_signs :
    ["it's".toList, [], "`$~*`|".toList] ≠ [] ∧
      ∃ words, CommandList.ofLine "'''it'\"'\"'s' '' '''`$~*`|'".toList = .ok ⟨[⟨.simple words, []⟩], false⟩ ∧
        words.map Word.text = ["it's".toList, [], "`$~*`|".toList] ∧
        (∀ (σ : Type) (nested : Nested σ) (state : σ),
          (Expansion.expandWords nested words).run.run state = (.ok words, state)) ∧
        ∀ (nested : LineRunner) (w : World),
          (expandCommand nested words).run.run w = (.ok ["it's".toList, [], "`$~*`|".toList], w) := by
  have line : quoteLine ["it's".toList, [], "`$~*`|".toList] = "'''it'\"'\"'s' '' '''`$~*`|'".toList := by decide
  rw [← line]
  exact ⟨by simp, quoted_arguments_inert _ (by simp)⟩

end CommandShell
