import CommandShell.Proofs.Builtin.Failures
import CommandShell.Proofs.Execution.Feeding
import Mathlib.Data.List.Basic

set_option autoImplicit false

namespace CommandShell

namespace Text

def endsLine (t : Text) : Bool := t.getLast?.all (· == '\n')

-- The parts between blanks that have a character.
def words (t : Text) : List Text := (t.splitOnP isBlank).filter (· ≠ [])

theorem ends_line_iff (t : Text) : endsLine t = true ↔ t = [] ∨ ∃ front, t = front ++ ['\n'] := by
  induction t using List.reverseRecOn with
  | nil => simp [endsLine]
  | append_singleton front c _ =>
      rw [endsLine, List.getLast?_concat]
      simp

theorem ends_line_append (a b : Text) : endsLine (a ++ b) = if b = [] then endsLine a else endsLine b := by
  by_cases empty : b = []
  · rw [if_pos empty, empty, List.append_nil]
  · rw [if_neg empty, endsLine, List.getLast?_append_of_ne_nil a empty, endsLine]

theorem line_count_eq (t : Text) : lineCount t = t.count '\n' + if endsLine t then 0 else 1 := by
  induction t with
  | nil => rfl
  | cons c rest ih =>
      have ends := ends_line_append [c] rest
      rw [List.singleton_append] at ends
      rw [lineCount, ih, ends, List.count_cons]
      by_cases last : rest = []
      · by_cases newline : c = '\n' <;> simp [last, newline, endsLine]
      · by_cases newline : c = '\n' <;> simp [last, newline, Nat.add_assoc, Nat.add_left_comm]

theorem line_count_append (a b : Text) (ends : endsLine a = true) : lineCount (a ++ b) = lineCount a + lineCount b := by
  rw [line_count_eq, line_count_eq, line_count_eq, List.count_append, ends_line_append, ends]
  by_cases empty : b = []
  · simp [empty, endsLine]
  · simp [empty, Nat.add_assoc]

theorem words_nil : words [] = [] := by simp [words, List.splitOnP_nil]

theorem words_break (a b : Text) (c : Char) (blank : isBlank c = true) : words (a ++ c :: b) = words a ++ words b := by
  rw [words, List.splitOnP_append_cons a b blank, List.filter_append, words, words]

theorem first_part (t : Text) :
    ∃ first parts, t.splitOnP isBlank = first :: parts ∧ (t.head?.all isBlank = true ↔ first = []) := by
  cases t with
  | nil => exact ⟨[], [], List.splitOnP_nil, by simp⟩
  | cons c rest =>
      rw [List.splitOnP_cons_eq_if_modifyHead]
      by_cases blank : isBlank c = true
      · exact ⟨[], _, if_pos blank, by simp [blank]⟩
      · obtain ⟨first, parts, split⟩ := List.exists_cons_of_ne_nil (List.splitOnP_ne_nil isBlank rest)
        rw [if_neg blank, split]
        exact ⟨c :: first, parts, rfl, by simp [blank]⟩

theorem word_count_cons (c : Char) (rest : Text) : wordCount (c :: rest) =
    (if !isBlank c && rest.head?.all isBlank then 1 else 0) + wordCount rest := by
  cases rest <;> simp [wordCount]

theorem word_count_eq (t : Text) : wordCount t = (words t).length := by
  induction t with
  | nil => rw [words_nil, wordCount, List.length_nil]
  | cons c rest ih =>
      rw [word_count_cons, ih]
      by_cases blank : isBlank c = true
      · have apart := words_break [] rest c blank
        rw [List.nil_append, words_nil, List.nil_append] at apart
        simp [apart, blank]
      · obtain ⟨first, parts, split, empty⟩ := first_part rest
        have joined : words (c :: rest) = (c :: first) :: parts.filter (· ≠ []) := by
          simp [words, List.splitOnP_cons_eq_if_modifyHead, blank, split]
        rw [joined, words, split]
        by_cases ended : first = []
        · simp [blank, empty.2 ended, ended, Nat.add_comm]
        · simp [mt empty.1 ended, ended]

theorem word_count_append (a b : Text) (ends : endsLine a = true) : wordCount (a ++ b) = wordCount a + wordCount b := by
  rcases (ends_line_iff a).1 ends with rfl | ⟨front, rfl⟩
  · rw [List.nil_append, wordCount, Nat.zero_add]
  · have whole := words_break front b '\n' rfl
    have alone := words_break front [] '\n' rfl
    rw [List.append_assoc, List.singleton_append, word_count_eq, word_count_eq, word_count_eq, whole, alone, words_nil,
      List.append_nil, List.length_append]

end Text

namespace Counts

instance : Zero Counts := ⟨⟨0, 0, 0⟩⟩

instance : Add Counts := ⟨fun a b => ⟨a.lines + b.lines, a.words + b.words, a.bytes + b.bytes⟩⟩

theorem add_def (a b : Counts) : a + b = ⟨a.lines + b.lines, a.words + b.words, a.bytes + b.bytes⟩ := rfl

theorem add_zero (a : Counts) : a + 0 = a := rfl

theorem of_text_eq (t : Text) :
    ofText t = ⟨t.count '\n' + if t.endsLine then 0 else 1, t.words.length, (Text.utf8 t).length⟩ := by
  rw [ofText, Text.line_count_eq, Text.word_count_eq, Text.length_utf8]

theorem of_text_append (a b : Text) (ends : a.endsLine = true) : ofText (a ++ b) = ofText a + ofText b := by
  rw [add_def, ofText, Text.line_count_append a b ends, Text.word_count_append a b ends, Text.byte_length_append]
  rfl

theorem of_text_flatten (texts : List Text) (ends : ∀ t ∈ texts.dropLast, t.endsLine = true) :
    ofText texts.flatten = (texts.map ofText).sum := by
  induction texts with
  | nil => rfl
  | cons t rest ih =>
      rw [List.flatten_cons, List.map_cons, List.sum_cons]
      cases rest with
      | nil => rw [List.flatten_nil, List.append_nil, List.map_nil, List.sum_nil, add_zero]
      | cons u more =>
          rw [List.dropLast_cons_cons] at ends
          rw [of_text_append t _ (ends t List.mem_cons_self), ih fun v member => ends v (List.mem_cons_of_mem t member)]

end Counts

namespace Builtin

def HoldsText (fs : FileSystem) (s : Session) (name text : Text) : Prop :=
  fs.open? (Path.join s.directory name) >>= Entry.read = .ok (Text.utf8 text)

section Files

variable (fs : FileSystem) (s : Session)

theorem over_files_all (write : Text → Bytes → Except BuiltinError (List Bytes)) (names : List Text)
    (written : List (List Bytes)) (each : List.Forall₂ (Writes fs s write) names written) :
    overFiles fs s write names = (written.flatten, .ok 0) := by
  induction each with
  | nil => rfl
  | @cons name writes names written first rest ih =>
      rcases over_files_cons fs s write name names with ⟨others, wrote, goesOn⟩ | ⟨nothing, _⟩
      · obtain ⟨content, read, these⟩ := first
        obtain ⟨content', read', those⟩ := wrote
        cases read.symm.trans read'
        cases these.symm.trans those
        rw [goesOn, ih]
        rfl
      · exact absurd first (nothing writes)

theorem decode_utf8 (t : Text) : decode (Text.utf8 t) = .ok t := by rw [decode, Bytes.text_utf8]

def textWrites : Builtin → Text × Text → List Bytes
  | wc, (name, text) => [Text.utf8 ((Counts.ofText text).text ++ ' ' :: name ++ ['\n'])]
  | _, (_, text) => (Text.utf8 text).pieces

theorem writes_text (b : Builtin) (reads : b = cat ∨ b = wc) (f : Text × Text) (holds : HoldsText fs s f.1 f.2) :
    Writes fs s b.fileWrites f.1 (b.textWrites f) := by
  refine ⟨Text.utf8 f.2, holds, ?_⟩
  rcases reads with rfl | rfl
  · rfl
  · rw [fileWrites, decode_utf8]
    rfl

variable (arguments : List Text) (a : Arguments) (input : List Bytes) (files : List (Text × Text))

theorem run_files (b : Builtin) (reads : b = cat ∨ b = wc) (parsed : b.signature.parse arguments = .ok (.run a))
    (named : a.values = files.map Prod.fst) (given : files ≠ []) (hold : ∀ f ∈ files, HoldsText fs s f.1 f.2) :
    b.run fs arguments input s = ({ writes := files.flatMap b.textWrites }, s) := by
  have some : a.values ≠ [] := by rw [named]; exact mt List.map_eq_nil_iff.1 given
  have each : List.Forall₂ (Writes fs s b.fileWrites) a.values (files.map b.textWrites) := by
    rw [named, List.forall₂_map_left_iff, List.forall₂_map_right_iff, List.forall₂_same]
    exact fun f member => writes_text fs s b reads f (hold f member)
  rw [run_parsed fs b input s arguments a parsed, perform_files fs s b reads a input some,
    over_files_all fs s _ _ _ each, List.flatMap_def]
  rfl

theorem run_wc_input (t : Text) (parsed : wc.signature.parse arguments = .ok (.run a)) (none : a.values = [])
    (given : input.flatten = Text.utf8 t) :
    wc.run fs arguments input s = ({ writes := [Text.utf8 ((Counts.ofText t).text ++ ['\n'])] }, s) := by
  have counted : wc.perform fs a input s = printLine s (Counts.ofText t).text := by
    rw [perform, none, given, decode_utf8]
    rfl
  rw [run_parsed fs wc input s arguments a parsed, counted]
  rfl

end Files

theorem cat_output (files : List (Text × Text)) :
    (files.flatMap cat.textWrites).flatten = Text.utf8 (files.map Prod.snd).flatten := by
  induction files with
  | nil => rfl
  | cons f rest ih =>
      have first : (cat.textWrites f).flatten = Text.utf8 f.2 := pieces_flatten (Text.utf8 f.2)
      rw [List.flatMap_cons, List.flatten_append, ih, first, List.map_cons, List.flatten_cons, Text.utf8, Text.utf8,
        Text.utf8, List.flatMap_append]

theorem run_stage_builtin (host : Host) (nested : LineRunner) (source : Source) (stdout stderr : Sink) (b : Builtin)
    (arguments : List Text) (w : World) :
    (runStage host nested source stdout stderr (.simple (b.name :: arguments))).run.run w =
      let (effect, after) := w.runBuiltin b arguments source
      let (left, last) := after.deliver stdout stderr effect
      (.ok left, last) := by
  rw [run_stage_simple, World.runSimple, World.runNamed, Command.find_named w.files w.session b.name b rfl]
  rfl

theorem run_builtin_wc (w : World) (t : Text) :
    w.runBuiltin wc [] (.input ⟨Text.utf8 t⟩) =
      ({ writes := [Text.utf8 ((Counts.ofText t).text ++ ['\n'])] }, w) := by
  have reads : wc.consumesInput [] = true := rfl
  rw [World.runBuiltin, reads]
  simp only [if_true]
  rw [run_wc_input w.files w.session [] {} _ t rfl rfl (input_of_bytes w (Text.utf8 t))]
  rfl

section Piped

variable (w : World) (arguments : List Text) (a : Arguments) (files : List (Text × Text))
  (parsed : cat.signature.parse arguments = .ok (.run a)) (named : a.values = files.map Prod.fst) (given : files ≠ [])
  (hold : ∀ f ∈ files, HoldsText w.files w.session f.1 f.2)

include parsed named given hold

theorem run_builtin_cat (source : Source) :
    w.runBuiltin cat arguments source = ({ writes := files.flatMap cat.textWrites }, w) := by
  have unread : cat.consumesInput arguments = false := by
    rw [consumesInput, parsed]
    simpa [readsInput, named] using given
  rw [World.runBuiltin, unread]
  simp only [Bool.false_eq_true, if_false]
  rw [run_files w.files w.session arguments a [] files cat (.inl rfl) parsed named given hold]

theorem run_stages_counted (host : Host) (nested : LineRunner) (sink : Sink) (source : Source)
    (ends : ∀ f ∈ files.dropLast, f.2.endsLine = true) :
    let counted := Text.utf8 ((files.map fun f => Counts.ofText f.2).sum.text ++ ['\n'])
    (runStages host nested sink source (.simple (cat.name :: arguments)) [.simple [wc.name]]).run.run w =
      match sink with
      | .capture => (.ok { writes := [counted] }, w)
      | .console =>
        (.ok {}, { w with console := ((w.console.writeErrors []).write counted).writeErrors [] }) := by
  intro counted
  have whole : Counts.ofText (files.map Prod.snd).flatten = (files.map fun f => Counts.ofText f.2).sum := by
    rw [Counts.of_text_flatten, List.map_map]
    · rfl
    · intro t member
      rw [← List.map_dropLast] at member
      obtain ⟨f, inFiles, rfl⟩ := List.mem_map.1 member
      exact ends f inFiles
  have passed := cat_output files
  have counts (v : World) := run_builtin_wc v (files.map Prod.snd).flatten
  rw [whole] at counts
  rw [run_stages_more, run_stage_builtin, run_builtin_cat w arguments a files parsed named given hold]
  cases sink <;> simp [World.deliver, Effect.output, passed, runStages, run_stage_builtin, counts, Except.map, counted]

theorem run_line_counted (host : Host) (sink : Sink) (line : Text) (start : World)
    (runs : RunsAs host line start ⟨[⟨.simple ("cat".toList :: arguments), [.simple ["wc".toList]]⟩], false⟩ w)
    (ends : ∀ f ∈ files.dropLast, f.2.endsLine = true) :
    let counted := (files.map fun f => Counts.ofText f.2).sum.text ++ ['\n']
    (runLine host sink line).run.run start = match sink with
      | .capture => (.ok { output := some counted }, w)
      | .console =>
        (.ok {}, { w with console := ((w.console.writeErrors []).write (Text.utf8 counted)).writeErrors [] }) := by
  intro counted
  have nonempty : counted ≠ [] := List.append_ne_nil_of_right_ne_nil _ (List.cons_ne_nil _ _)
  have written := Bytes.written_utf8 (some counted)
  rw [Option.getD_some] at written
  have ran := run_stages_counted w arguments a files parsed named given hold host (runLine host) sink (firstSource sink)
    ends
  rw [run_line_runs_as host sink line start w _ runs, run_pipelines_one, run_pipeline_stages]
  change ((((runStages host (runLine host) sink (firstSource sink) (.simple (cat.name :: arguments))
    [.simple [wc.name]]).run.run w).map _ id).map _ id) = _
  rw [ran]
  cases sink with
  | console => rfl
  | capture =>
      simp only [Prod.map, Except.map, Outcome.followed_by_first, Effect.outcome, Effect.output, List.flatten_singleton]
      rw [written]
      simp [Outcome.withoutEmpty, Option.filter_some, nonempty, Bytes.written?]

end Piped

theorem wc_counts_add :
    (∀ t, Counts.ofText t = ⟨t.count '\n' + if t.endsLine then 0 else 1, t.words.length, (Text.utf8 t).length⟩) ∧
    (∀ fs s arguments a input t, wc.signature.parse arguments = .ok (.run a) → a.values = [] →
      input.flatten = Text.utf8 t →
      wc.run fs arguments input s = ({ writes := [Text.utf8 ((Counts.ofText t).text ++ ['\n'])] }, s)) ∧
    (∀ fs s arguments a input files, wc.signature.parse arguments = .ok (.run a) → a.values = files.map Prod.fst →
      files ≠ [] → (∀ f ∈ files, HoldsText fs s f.1 f.2) →
      wc.run fs arguments input s =
        ({ writes := files.map fun f => Text.utf8 ((Counts.ofText f.2).text ++ ' ' :: f.1 ++ ['\n']) }, s)) ∧
    (∀ a b : Text, a = [] ∨ (∃ front, a = front ++ ['\n']) →
      Counts.ofText (a ++ b) = Counts.ofText a + Counts.ofText b) ∧
    ∀ host sink line start w arguments a files,
      RunsAs host line start ⟨[⟨.simple ("cat".toList :: arguments), [.simple ["wc".toList]]⟩], false⟩ w →
      cat.signature.parse arguments = .ok (.run a) → a.values = files.map Prod.fst → files ≠ [] →
      (∀ f ∈ files, HoldsText w.files w.session f.1 f.2) →
      (∀ f ∈ files.dropLast, f.2 = [] ∨ ∃ front, f.2 = front ++ ['\n']) →
      let counted := (files.map fun f => Counts.ofText f.2).sum.text ++ ['\n']
      (runLine host sink line).run.run start = match sink with
        | .capture => (.ok { output := some counted }, w)
        | .console =>
          (.ok {}, { w with console := ((w.console.writeErrors []).write (Text.utf8 counted)).writeErrors [] }) := by
  refine ⟨Counts.of_text_eq, run_wc_input, ?_, fun a b ends => ?_, ?_⟩
  · intro fs s arguments a input files parsed named given hold
    rw [run_files fs s arguments a input files wc (.inr rfl) parsed named given hold, List.flatMap_def]
    have single : files.map wc.textWrites =
        (files.map fun f => Text.utf8 ((Counts.ofText f.2).text ++ ' ' :: f.1 ++ ['\n'])).map fun bytes => [bytes] := by
      rw [List.map_map]
      rfl
    rw [single, ← List.flatMap_def, List.flatMap_singleton']
  · exact Counts.of_text_append a b ((Text.ends_line_iff a).2 ends)
  · intro host sink line start w arguments a files runs parsed named given hold ends
    exact run_line_counted w arguments a files parsed named given hold host sink line start runs fun f member =>
      (Text.ends_line_iff f.2).2 (ends f member)

-- The second file ends without a newline, has a carriage return in it, and its words stand apart by a blank of 3 bytes.
theorem wc_counts_add_piped :
    let first := "a b\n".toList
    let second := "c\u3000d\r\ne".toList
    let w : World := { session := .start Calculator.eval {} ['/'] ['/'],
                       files := { entries := [([['f']], .file (Text.utf8 first) false),
                                              ([['g']], .file (Text.utf8 second) false)] } }
    ∀ host, HoldsText w.files w.session ['f'] first ∧ HoldsText w.files w.session ['g'] second ∧
      wc.run w.files [['f'], ['g']] [] w.session =
        ({ writes := [Text.utf8 "1 2 4 f\n".toList, Text.utf8 "2 3 8 g\n".toList] }, w.session) ∧
      (runLine host .capture "cat f g | wc".toList).run.run w = (.ok { output := some "3 5 12\n".toList }, w) := by
  intro first second w host
  let files := [(['f'], first), (['g'], second)]
  have holdFirst : HoldsText w.files w.session ['f'] first := rfl
  have holdSecond : HoldsText w.files w.session ['g'] second := rfl
  have hold : ∀ f ∈ files, HoldsText w.files w.session f.1 f.2 := by simp [files, holdFirst, holdSecond]
  let list : CommandList Word :=
    ⟨[⟨.simple [.bare "cat".toList, .bare ['f'], .bare ['g']], [.simple [.bare "wc".toList]]⟩], false⟩
  have wellFormed : list.WellFormed :=
    ⟨by simp [list, Pipeline.WellFormed, Pipeline.stages, Stage.WellFormed], by simp [list]⟩
  have parsed := CommandList.of_line_flatten "cat f g | wc".toList list wellFormed rfl
  have runs : RunsAs host "cat f g | wc".toList w
      ⟨[⟨.simple ["cat".toList, ['f'], ['g']], [.simple ["wc".toList]]⟩], false⟩ w :=
    ⟨⟨list, parsed, List.cons_ne_nil _ _, rfl⟩, rfl, rfl⟩
  have ends : ∀ f ∈ files.dropLast, f.2 = [] ∨ ∃ front, f.2 = front ++ ['\n'] := by
    intro f member
    obtain rfl := List.mem_singleton.1 member
    exact .inr ⟨"a b".toList, rfl⟩
  let a : Arguments := { values := [['f'], ['g']] }
  have each : files.map (fun f => Text.utf8 ((Counts.ofText f.2).text ++ ' ' :: f.1 ++ ['\n'])) =
      [Text.utf8 "1 2 4 f\n".toList, Text.utf8 "2 3 8 g\n".toList] := by decide
  have total : (files.map fun f => Counts.ofText f.2).sum.text ++ ['\n'] = "3 5 12\n".toList := by decide
  obtain ⟨_, _, named, _, piped⟩ := wc_counts_add
  refine ⟨holdFirst, holdSecond, ?_, ?_⟩
  · rw [← each]
    exact named w.files w.session [['f'], ['g']] a [] files rfl rfl (List.cons_ne_nil _ _) hold
  · rw [← total]
    exact piped host .capture _ w w [['f'], ['g']] a files runs rfl rfl (List.cons_ne_nil _ _) hold ends

end Builtin

end CommandShell
