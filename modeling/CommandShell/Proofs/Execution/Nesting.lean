import CommandShell.Execution.Line
import CommandShell.Proofs.Expansion.Substitution
import CommandShell.Proofs.Syntax.Enclosed

set_option autoImplicit false

namespace CommandShell

theorem Run.bind_congr {σ α β : Type} (first : Run σ α) (next next' : α → Run σ β)
    (same : ∀ s last v, first.run.run s = (.ok v, last) → next v = next' v) : first >>= next = first >>= next' := by
  funext s
  change (first >>= next).run.run s = (first >>= next').run.run s
  rw [Run.run_bind, Run.run_bind]
  cases ran : first.run.run s with
  | mk result last =>
      cases result with
      | error failure => rfl
      | ok v => simp only [same s last v ran]

theorem map_run_congr {σ α β : Type} (f g : α → Run σ β) (items : List α) (same : ∀ a ∈ items, f a = g a) :
    items.mapM f = items.mapM g := by
  induction items with
  | nil => rfl
  | cons a rest ih =>
      have others := ih fun b member => same b (List.mem_cons_of_mem a member)
      rw [List.mapM_cons, List.mapM_cons, same a List.mem_cons_self, others]

namespace Stage

def regions (s : Stage Word) : List Text := (s.words?.getD []).flatMap Word.lines

theorem map_words_congr {σ : Type} (f g : List Word → Run σ (List Text)) (s : Stage Word)
    (same : ∀ words ∈ s.words?, f words = g words) : s.mapWordsM f = s.mapWordsM g := by
  cases s with
  | simple words => exact congrArg (simple <$> ·) (same words rfl)
  | subshell body => rfl

theorem map_words_substitutes {σ : Type} (run : Text → Run σ Outcome) (f : List Word → Run σ (List Text))
    (s : Stage Word)
    (each : ∀ words ∈ s.words?, Substitutes run (words.flatMap Word.lines) (f words) fun _ => True) :
    Substitutes run s.regions (s.mapWordsM f) fun t => t.body? = s.body? := by
  cases s with
  | simple words =>
      rw [mapWordsM, map_eq_pure_bind]
      exact Substitutes.map _ _ _ _ _ (each words rfl) fun _ _ => rfl
  | subshell body => exact Substitutes.value _ _ rfl

end Stage

namespace Pipeline

def shape {α : Type} (p : Pipeline α) : List (Option Text) := p.stages.map Stage.body?

theorem map_words_congr {σ : Type} (f g : List Word → Run σ (List Text)) (p : Pipeline Word)
    (same : ∀ s ∈ p.stages, ∀ words ∈ s.words?, f words = g words) : p.mapWordsM f = p.mapWordsM g := by
  have first := p.first.map_words_congr f g (same p.first List.mem_cons_self)
  have rest := map_run_congr (Stage.mapWordsM f) (Stage.mapWordsM g) p.rest fun s member =>
    s.map_words_congr f g (same s (List.mem_cons_of_mem _ member))
  rw [mapWordsM, mapWordsM, first, rest]

theorem map_words_substitutes {σ : Type} (run : Text → Run σ Outcome) (f : List Word → Run σ (List Text))
    (p : Pipeline Word) (each : ∀ s ∈ p.stages, ∀ words ∈ s.words?,
      Substitutes run (words.flatMap Word.lines) (f words) fun _ => True) :
    Substitutes run (p.stages.flatMap Stage.regions) (p.mapWordsM f) fun q => q.shape = p.shape := by
  have first := p.first.map_words_substitutes run f (each p.first List.mem_cons_self)
  have rest := Substitutes.each Stage.regions (Stage.mapWordsM f) Stage.body? Stage.body? p.rest fun s member =>
    s.map_words_substitutes run f (each s (List.mem_cons_of_mem _ member))
  refine Substitutes.seq _ _ _ _ _ _ first fun s firstBody => ?_
  refine Substitutes.map _ _ _ _ _ rest fun others otherBodies => ?_
  rw [shape, shape, stages, stages, List.map_cons, List.map_cons, firstBody, otherBodies]

end Pipeline

namespace CommandList

theorem mem_commands (list : CommandList Word) (p : Pipeline Word) (s : Stage Word) (words : List Word)
    (pipeline : p ∈ list.pipelines) (stage : s ∈ p.stages) (isWords : words ∈ s.words?) : words ∈ list.commands :=
  List.mem_flatMap.2 ⟨p, pipeline, List.mem_filterMap.2 ⟨s, stage, isWords⟩⟩

theorem map_words_congr {σ : Type} (f g : List Word → Run σ (List Text)) (list : CommandList Word)
    (same : ∀ words ∈ list.commands, f words = g words) : list.mapWordsM f = list.mapWordsM g := by
  have pipelines := map_run_congr (Pipeline.mapWordsM f) (Pipeline.mapWordsM g) list.pipelines fun p pipeline =>
    p.map_words_congr f g fun s stage words isWords => same words (list.mem_commands p s words pipeline stage isWords)
  rw [mapWordsM, mapWordsM, pipelines]

theorem regions_by_stage (list : CommandList Word) :
    list.regions = list.pipelines.flatMap fun p => p.stages.flatMap Stage.regions := by
  rw [regions, commands, List.flatMap_assoc]
  refine List.flatMap_congr fun p _ => ?_
  induction p.stages with
  | nil => rfl
  | cons s rest ih =>
      rw [List.flatMap_cons, ← ih]
      cases s with
      | simple words => rfl
      | subshell body => rfl

theorem map_words_substitutes {σ : Type} (run : Text → Run σ Outcome) (f : List Word → Run σ (List Text))
    (list : CommandList Word)
    (each : ∀ words ∈ list.commands, Substitutes run (words.flatMap Word.lines) (f words) fun _ => True) :
    Substitutes run list.regions (list.mapWordsM f) fun expanded =>
      expanded.pipelines.map Pipeline.shape = list.pipelines.map Pipeline.shape := by
  have pipelines := Substitutes.each (fun p => p.stages.flatMap Stage.regions) (Pipeline.mapWordsM f) Pipeline.shape
    Pipeline.shape list.pipelines fun p pipeline => p.map_words_substitutes run f fun s stage words isWords =>
      each words (list.mem_commands p s words pipeline stage isWords)
  rw [list.regions_by_stage]
  exact Substitutes.map _ _ _ _ _ pipelines fun _ same => same

theorem bodies_of_shapes {α : Type} (list : CommandList α) :
    list.bodies = (list.pipelines.map Pipeline.shape).flatMap (List.filterMap id) := by
  simp only [bodies, Pipeline.shape, List.flatMap_map, List.filterMap_map, Function.id_comp]

end CommandList

theorem words_marked (line : Text) (list : CommandList Word) (parsed : CommandList.ofLine line = .ok list) :
    ∀ words ∈ list.commands, ∀ w ∈ words, w.Marked := by
  have wellFormed := (CommandList.of_tokens line list Token.WellFormed parsed fun tokens =>
    scan_well_formed line tokens).1
  intro words command w member unmarked
  have bare : w.WellFormed := wellFormed words command w member
  rw [Word.WellFormed, unmarked] at bare
  exact bare.1

theorem expand_list_substitutes (nested : LineRunner) (line : Text) (list : CommandList Word)
    (parsed : CommandList.ofLine line = .ok list) :
    Substitutes (nested .capture) list.regions (expandList nested list) fun expanded =>
      expanded.pipelines.map Pipeline.shape = list.pipelines.map Pipeline.shape := by
  refine list.map_words_substitutes _ _ fun words command => ?_
  exact Substitutes.map _ _ _ _ _ (Expansion.expand_words_substitutes ⟨World.session, World.files, nested .capture⟩ _
    words ⟨words_marked line list parsed words command, rfl⟩) fun _ _ => trivial

def LineRunner.AgreeOn (lines : List Text) (nested nested' : LineRunner) : Prop :=
  ∀ inner ∈ lines, ∀ sink, nested sink inner = nested' sink inner

abbrev LineRunner.captured (nested : LineRunner) : Nested World := ⟨World.session, World.files, nested .capture⟩

section Agreement

variable (host : Host) (nested nested' : LineRunner)

theorem expand_piece_congr (piece : Piece) (agree : LineRunner.AgreeOn piece.command?.toList nested nested') :
    Word.expandPiece nested.captured piece = Word.expandPiece nested'.captured piece := by
  cases piece with
  | plain text => rfl
  | command line => simp only [Word.expandPiece, agree line List.mem_cons_self .capture]

theorem expand_commands_congr (w : Word) (agree : LineRunner.AgreeOn w.lines nested nested') :
    w.expandCommands nested.captured = w.expandCommands nested'.captured := by
  have pieces : w.pieces.mapM (Word.expandPiece nested.captured) = w.pieces.mapM (Word.expandPiece nested'.captured) :=
    map_run_congr _ _ w.pieces fun piece member => expand_piece_congr nested nested' piece fun line isLine =>
      agree line (List.mem_filterMap.2 ⟨piece, member, by simpa using isLine⟩)
  rw [Word.expandCommands, Word.expandCommands, pieces]

theorem expand_command_congr (words : List Word) (marked : ∀ w ∈ words, w.Marked)
    (agree : LineRunner.AgreeOn (words.flatMap Word.lines) nested nested') :
    expandCommand nested words = expandCommand nested' words := by
  have home := Expansion.home_substitutes nested.captured _ words ⟨marked, rfl⟩
  have expanded : Expansion.expandWords nested.captured words = Expansion.expandWords nested'.captured words := by
    refine Run.bind_congr _ _ _ fun s last afterHome ran => ?_
    have homeRegions := home.yields _ _ _ s last afterHome ran
    have pattern := Expansion.pattern_substitutes nested.captured _ afterHome homeRegions
    refine Run.bind_congr _ _ _ fun s last afterPattern ran => ?_
    have regions := (pattern.yields _ _ _ s last afterPattern ran).lines
    have command : Expansion.applyStep nested.captured .command afterPattern =
        Expansion.applyStep nested'.captured .command afterPattern := by
      refine Run.bind_congr _ _ _ fun _ _ _ _ => map_run_congr _ _ afterPattern fun w member => ?_
      refine expand_commands_congr nested nested' w fun line isLine => agree line ?_
      rw [← regions]
      exact List.mem_flatMap.2 ⟨w, member, isLine⟩
    exact congrArg (· >>= _) command
  rw [expandCommand, expandCommand, expanded]

theorem run_stage_congr (source : Source) (stdout stderr : Sink) (s : Stage Text)
    (agree : LineRunner.AgreeOn s.body?.toList nested nested') :
    runStage host nested source stdout stderr s = runStage host nested' source stdout stderr s := by
  cases s with
  | simple words => rfl
  | subshell body => simp only [runStage, runSubshell, agree body List.mem_cons_self stdout]

theorem run_stages_congr (sink : Sink) (source : Source) (first : Stage Text) (rest : List (Stage Text))
    (agree : ∀ s ∈ first :: rest, LineRunner.AgreeOn s.body?.toList nested nested') :
    runStages host nested sink source first rest = runStages host nested' sink source first rest := by
  induction rest generalizing first source with
  | nil => exact run_stage_congr host nested nested' source sink sink first (agree first List.mem_cons_self)
  | cons next more ih =>
      have others (source : Source) := ih source next fun s member => agree s (List.mem_cons_of_mem first member)
      rw [runStages, runStages, run_stage_congr host nested nested' source .capture sink first
        (agree first List.mem_cons_self)]
      exact Run.bind_congr _ _ _ fun _ _ effect _ => congrArg (· >>= _) (others (.input ⟨effect.output⟩))

theorem run_pipelines_congr (sink : Sink) (done : Outcome) (pipelines : List (Pipeline Text))
    (agree : ∀ p ∈ pipelines, ∀ s ∈ p.stages, LineRunner.AgreeOn s.body?.toList nested nested') :
    runPipelines host nested sink done pipelines = runPipelines host nested' sink done pipelines := by
  induction pipelines generalizing done with
  | nil => rfl
  | cons p rest ih =>
      have first : runPipeline host nested sink p = runPipeline host nested' sink p := by
        rw [runPipeline, runPipeline, run_stages_congr host nested nested' sink _ p.first p.rest
          (agree p List.mem_cons_self)]
      have others (done : Outcome) := ih done fun q later => agree q (List.mem_cons_of_mem p later)
      rw [runPipelines, runPipelines, first]
      simp only [others]

theorem expand_list_congr (line : Text) (list : CommandList Word) (parsed : CommandList.ofLine line = .ok list)
    (agree : LineRunner.AgreeOn list.regions nested nested') : expandList nested list = expandList nested' list :=
  list.map_words_congr _ _ fun words command =>
    expand_command_congr nested nested' words (words_marked line list parsed words command) fun inner region =>
      agree inner (List.mem_flatMap.2 ⟨words, command, region⟩)

end Agreement

def NestedIn (inner line : Text) : Prop :=
  ∃ list, CommandList.ofLine line = .ok list ∧ inner ∈ list.regions ++ list.bodies

theorem run_line_with_congr (host : Host) (nested nested' : LineRunner) (sink : Sink) (line : Text)
    (agree : ∀ inner, NestedIn inner line → ∀ sink, nested sink inner = nested' sink inner) :
    runLineWith host nested sink line = runLineWith host nested' sink line := by
  cases parsed : CommandList.ofLine line with
  | error e => rw [runLineWith, runLineWith, parsed]
  | ok list =>
      have inside (inner : Text) (member : inner ∈ list.regions ++ list.bodies) : NestedIn inner line :=
        ⟨list, parsed, member⟩
      have regions : LineRunner.AgreeOn list.regions nested nested' := fun inner region =>
        agree inner (inside inner (List.mem_append_left _ region))
      rw [runLineWith, runLineWith, parsed]
      by_cases empty : list.pipelines.isEmpty = true
      · simp only [if_pos empty]
      · simp only [if_neg empty, expand_list_congr nested nested' line list parsed regions]
        -- expanding words does not touch what stands in the sub-shells
        refine Run.bind_congr _ _ _ fun s last expanded ran => ?_
        have same := (expand_list_substitutes nested' line list parsed).yields _ _ _ s last expanded ran
        have bodies (p : Pipeline Text) (pipeline : p ∈ expanded.pipelines) (stage : Stage Text)
            (member : stage ∈ p.stages) : LineRunner.AgreeOn stage.body?.toList nested nested' := by
          intro body isBody
          refine agree body (inside body (List.mem_append_right _ ?_))
          rw [list.bodies_of_shapes, ← same, ← expanded.bodies_of_shapes]
          exact List.mem_flatMap.2 ⟨p, pipeline, List.mem_filterMap.2 ⟨stage, member, by simpa using isBody⟩⟩
        rw [run_pipelines_congr host nested nested' sink {} expanded.pipelines bodies]

theorem nested_shorter (inner line : Text) (nested : NestedIn inner line) :
    inner <:+: line ∧ inner.length + 2 ≤ line.length := by
  obtain ⟨list, parsed, member⟩ := nested
  exact enclosed_shorter line inner (CommandList.nested_enclosed line inner list parsed member)

theorem run_line_eq (host : Host) (sink : Sink) (line : Text) :
    runLine host sink line = runLineWith host (runLine host) sink line := by
  rw [runLine]
  refine run_line_with_congr host _ _ sink line fun inner nested sink => if_pos ?_
  have shorter := (nested_shorter inner line nested).2
  omega

theorem nested_in_well_founded : WellFounded NestedIn :=
  Subrelation.wf (fun {inner line} nested => by
    have shorter := (nested_shorter inner line nested).2
    change inner.length < line.length
    omega) (measure List.length).wf

theorem nested_lines_shrink (host : Host) (line : Text) :
    (∀ inner, NestedIn inner line → inner <:+: line ∧ inner.length + 2 ≤ line.length) ∧
    (∀ nested nested' : LineRunner, (∀ inner, NestedIn inner line → ∀ sink, nested sink inner = nested' sink inner) →
      ∀ sink, runLineWith host nested sink line = runLineWith host nested' sink line) ∧
    WellFounded NestedIn ∧
    ∀ sink, runLine host sink line = runLineWith host (runLine host) sink line :=
  ⟨fun inner => nested_shorter inner line,
    fun nested nested' agree sink => run_line_with_congr host nested nested' sink line agree,
    nested_in_well_founded, fun sink => run_line_eq host sink line⟩

theorem nested_lines_shrink_region : NestedIn "pwd".toList "cd `pwd`".toList ∧ ∀ host : Host,
    ("pwd".toList <:+: "cd `pwd`".toList ∧ "pwd".toList.length + 2 ≤ "cd `pwd`".toList.length) ∧
    ∀ nested nested' : LineRunner, (∀ sink, nested sink "pwd".toList = nested' sink "pwd".toList) →
      ∀ sink, runLineWith host nested sink "cd `pwd`".toList = runLineWith host nested' sink "cd `pwd`".toList := by
  let stage : Stage Word := .simple [.bare ['c', 'd'], ⟨['p', 'w', 'd'], some .backtick, [⟨0, 3⟩]⟩]
  have parsed := CommandList.of_line_one "cd `pwd`".toList stage (List.cons_ne_nil _ _) rfl
  have nested : NestedIn "pwd".toList "cd `pwd`".toList := ⟨_, parsed, List.mem_cons_self⟩
  have only (inner : Text) (inside : NestedIn inner "cd `pwd`".toList) : inner = "pwd".toList := by
    obtain ⟨list, parsed', member⟩ := inside
    rw [parsed] at parsed'
    cases parsed'
    exact List.mem_singleton.1 member
  refine ⟨nested, fun host => ?_⟩
  obtain ⟨shorter, agreement, _⟩ := nested_lines_shrink host "cd `pwd`".toList
  refine ⟨shorter _ nested, fun runner runner' same => agreement runner runner' fun inner inside => ?_⟩
  rw [only inner inside]
  exact same

end CommandShell
