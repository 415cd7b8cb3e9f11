import CommandShell.Programs.PosixShell.Fields

set_option autoImplicit false

namespace CommandShell.PosixShell.Fields

-- A mark counts as the letter that stands for it.
def letter : Glyph → Char
  | .char c _ => c
  | .mark => 'x'

def divides (isSeparator : Char → Bool) (g : Glyph) : Bool := isSeparator (letter g)

structure Progress.IsUnbounded (p : Progress) : Prop where
  room : p.room = none
  excess : p.excess = none

-- Within a chunk a run of blanks goes on only where no field has begun.
structure Progress.IsOpen (p : Progress) : Prop extends p.IsUnbounded where
  between : p.afterBlank = true → p.current = []

section Passing

variable (isSeparator : Char → Bool) (keepsBlanks : Bool)

theorem pass_plain (p : Progress) (g : Glyph) (isOpen : p.IsOpen) (plain : divides isSeparator g = false) :
    pass isSeparator keepsBlanks p g = { p with current := g :: p.current, afterBlank := false } := by
  cases p with
  | mk fields current afterBlank room excess =>
    obtain ⟨⟨rfl, rfl⟩, between⟩ := isOpen
    cases afterBlank with
    | true =>
        cases between rfl
        cases g with
        | char c isQuoted => simp_all [pass, divides, letter]
        | mark => simp_all [pass, divides, letter]
    | false =>
        cases g with
        | char c isQuoted => simp_all [pass, divides, letter]
        | mark => simp_all [pass, divides, letter]

-- A separator is passed over where no field has begun and none is to be made of nothing.
theorem pass_separator (p : Progress) (g : Glyph) (isOpen : p.IsOpen) (isOne : divides isSeparator g = true) :
    let q := pass isSeparator keepsBlanks p g
    q.IsOpen ∧ q.current = [] ∧
      (p.current = [] ∧ q.fields = p.fields ∨
        q.fields = p.current.reverse :: p.fields ∧
          (p.current = [] → keepsBlanks = true ∨ blankSeparators.contains (letter g) = false)) := by
  cases p with
  | mk fields current afterBlank room excess =>
    obtain ⟨⟨rfl, rfl⟩, between⟩ := isOpen
    cases afterBlank with
    | true =>
        cases between rfl
        have passed : ∃ afterBlank, pass isSeparator keepsBlanks ⟨fields, [], true, none, none⟩ g =
            ⟨fields, [], afterBlank, none, none⟩ := by
          cases blank : blankSeparators.contains (letter g) with
          | true => cases g <;> simp_all [pass, divides, letter]
          | false => cases g <;> simp_all [pass, divides, letter]
        obtain ⟨after, passed⟩ := passed
        rw [passed]
        exact ⟨⟨⟨rfl, rfl⟩, fun _ => rfl⟩, rfl, .inl ⟨rfl, rfl⟩⟩
    | false =>
        let skips := current.isEmpty && !keepsBlanks && blankSeparators.contains (letter g)
        have passed : pass isSeparator keepsBlanks ⟨fields, current, false, none, none⟩ g =
            if skips then ⟨fields, current, false, none, none⟩
            else ⟨current.reverse :: fields, [], !keepsBlanks && blankSeparators.contains (letter g), none, none⟩ := by
          cases g with
          | char c isQuoted => cases keepsBlanks <;> simp_all [pass, divides, letter, skips]
          | mark => cases keepsBlanks <;> simp_all [pass, divides, letter, skips]
        rw [passed]
        by_cases passes : skips = true
        · have nothing : current = [] := by simp_all [skips]
          rw [if_pos passes]
          exact ⟨⟨⟨rfl, rfl⟩, fun _ => nothing⟩, nothing, .inl ⟨nothing, rfl⟩⟩
        · rw [if_neg passes]
          refine ⟨⟨⟨rfl, rfl⟩, fun _ => rfl⟩, rfl, .inr ⟨rfl, fun nothing => ?_⟩⟩
          by_cases keeps : keepsBlanks = true
          · exact .inl keeps
          · exact .inr (by simp_all [skips])

theorem pass_open (p : Progress) (g : Glyph) (isOpen : p.IsOpen) : (pass isSeparator keepsBlanks p g).IsOpen := by
  by_cases isOne : divides isSeparator g = true
  · exact (pass_separator isSeparator keepsBlanks p g isOpen isOne).1
  · rw [pass_plain isSeparator keepsBlanks p g isOpen (eq_false_of_ne_true isOne)]
    exact ⟨⟨isOpen.room, isOpen.excess⟩, fun after => (by cases after)⟩

end Passing

def Progress.glyphs (p : Progress) : List Glyph := p.fields.reverse.flatten ++ p.current.reverse

section Keeping

variable (isSeparator : Char → Bool) (keepsBlanks : Bool)

theorem pass_glyphs (p : Progress) (g : Glyph) (isOpen : p.IsOpen) :
    (pass isSeparator keepsBlanks p g).glyphs = p.glyphs ++ [g].filter (!divides isSeparator ·) := by
  by_cases isOne : divides isSeparator g = true
  · obtain ⟨_, empty, ⟨nothing, same⟩ | ⟨begun, _⟩⟩ := pass_separator isSeparator keepsBlanks p g isOpen isOne
    · simp [Progress.glyphs, empty, nothing, same, isOne]
    · simp [Progress.glyphs, empty, begun, isOne]
  · rw [pass_plain isSeparator keepsBlanks p g isOpen (eq_false_of_ne_true isOne)]
    simp [Progress.glyphs, isOne]

theorem pass_all_glyphs (glyphs : List Glyph) (p : Progress) (isOpen : p.IsOpen) :
    let q := glyphs.foldl (pass isSeparator keepsBlanks) p
    q.IsOpen ∧ q.glyphs = p.glyphs ++ glyphs.filter (!divides isSeparator ·) := by
  induction glyphs generalizing p with
  | nil => exact ⟨isOpen, (List.append_nil _).symm⟩
  | cons g rest ih =>
      obtain ⟨stays, glyphs⟩ := ih _ (pass_open isSeparator keepsBlanks p g isOpen)
      refine ⟨stays, glyphs.trans ?_⟩
      rw [pass_glyphs isSeparator keepsBlanks p g isOpen, List.append_assoc, ← List.filter_append, List.singleton_append]

end Keeping

def endsField (separators : Text) (c : Char) : Bool := c == parameterEnd || separators.contains c

-- What of a chunk no splitting takes away.
def kept (separators : Text) (chunk : Chunk) : List Glyph :=
  match chunk.splitting with
  | .nowhere => chunk.glyphs
  | .atSeparators => chunk.glyphs.filter (!divides (endsField separators) ·)
  | .betweenParameters => chunk.glyphs.filter (!divides (· == parameterEnd) ·)

theorem pass_chunk_glyphs (separators : Text) (p : Progress) (before : Splitting) (chunk : Chunk)
    (isUnbounded : p.IsUnbounded) :
    let q := passChunk separators p before chunk
    q.IsUnbounded ∧ q.glyphs = p.glyphs ++ kept separators chunk := by
  have fresh : Progress.IsOpen { p with afterBlank := false } :=
    ⟨⟨isUnbounded.room, isUnbounded.excess⟩, fun after => (by cases after)⟩
  rw [passChunk, kept]
  cases chunk.splitting with
  | nowhere => exact ⟨⟨isUnbounded.room, isUnbounded.excess⟩, by simp [Progress.glyphs]⟩
  | atSeparators =>
      have passed := pass_all_glyphs (endsField separators)
        (before = .betweenParameters) chunk.glyphs _ fresh
      exact ⟨passed.1.toIsUnbounded, passed.2⟩
  | betweenParameters =>
      have passed := pass_all_glyphs (· == parameterEnd) true chunk.glyphs _ fresh
      exact ⟨passed.1.toIsUnbounded, passed.2⟩

def passChunks (separators : Text) (p : Progress) (before : Splitting) (chunks : List Chunk) : Progress × Splitting :=
  chunks.foldl (fun reached chunk =>
    (passChunk separators reached.1 reached.2 chunk, lastSplitting reached.2 chunk)) (p, before)

theorem pass_chunks_glyphs (separators : Text) (chunks : List Chunk) (p : Progress) (before : Splitting)
    (isUnbounded : p.IsUnbounded) :
    let q := (passChunks separators p before chunks).1
    q.IsUnbounded ∧ q.glyphs = p.glyphs ++ chunks.flatMap (kept separators) := by
  induction chunks generalizing p before with
  | nil => exact ⟨isUnbounded, (List.append_nil _).symm⟩
  | cons chunk rest ih =>
      obtain ⟨stays, glyphs⟩ := pass_chunk_glyphs separators p before chunk isUnbounded
      obtain ⟨unbounded, others⟩ := ih _ (lastSplitting before chunk) stays
      refine ⟨unbounded, others.trans ?_⟩
      rw [glyphs, List.flatMap_cons, List.append_assoc]

theorem split_unbounded (separators : Text) (chunks : List Chunk) :
    let q := passChunks separators {} .nowhere chunks
    split separators none chunks =
      if q.1.current.isEmpty && q.2 ≠ .betweenParameters then q.1.fields.reverse
      else (q.1.current.reverse :: q.1.fields).reverse := by
  have ends := (pass_chunks_glyphs separators chunks {} .nowhere ⟨rfl, rfl⟩).1
  rw [split]
  generalize reached : List.foldl _ (({} : Progress), Splitting.nowhere) chunks = q
  have same : passChunks separators {} .nowhere chunks = q := reached
  rw [same] at ends ⊢
  cases q with
  | mk p last =>
      have noExcess : p.excess = none := ends.excess
      simp only [noExcess]

-- Splitting takes separators away and nothing else, and it takes none from what is quoted.
theorem split_keeps (separators : Text) (chunks : List Chunk) :
    (split separators none chunks).flatten = chunks.flatMap (kept separators) := by
  have glyphs := (pass_chunks_glyphs separators chunks {} .nowhere ⟨rfl, rfl⟩).2
  rw [split_unbounded]
  generalize passChunks separators {} .nowhere chunks = q at glyphs
  by_cases ended : (q.1.current.isEmpty && q.2 ≠ .betweenParameters) = true
  · have nothing : q.1.current = [] := by simp_all
    rw [if_pos ended]
    simpa [Progress.glyphs, nothing] using glyphs
  · rw [if_neg ended]
    simpa [Progress.glyphs] using glyphs

theorem pass_all_words (isSeparator : Char → Bool)
    (blank : ∀ c, isSeparator c = true → blankSeparators.contains c = true) (glyphs : List Glyph) (p : Progress) (isOpen : p.IsOpen) :
    let q := glyphs.foldl (pass isSeparator false) p
    q.fields.reverse ++ [q.current.reverse].filter (· ≠ []) =
      p.fields.reverse ++ (glyphs.splitOnPPrepend (divides isSeparator) p.current).filter (· ≠ []) := by
  induction glyphs generalizing p with
  | nil => rfl
  | cons g rest ih =>
      refine (ih _ (pass_open isSeparator false p g isOpen)).trans ?_
      by_cases isOne : divides isSeparator g = true
      · obtain ⟨_, empty, passed⟩ := pass_separator isSeparator false p g isOpen isOne
        have cut : (g :: rest).splitOnPPrepend (divides isSeparator) p.current =
            p.current.reverse :: rest.splitOnP (divides isSeparator) :=
          List.splitOnPPrepend_cons_pos isOne
        rw [empty, List.splitOnPPrepend_nil_right, cut]
        obtain ⟨nothing, same⟩ | ⟨begun, skipped⟩ := passed
        · simp [nothing, same]
        · have something : p.current ≠ [] := fun nothing => by
            cases skipped nothing with
            | inl keeps => cases keeps
            | inr noBlank => rw [blank _ isOne] at noBlank; cases noBlank
          simp [begun, something]
      · have plain := eq_false_of_ne_true isOne
        have goesOn : (g :: rest).splitOnPPrepend (divides isSeparator) p.current =
            rest.splitOnPPrepend (divides isSeparator) (g :: p.current) :=
          List.splitOnPPrepend_cons_neg plain
        rw [pass_plain isSeparator false p g isOpen plain, goesOn]

-- Where all separators are blank, what is not quoted is split into its words.
theorem split_words (separators : Text) (blank : ∀ c ∈ separators, c ∈ blankSeparators) (glyphs : List Glyph) :
    split separators none [⟨glyphs, .atSeparators⟩] =
      (glyphs.splitOnP (divides (endsField separators))).filter (· ≠ []) := by
  have isBlank (c : Char) (isOne : endsField separators c = true) :
      blankSeparators.contains c = true := by
    rw [List.contains_iff_mem]
    by_cases ends : c = parameterEnd
    · subst ends
      decide
    · exact blank c (by simpa [endsField, ends] using isOne)
  have passed := pass_all_words (endsField separators) isBlank glyphs {}
    ⟨⟨rfl, rfl⟩, fun _ => rfl⟩
  rw [List.splitOnP_eq_splitOnPPrepend, split_unbounded]
  refine Eq.trans ?_ passed
  have reached : passChunks separators {} .nowhere [⟨glyphs, .atSeparators⟩] =
      (glyphs.foldl (pass (endsField separators) false) {}, .atSeparators) := rfl
  rw [reached]
  generalize glyphs.foldl (pass (endsField separators) false) {} = q
  by_cases nothing : q.current = []
  · simp [nothing]
  · simp [nothing]

end CommandShell.PosixShell.Fields
