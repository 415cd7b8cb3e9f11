import CommandShell.Proofs.Expansion.Matches
import CommandShell.Proofs.Expansion.Substitution

set_option autoImplicit false

namespace CommandShell

inductive Part where
  | copied (c : Char)
  | reference (name : Text)

def Part.expanded (vars : Variables) : Part → Text
  | copied c => [c]
  | reference name => (vars.get? name).getD []

inductive Scanned : Text → List Part → Prop where
  | done : Scanned [] []
  | reference (text name rest : Text) (parts : List Part) (refers : Refers text name rest)
      (others : Scanned rest parts) : Scanned text (.reference name :: parts)
  | copied (c : Char) (rest : Text) (parts : List Part) (none : ∀ name after, ¬ Refers (c :: rest) name after)
      (others : Scanned rest parts) : Scanned (c :: rest) (.copied c :: parts)

theorem refers_unique (text name rest name' rest' : Text) (refers : Refers text name rest)
    (other : Refers text name' rest') : name = name' ∧ rest = rest' := by
  obtain ⟨m, first, rfl, rfl, _⟩ := Regex.match_of_refers text name rest refers
  obtain ⟨n, first', rfl, rfl, _⟩ := Regex.match_of_refers text name' rest' other
  obtain rfl : m = n := Option.some.inj (first.symm.trans first')
  exact ⟨rfl, rfl⟩

theorem refers_shorter (text name rest : Text) (refers : Refers text name rest) : rest.length < text.length := by
  cases refers with
  | braced _ _ _ _ =>
      simp only [List.length_cons, List.length_append]
      omega
  | plain _ _ _ _ _ =>
      simp only [List.length_cons, List.length_append]
      omega

theorem exists_scanned (text : Text) : ∃ parts, Scanned text parts := by
  by_cases refers : ∃ name rest, Refers text name rest
  · obtain ⟨name, rest, refers⟩ := refers
    have shorter := refers_shorter text name rest refers
    obtain ⟨parts, others⟩ := exists_scanned rest
    exact ⟨_, .reference text name rest parts refers others⟩
  · cases text with
    | nil => exact ⟨[], .done⟩
    | cons c rest =>
        obtain ⟨parts, others⟩ := exists_scanned rest
        exact ⟨_, .copied c rest parts (fun name after found => refers ⟨name, after, found⟩) others⟩
termination_by text.length

theorem scanned_unique (text : Text) (parts other : List Part) (scanned : Scanned text parts)
    (scanned' : Scanned text other) : parts = other := by
  induction scanned generalizing other with
  | done =>
      cases scanned' with
      | done => rfl
      | reference _ _ _ _ refers _ => cases refers
  | reference text name rest parts refers others ih =>
      cases scanned' with
      | done => cases refers
      | reference _ name' rest' more refers' others' =>
          obtain ⟨rfl, rfl⟩ := refers_unique text name rest name' rest' refers refers'
          rw [ih more others']
      | copied c _ _ none _ => exact absurd refers (none name rest)
  | copied c rest parts none others ih =>
      cases scanned' with
      | reference _ name' rest' more refers' others' => exact absurd refers' (none name' rest')
      | copied _ _ more _ others' => rw [ih more others']

namespace Variables

theorem take_name (name rest : Text) (word : ∀ c ∈ name, isWordChar c) (stop : ∀ c ∈ rest.head?, isWordChar c = false) :
    (name ++ rest).takeWhile isWordChar = name := by
  rw [List.takeWhile_append_of_pos word]
  cases rest with
  | nil => simp
  | cons c more => simp [stop c rfl]

theorem reference_of_refers (text name rest : Text) (refers : Refers ('$' :: text) name rest) :
    ∃ n, reference? text = some (name, n) ∧ text.drop n = rest := by
  cases refers with
  | braced _ _ nonempty word =>
      have taken := take_name name ('}' :: rest) word fun c first => Option.some.inj first ▸ rfl
      refine ⟨name.length + 2, ?_, by simp⟩
      simp [reference?, taken, nonempty]
  | plain _ _ nonempty word longest =>
      have taken := take_name name rest word longest
      obtain ⟨d, more, rfl⟩ := List.exists_cons_of_ne_nil nonempty
      have noBrace : d ≠ '{' := not_word d '{' (word d List.mem_cons_self) rfl
      refine ⟨(d :: more).length, ?_, by simp⟩
      unfold reference?
      rw [taken]
      split
      · next body same => exact absurd (List.cons.inj same).1 noBrace
      · rfl

theorem refers_of_reference (text name : Text) (n : Nat) (found : reference? text = some (name, n)) :
    Refers ('$' :: text) name (text.drop n) := by
  unfold reference? at found
  rcases Option.or_eq_some_iff.1 found with braced | ⟨_, plain⟩
  · split at braced
    · next body =>
        obtain ⟨run, rest, rfl, word, stop⟩ := word_run body
        rw [take_name run rest word stop] at braced
        dsimp only at braced
        rw [List.drop_left, Option.ite_none_right_eq_some] at braced
        obtain ⟨closes, same⟩ := braced
        obtain ⟨nonempty, closed⟩ : run ≠ [] ∧ rest.head? = some '}' := by simpa using closes
        obtain ⟨more, rfl⟩ := List.head?_eq_some_iff.1 closed
        obtain ⟨rfl, rfl⟩ : run = name ∧ run.length + 2 = n := by simpa using same
        simpa using Refers.braced run more nonempty word
    · cases braced
  · obtain ⟨run, rest, rfl, word, stop⟩ := word_run text
    rw [take_name run rest word stop] at plain
    by_cases empty : run = []
    · simp [empty] at plain
    · obtain ⟨rfl, rfl⟩ : run = name ∧ run.length = n := by simpa [empty] using plain
      rw [List.drop_left]
      exact .plain run rest empty word stop

theorem expand_from_drop (vars : Variables) (n : Nat) (text : Text) :
    vars.expandFrom n text = vars.expandFrom 0 (text.drop n) := by
  induction text generalizing n with
  | nil => simp [expandFrom]
  | cons c rest ih =>
      cases n with
      | zero => rfl
      | succ n => rw [expandFrom, ih, List.drop_succ_cons]

theorem expand_scanned (vars : Variables) (text : Text) (parts : List Part) (scanned : Scanned text parts) :
    vars.expand text = parts.flatMap (Part.expanded vars) := by
  change vars.expandFrom 0 text = _
  induction scanned with
  | done => rfl
  | reference text name rest parts refers others ih =>
      have begins : ∃ tail, text = '$' :: tail := by cases refers <;> exact ⟨_, rfl⟩
      obtain ⟨tail, rfl⟩ := begins
      obtain ⟨n, found, rfl⟩ := reference_of_refers tail name rest refers
      rw [expandFrom, if_pos rfl, found, List.flatMap_cons, ← ih, ← expand_from_drop]
      rfl
  | copied c rest parts none others ih =>
      rw [List.flatMap_cons, ← ih]
      by_cases sign : c = '$'
      · subst sign
        cases found : reference? rest with
        | none => simp [expandFrom, found, Part.expanded]
        | some reference => exact absurd (refers_of_reference rest _ _ found) (none _ _)
      · simp [expandFrom, sign, Part.expanded]

end Variables

namespace Regex

theorem no_match_iff (text : Text) : reference.match? text = none ↔ ∀ name rest, ¬ Refers text name rest := by
  constructor
  · intro none name rest refers
    obtain ⟨m, first, _⟩ := match_of_refers text name rest refers
    rw [none] at first
    cases first
  · intro none
    cases first : reference.match? text with
    | none => rfl
    | some m => exact absurd (refers_of_match text m first) (none _ _)

theorem replaced_iff (vars : Variables) (text result : Text) (parts : List Part) (scanned : Scanned text parts) :
    Replaced reference (fun m => (vars.get? m.name).getD []) text result ↔
      result = parts.flatMap (Part.expanded vars) := by
  induction scanned generalizing result with
  | done =>
      constructor
      · intro replaced
        cases replaced with
        | done _ => rfl
        | found _ _ m first _ _ => cases first
      · rintro rfl
        exact .done rfl
  | reference text name rest parts refers others ih =>
      obtain ⟨m, first, rfl, rfl, some⟩ := match_of_refers text name rest refers
      constructor
      · intro replaced
        cases replaced with
        | done none => cases refers
        | found _ tail n first' _ others' =>
            obtain rfl : m = n := Option.some.inj (first.symm.trans first')
            rw [(ih tail).1 others']
            rfl
        | copied c _ _ none _ =>
            rw [none] at first
            cases first
      · rintro rfl
        exact .found text _ m first some ((ih _).2 rfl)
  | copied c rest parts none others ih =>
      have noMatch := (no_match_iff _).2 none
      constructor
      · intro replaced
        cases replaced with
        | found _ tail n first' _ others' =>
            rw [noMatch] at first'
            cases first'
        | copied _ _ tail _ others' =>
            rw [(ih tail).1 others']
            rfl
      · rintro rfl
        exact .copied c rest _ noMatch ((ih _).2 rfl)

end Regex

theorem front_before (front rest a b : Text) (c : Char) (absent : c ∉ front) (same : front ++ rest = a ++ c :: b) :
    ∃ more, a = front ++ more ∧ rest = more ++ c :: b := by
  rcases List.append_eq_append_iff.1 same with ⟨more, aEq, restEq⟩ | ⟨more, frontEq, restEq⟩
  · exact ⟨more, aEq, restEq⟩
  · cases more with
    | nil => exact ⟨[], by simpa using frontEq.symm, by simpa using restEq.symm⟩
    | cons d tail =>
        obtain ⟨rfl, _⟩ := List.cons.inj restEq
        exact absurd (frontEq ▸ by simp) absent

structure Apart (c : Char) : Prop where
  sign : c ≠ '$'
  opening : c ≠ '{'
  closing : c ≠ '}'
  word : isWordChar c = false

theorem Apart.not_in_name (c : Char) (apart : Apart c) (name : Text) (word : ∀ d ∈ name, isWordChar d) : c ∉ name :=
  fun member => not_word c c (word c member) apart.word rfl

theorem refers_append (a name rest b : Text) (c : Char) (apart : Apart c) (refers : Refers a name rest) :
    Refers (a ++ c :: b) name (rest ++ c :: b) := by
  cases refers with
  | braced _ _ nonempty word => simpa using Refers.braced name (rest ++ c :: b) nonempty word
  | plain _ _ nonempty word longest =>
      have stop : ∀ d ∈ (rest ++ c :: b).head?, isWordChar d = false := by
        cases rest with
        | nil => exact fun d first => Option.some.inj first ▸ apart.word
        | cons e more => exact longest
      simpa using Refers.plain name (rest ++ c :: b) nonempty word stop

theorem refers_of_append (a name rest b : Text) (c : Char) (apart : Apart c) (refers : Refers (a ++ c :: b) name rest) :
    ∃ more, Refers a name more := by
  generalize whole : a ++ c :: b = text at refers
  cases refers with
  | braced _ _ nonempty word =>
      have absent : c ∉ '$' :: '{' :: (name ++ ['}']) := by
        simp [apart.sign, apart.opening, apart.closing, apart.not_in_name c name word]
      obtain ⟨more, rfl, _⟩ := front_before _ rest a b c absent (by simp [whole])
      exact ⟨more, by simpa using Refers.braced name more nonempty word⟩
  | plain _ _ nonempty word longest =>
      have absent : c ∉ '$' :: name := by simp [apart.sign, apart.not_in_name c name word]
      obtain ⟨more, rfl, rfl⟩ := front_before _ rest a b c absent (by simp [whole])
      have stop : ∀ d ∈ more.head?, isWordChar d = false := by
        cases more with
        | nil => exact fun d first => nomatch first
        | cons e tail => exact longest
      exact ⟨more, Refers.plain name more nonempty word stop⟩

theorem scanned_append (a b : Text) (c : Char) (apart : Apart c) (before after : List Part) (scanned : Scanned a before)
    (scanned' : Scanned b after) : Scanned (a ++ c :: b) (before ++ .copied c :: after) := by
  induction scanned with
  | done =>
      refine .copied c b after (fun name rest refers => ?_) scanned'
      obtain ⟨more, refers⟩ := refers_of_append [] name rest b c apart refers
      cases refers
  | reference text name rest parts refers others ih =>
      exact .reference _ name _ _ (refers_append text name rest b c apart refers) ih
  | copied d rest parts none others ih =>
      refine .copied d _ _ (fun name tail refers => ?_) ih
      obtain ⟨more, refers⟩ := refers_of_append (d :: rest) name tail b c apart refers
      exact none name more refers

theorem expand_append (vars : Variables) (a b : Text) (c : Char) (apart : Apart c) :
    vars.expand (a ++ c :: b) = vars.expand a ++ c :: vars.expand b := by
  obtain ⟨before, scanned⟩ := exists_scanned a
  obtain ⟨after, scanned'⟩ := exists_scanned b
  have whole := scanned_append a b c apart before after scanned scanned'
  rw [vars.expand_scanned _ _ whole, vars.expand_scanned a before scanned, vars.expand_scanned b after scanned',
    List.flatMap_append, List.flatMap_cons]
  rfl

theorem Word.expand_variables_marked (vars : Variables) (w : Word) : w.expandVariables vars =
    if w.quote = some .single ∨ w.quote = some .backtick ∨ '$' ∉ w.text then w
    else { w with text := vars.expand w.text } := by
  obtain ⟨text, quote, commands⟩ := w
  by_cases plain : '$' ∈ text
  · cases quote with
    | none => simp [expandVariables, plain]
    | some q => cases q <;> simp [expandVariables, plain]
  · have same := vars.expand_no_reference text plain
    cases quote with
    | none => simp [expandVariables, plain, same]
    | some q => cases q <;> simp [expandVariables, plain, same]

theorem expanded_in_one_scan (text : Text) :
    ∃ parts, Scanned text parts ∧ (∀ other, Scanned text other → other = parts) ∧ ∀ vars : Variables,
      vars.expand text = parts.flatMap (Part.expanded vars) ∧
      (∀ result, Regex.Replaced .reference (fun m => (vars.get? m.name).getD []) text result ↔
        result = vars.expand text) ∧
      ('$' ∉ text → vars.expand text = text) ∧
      (∀ w : Word, w.text = text → w.expandVariables vars =
        if w.quote = some .single ∨ w.quote = some .backtick ∨ '$' ∉ text then w
        else { w with text := vars.expand text }) ∧
      ∀ a b c, text = a ++ c :: b → Apart c → vars.expand text = vars.expand a ++ c :: vars.expand b := by
  obtain ⟨parts, scanned⟩ := exists_scanned text
  refine ⟨parts, scanned, fun other scanned' => scanned_unique text other parts scanned' scanned, fun vars => ?_⟩
  have expanded := vars.expand_scanned text parts scanned
  refine ⟨expanded, fun result => ?_, vars.expand_no_reference text, ?_, ?_⟩
  · rw [expanded]
    exact Regex.replaced_iff vars text result parts scanned
  · rintro w rfl
    exact w.expand_variables_marked vars
  · rintro a b c rfl apart
    exact expand_append vars a b c apart

-- The value of `X` has a reference to `X` in it, which stays.
theorem expanded_in_one_scan_again :
    let vars : Variables := .ofList [(['X'], "a$X".toList)]
    Scanned "$X".toList [.reference ['X']] ∧ (∀ other, Scanned "$X".toList other → other = [.reference ['X']]) ∧
      vars.expand "$X".toList = "a$X".toList ∧
      Apart '-' ∧ vars.expand "${X-$X}".toList = "${X-a$X}".toList ∧
      '$' ∉ "X".toList ∧ vars.expand "X".toList = "X".toList ∧
      (Word.bare "X".toList).expandVariables vars = .bare "X".toList := by
  intro vars
  have refers : Refers "$X".toList ['X'] [] :=
    .plain ['X'] [] (List.cons_ne_nil _ _) (fun c member => List.mem_singleton.1 member ▸ rfl) fun c first => nomatch first
  have scanned : Scanned "$X".toList [.reference ['X']] := .reference _ ['X'] [] [] refers .done
  have apart : Apart '-' := ⟨by decide, by decide, by decide, rfl⟩
  have noSign : '$' ∉ "X".toList := by decide
  obtain ⟨parts, _, only, _⟩ := expanded_in_one_scan "$X".toList
  obtain rfl := only _ scanned
  obtain ⟨_, _, _, values⟩ := expanded_in_one_scan "${X-$X}".toList
  obtain ⟨_, _, _, values'⟩ := expanded_in_one_scan "X".toList
  refine ⟨scanned, only, rfl, apart, ?_, noSign, (values' vars).2.2.1 noSign, ?_⟩
  · exact (values vars).2.2.2.2 ['$', '{', 'X'] ['$', 'X', '}'] '-' rfl apart
  · exact ((values' vars).2.2.2.1 (.bare "X".toList) rfl).trans (if_pos (.inr (.inr noSign)))

end CommandShell
