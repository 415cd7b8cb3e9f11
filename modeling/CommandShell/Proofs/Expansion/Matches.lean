import CommandShell.Text.WordCharacter
import CommandShell.Text.Basic
import Mathlib.Data.List.TakeWhile

set_option autoImplicit false

namespace CommandShell

-- `many` takes one character or more, and `either` tries its first part first.
inductive Regex where
  | one (accepts : Char → Bool)
  | many (accepts : Char → Bool)
  | seq (first second : Regex)
  | either (first second : Regex)
  | group (number : Nat) (inner : Regex)

structure Match where
  taken : Text
  rest : Text
  groups : List (Nat × Text) := []

namespace Match

def after (before next : Match) : Match := ⟨before.taken ++ next.taken, next.rest, before.groups ++ next.groups⟩

def group? (m : Match) (number : Nat) : Option Text := m.groups.lookup number

end Match

namespace Regex

def runs (accepts : Char → Bool) : Text → List Match
  | [] => []
  | c :: rest =>
    if accepts c then (runs accepts rest).map (fun m => { m with taken := c :: m.taken }) ++ [⟨[c], rest, []⟩] else []

-- All matches at the beginning of a text, in the order in which they are tried.
def ways : Regex → Text → List Match
  | one _, [] => []
  | one accepts, c :: rest => if accepts c then [⟨[c], rest, []⟩] else []
  | many accepts, text => runs accepts text
  | seq first second, text => (first.ways text).flatMap fun m => (second.ways m.rest).map m.after
  | either first second, text => first.ways text ++ second.ways text
  | group number inner, text => (inner.ways text).map fun m => { m with groups := (number, m.taken) :: m.groups }

def match? (r : Regex) (text : Text) : Option Match := (r.ways text).head?

-- `Replaced r f text result`: the matches of `r`, each the first one behind those before it, are replaced by `f`.
inductive Replaced (r : Regex) (f : Match → Text) : Text → Text → Prop where
  | done (none : r.match? [] = none) : Replaced r f [] []
  | found (text result : Text) (m : Match) (first : r.match? text = some m) (some : m.taken ≠ [])
      (others : Replaced r f m.rest result) : Replaced r f text (f m ++ result)
  | copied (c : Char) (rest result : Text) (none : r.match? (c :: rest) = none) (others : Replaced r f rest result) :
      Replaced r f (c :: rest) (c :: result)

def braced : Regex := seq (one (· == '{')) (seq (group 1 (many isWordChar)) (one (· == '}')))

def plain : Regex := group 2 (many isWordChar)

def reference : Regex := seq (one (· == '$')) (either braced plain)

theorem runs_none (accepts : Char → Bool) (text : Text) (stop : ∀ c ∈ text.head?, accepts c = false) :
    runs accepts text = [] := by
  cases text with
  | nil => rfl
  | cons c rest => simp [runs, stop c rfl]

theorem runs_longest (accepts : Char → Bool) (name rest : Text) (nonempty : name ≠ []) (all : ∀ c ∈ name, accepts c)
    (stop : ∀ c ∈ rest.head?, accepts c = false) :
    ∃ shorter, runs accepts (name ++ rest) = ⟨name, rest, []⟩ :: shorter ∧
      ∀ m ∈ shorter, ∃ c more, m.rest = c :: more ∧ accepts c := by
  induction name with
  | nil => exact absurd rfl nonempty
  | cons c more ih =>
      have first := all c List.mem_cons_self
      have others : ∀ d ∈ more, accepts d := fun d member => all d (List.mem_cons_of_mem c member)
      cases more with
      | nil => exact ⟨[], by simp [runs, first, runs_none accepts rest stop], by simp⟩
      | cons d tail =>
          obtain ⟨shorter, longest, left⟩ := ih (List.cons_ne_nil d tail) others
          refine ⟨shorter.map (fun m => { m with taken := c :: m.taken }) ++ [⟨[c], d :: tail ++ rest, []⟩], ?_, ?_⟩
          · rw [List.cons_append, runs, if_pos first, longest]
            simp
          · intro m member
            rcases List.mem_append.1 member with member | member
            · obtain ⟨n, inShorter, rfl⟩ := List.mem_map.1 member
              exact left n inShorter
            · obtain rfl := List.mem_singleton.1 member
              exact ⟨d, tail ++ rest, rfl, others d List.mem_cons_self⟩

end Regex

-- `Refers text name rest`: the text begins with a reference to `name`, and goes on with `rest`.
inductive Refers : Text → Text → Text → Prop where
  | braced (name rest : Text) (nonempty : name ≠ []) (word : ∀ c ∈ name, isWordChar c) :
      Refers ('$' :: '{' :: (name ++ '}' :: rest)) name rest
  | plain (name rest : Text) (nonempty : name ≠ []) (word : ∀ c ∈ name, isWordChar c)
      (longest : ∀ c ∈ rest.head?, isWordChar c = false) : Refers ('$' :: (name ++ rest)) name rest

theorem word_run (text : Text) : ∃ name rest, text = name ++ rest ∧ (∀ c ∈ name, isWordChar c) ∧
    ∀ c ∈ rest.head?, isWordChar c = false := by
  refine ⟨text.takeWhile isWordChar, text.dropWhile isWordChar, List.takeWhile_append_dropWhile.symm, ?_, ?_⟩
  · intro c member
    exact List.mem_takeWhile_imp member
  · intro c first
    have stopped := List.head?_dropWhile_not isWordChar text
    rw [Option.mem_def.1 first] at stopped
    exact stopped

theorem not_word (c sign : Char) (word : isWordChar c = true) (notWord : isWordChar sign = false) : c ≠ sign := by
  rintro rfl
  rw [word] at notWord
  cases notWord

namespace Regex

def closing (m : Match) : List Match :=
  ((one (· == '}')).ways m.rest).map fun n =>
    ⟨'{' :: (m.taken ++ n.taken), n.rest, (1, m.taken) :: (m.groups ++ n.groups)⟩

theorem braced_ways (text : Text) : braced.ways ('{' :: text) = (runs isWordChar text).flatMap closing := by
  simp only [braced, ways, beq_self_eq_true, if_true, List.flatMap_singleton, List.flatMap_map, List.map_flatMap,
    List.map_map]
  rfl

theorem braced_ways_other (text : Text) (other : ∀ c ∈ text.head?, c ≠ '{') : braced.ways text = [] := by
  cases text with
  | nil => rfl
  | cons c rest => simp [braced, ways, other c rfl]

-- A match of only a part of a run of word characters leads nowhere, for a word character comes next then.
theorem braced_ways_name (name rest : Text) (nonempty : name ≠ []) (word : ∀ c ∈ name, isWordChar c)
    (stop : ∀ c ∈ rest.head?, isWordChar c = false) :
    braced.ways ('{' :: (name ++ rest)) = closing ⟨name, rest, []⟩ := by
  obtain ⟨shorter, longest, left⟩ := runs_longest isWordChar name rest nonempty word stop
  have nowhere : shorter.flatMap closing = [] := by
    refine List.flatMap_eq_nil_iff.2 fun m member => ?_
    obtain ⟨c, more, restEq, isWord⟩ := left m member
    rw [closing, restEq]
    simp [ways, not_word c '}' isWord rfl]
  rw [braced_ways, longest, List.flatMap_cons, nowhere, List.append_nil]

theorem plain_ways_name (name rest : Text) (nonempty : name ≠ []) (word : ∀ c ∈ name, isWordChar c)
    (stop : ∀ c ∈ rest.head?, isWordChar c = false) :
    ∃ shorter, plain.ways (name ++ rest) = ⟨name, rest, [(2, name)]⟩ :: shorter := by
  obtain ⟨shorter, longest, _⟩ := runs_longest isWordChar name rest nonempty word stop
  refine ⟨shorter.map fun m => { m with groups := (2, m.taken) :: m.groups }, ?_⟩
  rw [plain, ways, ways, longest, List.map_cons]

theorem braced_ways_found (text : Text) (m : Match) (found : m ∈ braced.ways text) :
    ∃ name rest, name ≠ [] ∧ (∀ c ∈ name, isWordChar c) ∧ text = '{' :: (name ++ '}' :: rest) ∧
      m = ⟨'{' :: (name ++ ['}']), rest, [(1, name)]⟩ := by
  by_cases brace : ∀ c ∈ text.head?, c ≠ '{'
  · rw [braced_ways_other text brace] at found
    cases found
  · obtain ⟨text, rfl⟩ : ∃ body, text = '{' :: body := by
      simpa [List.head?_eq_some_iff] using brace
    obtain ⟨name, rest, rfl, word, stop⟩ := word_run text
    by_cases empty : name = []
    · subst empty
      rw [braced_ways, List.nil_append, runs_none isWordChar rest stop] at found
      cases found
    · rw [braced_ways_name name rest empty word stop, closing] at found
      obtain ⟨closed, close, rfl⟩ := List.mem_map.1 found
      cases rest with
      | nil => cases close
      | cons c more =>
          by_cases isClose : c = '}'
          · subst isClose
            obtain rfl := List.mem_singleton.1 close
            exact ⟨name, more, empty, word, rfl, rfl⟩
          · simp [ways, isClose] at close

theorem plain_ways_first (text : Text) (m : Match) (first : (plain.ways text).head? = some m) :
    ∃ name rest, name ≠ [] ∧ (∀ c ∈ name, isWordChar c) ∧ (∀ c ∈ rest.head?, isWordChar c = false) ∧
      text = name ++ rest ∧ m = ⟨name, rest, [(2, name)]⟩ := by
  obtain ⟨name, rest, rfl, word, stop⟩ := word_run text
  by_cases empty : name = []
  · subst empty
    rw [plain, ways, ways, List.nil_append, runs_none isWordChar rest stop] at first
    cases first
  · obtain ⟨shorter, ways⟩ := plain_ways_name name rest empty word stop
    rw [ways] at first
    cases first
    exact ⟨name, rest, empty, word, stop, rfl, rfl⟩

theorem reference_ways (text : Text) :
    reference.ways ('$' :: text) = (braced.ways text ++ plain.ways text).map (Match.after ⟨['$'], text, []⟩) := by
  simp [reference, ways]

end Regex

namespace Match

def name (m : Match) : Text := ((m.group? 1).or (m.group? 2)).getD []

end Match

namespace Regex

theorem match_of_refers (text name rest : Text) (refers : Refers text name rest) :
    ∃ m, reference.match? text = some m ∧ m.name = name ∧ m.rest = rest ∧ m.taken ≠ [] := by
  cases refers with
  | braced _ _ nonempty word =>
      have ways := braced_ways_name name ('}' :: rest) nonempty word fun c first => (Option.some.inj first) ▸ rfl
      rw [match?, reference_ways, ways]
      exact ⟨_, rfl, rfl, rfl, List.cons_ne_nil _ _⟩
  | plain _ _ nonempty word longest =>
      obtain ⟨shorter, ways⟩ := plain_ways_name name rest nonempty word longest
      have noBrace : ∀ c ∈ (name ++ rest).head?, c ≠ '{' := by
        obtain ⟨d, more, rfl⟩ := List.exists_cons_of_ne_nil nonempty
        exact fun c first => Option.some.inj first ▸ not_word d '{' (word d List.mem_cons_self) rfl
      rw [match?, reference_ways, braced_ways_other _ noBrace, ways]
      exact ⟨_, rfl, rfl, rfl, List.cons_ne_nil _ _⟩

theorem refers_of_match (text : Text) (m : Match) (first : reference.match? text = some m) :
    Refers text m.name m.rest := by
  cases text with
  | nil => cases first
  | cons c text =>
      by_cases sign : c = '$'
      · subst sign
        rw [match?, reference_ways, List.head?_map, Option.map_eq_some_iff] at first
        obtain ⟨n, first, rfl⟩ := first
        cases others : braced.ways text with
        | nil =>
            rw [others, List.nil_append] at first
            obtain ⟨name, rest, nonempty, word, stop, rfl, rfl⟩ := plain_ways_first text n first
            exact .plain name rest nonempty word stop
        | cons b more =>
            rw [others] at first
            cases first
            obtain ⟨name, rest, nonempty, word, rfl, rfl⟩ := braced_ways_found text n (others ▸ List.mem_cons_self)
            exact .braced name rest nonempty word
      · have nothing : reference.match? (c :: text) = none := by simp [match?, reference, ways, sign]
        rw [nothing] at first
        cases first

end Regex

end CommandShell
