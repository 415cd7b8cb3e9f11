import CommandShell.Proofs.Syntax.Flattening

set_option autoImplicit false

namespace CommandShell

namespace Token

-- What may come after tokens that end with `last`; no token stands for the beginning of a line, and for its end.
def mayFollow : (last next : Option Token) → Bool
  | some (.word _), some (.subshell _) => false
  | some (.word _), _ => true
  | some (.subshell _), some (.word _) => false
  | some (.subshell _), some (.subshell _) => false
  | some (.subshell _), _ => true
  | some .ampersand, next => next.isNone
  | last, none => last ≠ some .pipe
  | _, some (.word _) => true
  | _, some (.subshell _) => true
  | _, _ => false

def offence : (last next : Option Token) → SyntaxError
  | some .ampersand, _ => .misplacedAmpersand
  | some (.word _), some (.subshell _) => .misplacedSubshell
  | some (.subshell _), some (.subshell _) => .misplacedSubshell
  | some (.subshell _), some (.word _) => .misplacedSubshell
  | _, _ => .emptyCommand

def check (last : Option Token) : List Token → Except SyntaxError Unit
  | [] => if mayFollow last none then .ok () else .error (offence last none)
  | t :: rest => if mayFollow last (some t) then check (some t) rest else .error (offence last (some t))

def Fits (last : Option Token) : List Token → Prop
  | [] => True
  | t :: rest => mayFollow last (some t) ∧ Fits (some t) rest

-- After a stage it is all one which token the stage ended with.
def ended : Option Token := some (.subshell [])

theorem check_word (w v : Word) (tokens : List Token) :
    check (some (.word w)) tokens = check (some (.word v)) tokens := by
  cases tokens with
  | nil => rfl
  | cons t rest => cases t <;> rfl

theorem check_subshell (body : Text) (tokens : List Token) :
    check (some (.subshell body)) tokens = check ended tokens := by
  cases tokens with
  | nil => rfl
  | cons t rest => cases t <;> rfl

theorem check_semicolon (tokens : List Token) : check (some .semicolon) tokens = check none tokens := by
  cases tokens with
  | nil => rfl
  | cons t rest => cases t <;> rfl

theorem check_start (t : Token) (rest : List Token) : check none (t :: rest) = check (some .pipe) (t :: rest) := by
  cases t <;> rfl

theorem check_more_words (w : Word) (tokens : List Token) :
    check (some (.word w)) tokens = check (some (.word w)) (splitWords tokens).2 := by
  fun_induction splitWords tokens with
  | case1 v rest ih => exact (check_word v w rest).trans ih
  | case2 tokens _ => rfl

theorem check_append (last : Option Token) (p rest : List Token) (fits : Fits last p) :
    check last (p ++ rest) = check (p.getLast?.or last) rest := by
  induction p generalizing last with
  | nil => rfl
  | cons t more ih =>
      have others := ih (some t) fits.2
      rw [List.cons_append, check, if_pos fits.1, others]
      cases more <;> simp [List.getLast?_cons]

theorem fits_of_check (last : Option Token) (p rest : List Token) (accepted : check last (p ++ rest) = .ok ()) :
    Fits last p := by
  induction p generalizing last with
  | nil => trivial
  | cons t more ih =>
      rw [List.cons_append, check] at accepted
      by_cases follows : mayFollow last (some t) = true
      · rw [if_pos follows] at accepted
        exact ⟨follows, ih (some t) accepted⟩
      · rw [if_neg follows] at accepted
        cases accepted

theorem check_completed (last : Option Token) : ∃ more, check last more = .ok () := by
  cases last with
  | none => exact ⟨[], rfl⟩
  | some t =>
      cases t with
      | pipe => exact ⟨[.word (.bare [])], rfl⟩
      | word w => exact ⟨[], rfl⟩
      | subshell body => exact ⟨[], rfl⟩
      | ampersand => exact ⟨[], rfl⟩
      | semicolon => exact ⟨[], rfl⟩

theorem longest_fitting (last : Option Token) (tokens : List Token) : ∃ p rest, tokens = p ++ rest ∧ Fits last p ∧
    (∀ q, q <+: tokens → Fits last q → q <+: p) ∧
    check last tokens = if mayFollow (p.getLast?.or last) rest.head? then .ok ()
      else .error (offence (p.getLast?.or last) rest.head?) := by
  induction tokens generalizing last with
  | nil => exact ⟨[], [], rfl, trivial, fun q front _ => front, rfl⟩
  | cons t more ih =>
      by_cases follows : mayFollow last (some t) = true
      · obtain ⟨p, rest, rfl, fits, longest, checked⟩ := ih (some t)
        refine ⟨t :: p, rest, rfl, ⟨follows, fits⟩, fun q front qFits => ?_, ?_⟩
        · cases q with
          | nil => exact List.nil_prefix
          | cons s others =>
              obtain ⟨rfl, later⟩ := List.cons_prefix_cons.1 front
              exact List.cons_prefix_cons.2 ⟨rfl, longest others later qFits.2⟩
        · have behind : (t :: p).getLast?.or last = p.getLast?.or (some t) := by
            cases p <;> simp [List.getLast?_cons]
          rw [check, if_pos follows, checked, behind]
      · refine ⟨[], t :: more, rfl, trivial, fun q front qFits => ?_, ?_⟩
        · cases q with
          | nil => exact List.nil_prefix
          | cons s others =>
              obtain ⟨rfl, _⟩ := List.cons_prefix_cons.1 front
              exact absurd qFits.1 follows
        · change check last (t :: more) = if mayFollow last (some t) then _ else _
          rw [check, if_neg follows, if_neg follows]
          rfl

theorem offence_empty (last next : Option Token) (refused : mayFollow last next = false)
    (empty : offence last next = .emptyCommand) :
    last ∈ [none, some .pipe, some .semicolon] ∧ next ∈ [some .pipe, some .semicolon, some .ampersand, none] := by
  rcases last with _ | (_ | _ | _ | _ | _) <;> rcases next with _ | (_ | _ | _ | _ | _) <;>
    simp_all [mayFollow, offence]

end Token

open Token

namespace Stage

theorem check_words (w : Word) (rest : List Token) :
    check (some .pipe) (.word w :: rest) = parse (.word w :: rest) >>= fun read => check ended read.2 := by
  have first : check (some .pipe) (.word w :: rest) = check (some (.word w)) (splitWords rest).2 :=
    check_more_words w rest
  have noWord := split_words_rest rest
  simp only [first, parse, splitWords]
  cases split : (splitWords rest).2 with
  | nil => rfl
  | cons t more =>
      cases t with
      | word v => exact absurd split (noWord v more)
      | subshell body => rfl
      | pipe => rfl
      | ampersand => rfl
      | semicolon => rfl

theorem check_parse (tokens : List Token) :
    check (some .pipe) tokens = parse tokens >>= fun read => check ended read.2 := by
  cases tokens with
  | nil => rfl
  | cons t rest =>
      cases t with
      | word w => exact check_words w rest
      | subshell body =>
          have first : check (some .pipe) (.subshell body :: rest) = check ended rest := check_subshell body rest
          rw [first]
          cases rest with
          | nil => rfl
          | cons next more => cases next <;> rfl
      | pipe => rfl
      | ampersand => rfl
      | semicolon => rfl

end Stage

namespace Pipeline

theorem check_parse (tokens : List Token) :
    check (some .pipe) tokens = parse tokens >>= fun read => check ended read.2 := by
  rw [Stage.check_parse]
  fun_induction parse tokens with
  | case1 tokens e failed => rw [failed]; rfl
  | case2 tokens s rest stage ih =>
      rw [stage]
      rw [← Stage.check_parse] at ih
      change check (some .pipe) rest = _
      rw [ih]
      cases parse rest <;> rfl
  | case3 tokens s rest _ stage => rw [stage]; rfl

end Pipeline

namespace CommandList

theorem check_parse (tokens : List Token) : check none tokens = (parse tokens).map fun _ => () := by
  cases tokens with
  | nil =>
      rw [parse_nil]
      rfl
  | cons t others =>
      rw [check_start, Pipeline.check_parse, parse_nonempty _ (List.cons_ne_nil t others)]
      cases pipeline : Pipeline.parse (t :: others) with
      | error e => rfl
      | ok read =>
          obtain ⟨p, rest⟩ := read
          have shorter := Pipeline.length_parse_lt pipeline
          have ends := ((Pipeline.parse_ok_iff _ _ _).1 pipeline).2.2
          change check ended rest = (parseAfter p rest).map fun _ => ()
          cases rest with
          | nil => rfl
          | cons next more =>
              rcases ends next rfl with rfl | rfl
              · change check (some .semicolon) more = _
                rw [check_semicolon, check_parse more, parseAfter]
                cases parse more <;> rfl
              · cases more <;> rfl
termination_by tokens.length
decreasing_by exact Nat.lt_of_succ_lt shorter

theorem parse_error_iff (tokens : List Token) (e : SyntaxError) :
    parse tokens = .error e ↔ check none tokens = .error e := by
  rw [check_parse]
  cases parse tokens with
  | ok list => simp [Except.map]
  | error other => simp [Except.map]

def Viable (p : List Token) : Prop := ∃ more list, parse (p ++ more) = .ok list

theorem viable_iff (p : List Token) : Viable p ↔ Fits none p := by
  constructor
  · rintro ⟨more, list, parsed⟩
    have accepted : check none (p ++ more) = .ok () := by
      rw [check_parse, parsed]
      rfl
    exact fits_of_check none p more accepted
  · intro fits
    obtain ⟨more, accepted⟩ := check_completed p.getLast?
    have whole := check_append none p more fits
    rw [Option.or_none, accepted, check_parse] at whole
    cases parsed : parse (p ++ more) with
    | ok list => exact ⟨more, list, parsed⟩
    | error e =>
        rw [parsed] at whole
        cases whole

theorem refused_behind_longest_viable (tokens : List Token) (e : SyntaxError) (refused : parse tokens = .error e) :
    ∃ p rest, tokens = p ++ rest ∧ Viable p ∧ (∀ q, q <+: tokens → Viable q → q <+: p) ∧
      e = offence p.getLast? rest.head? ∧
      (e = .emptyCommand → p.getLast? ∈ [none, some .pipe, some .semicolon] ∧
        rest.head? ∈ [some .pipe, some .semicolon, some .ampersand, none]) := by
  obtain ⟨p, rest, whole, fits, longest, checked⟩ := longest_fitting none tokens
  rw [(parse_error_iff tokens e).1 refused, Option.or_none] at checked
  by_cases follows : mayFollow p.getLast? rest.head? = true
  · rw [if_pos follows] at checked
    cases checked
  · rw [if_neg follows] at checked
    obtain rfl : e = offence p.getLast? rest.head? := Except.error.inj checked
    refine ⟨p, rest, whole, (viable_iff p).2 fits, fun q front viable => ?_, rfl, fun empty => ?_⟩
    · exact longest q front ((viable_iff q).1 viable)
    · exact offence_empty _ _ (by simpa using follows) empty

theorem refused_behind_longest_viable_subshell :
    let tokens : List Token := [.word (.bare ['a']), .pipe, .subshell ['b'], .word (.bare ['c']), .pipe]
    parse tokens = .error .misplacedSubshell ∧ ∃ p rest, tokens = p ++ rest ∧ Viable p ∧
      (∀ q, q <+: tokens → Viable q → q <+: p) ∧ .misplacedSubshell = offence p.getLast? rest.head? := by
  intro tokens
  have refused : parse tokens = .error .misplacedSubshell := (parse_error_iff _ _).2 rfl
  obtain ⟨p, rest, whole, viable, longest, offends, _⟩ := refused_behind_longest_viable tokens _ refused
  exact ⟨refused, p, rest, whole, viable, longest, offends⟩

end CommandList

end CommandShell
