import CommandShell.Proofs.Calculator.Reading
import CommandShell.Proofs.Syntax.Scanning

set_option autoImplicit false

namespace CommandShell

namespace Calculator

open Text

-- An operator that waits for its right operand: the text of its left operand and its own sign. Where none waits
-- there is no text.
def Waits (rank : Rank) (fits : Operator → Prop) (waiting : Option (Value × Operator)) (t : Text) : Prop :=
  match waiting with
  | none => t = []
  | some (a, op) => ∃ e before, Derives rank e before ∧ e.denote = .ok a ∧ fits op ∧ t = before ++ [op.char]

def Signs : Nat → Text → Prop
  | 0, t => t.isAllBlank = true
  | n + 1, t => ∃ before trail : Text, Signs n before ∧ trail.isAllBlank = true ∧ t = before ++ '-' :: trail

def LevelReads (level : Level) (t : Text) : Prop :=
  ∃ sum product signs, t = sum ++ product ++ signs ∧ Waits .sum Additive level.sum sum ∧
    Waits .product Multiplicative level.product product ∧ Signs level.minuses signs

def TermReads (waiting : Option (Value × Operator)) (term : Value) (t : Text) : Prop :=
  ∃ sum product e, t = sum ++ product ∧ Waits .sum Additive waiting sum ∧ Derives .product e product ∧
    e.denote = .ok term

def OuterReads : List Level → Text → Prop
  | [], t => t = []
  | level :: outer, t => ∃ before inside, t = before ++ inside ++ ['('] ∧ OuterReads outer before ∧
      LevelReads level inside

def PhaseReads (level : Level) : Phase → Text → Prop
  | .operand, t => LevelReads level t
  | .number n, t => ∃ before digits, t = before ++ digits ∧ LevelReads level before ∧ digits ≠ [] ∧
      (∀ c ∈ digits, IsDigit c) ∧ decimal digits = n
  | .string _ read, t => ∃ before, t = before ++ '"' :: read.reverse ∧ LevelReads level before ∧ '"' ∉ read
  | .operator term, t => level.product = none ∧ level.minuses = 0 ∧ TermReads level.sum term t

def HasRead (r : Reader) (t : Text) : Prop :=
  ∃ before inside, t = before ++ inside ∧ OuterReads r.outer before ∧ PhaseReads r.level r.phase inside

theorem signs_operand (n : Nat) (signs u : Text) (e : Expr) (v w : Value) (waits : Signs n signs)
    (derived : Derives .signed e u) (value : e.denote = .ok v) (negated : negateTimes n v = .ok w) :
    ∃ whole, Derives .signed whole (signs ++ u) ∧ whole.denote = .ok w := by
  induction n generalizing signs u e v with
  | zero =>
      obtain rfl : v = w := by simpa [negateTimes] using negated
      exact ⟨e, derived.lead signs waits, value⟩
  | succ n ih =>
      obtain ⟨before, trail, waitsBefore, blank, rfl⟩ := waits
      obtain ⟨opposed, first, others⟩ := (except_bind_ok_iff _ _ _).1 negated
      have one : Derives .signed (.negate e) ([] ++ '-' :: (trail ++ u)) := .minus e [] _ rfl (derived.lead trail blank)
      have oneValue : (Expr.negate e).denote = .ok opposed := by
        rw [Expr.denote, value, ← first, negate_eq_opposite]
        rfl
      simpa using ih before _ (.negate e) opposed waitsBefore one oneValue others

theorem settle_reads (outer inner : Rank) (joins : Operator → Prop)
    (one : ∀ e t, Derives inner e t → Derives outer e t)
    (more : ∀ op left right t u, joins op → Derives outer left t → Derives inner right u →
      Derives outer (.binary op left right) (t ++ op.char :: u))
    (waiting : Option (Value × Operator)) (before u : Text) (e : Expr) (v w : Value)
    (waits : Waits outer joins waiting before) (derived : Derives inner e u) (value : e.denote = .ok v)
    (settled : settle waiting v = .ok w) : ∃ whole, Derives outer whole (before ++ u) ∧ whole.denote = .ok w := by
  cases waiting with
  | none =>
      obtain rfl : before = [] := waits
      obtain rfl : v = w := by simpa [settle] using settled
      exact ⟨e, one e u derived, value⟩
  | some p =>
      obtain ⟨left, t, derivedLeft, leftValue, joined, rfl⟩ := waits
      refine ⟨.binary p.2 left e, by simpa using more p.2 left e t u joined derivedLeft derived, ?_⟩
      rw [Expr.denote, leftValue, value, ← settled]
      exact (combine_eq_apply _ _ _).symm

theorem complete_reads (level : Level) (before u : Text) (e : Expr) (v w : Value) (reads : LevelReads level before)
    (derived : Derives .primary e u) (value : e.denote = .ok v) (completed : level.complete v = .ok w) :
    TermReads level.sum w (before ++ u) := by
  obtain ⟨sum, product, signs, rfl, waitsSum, waitsProduct, waitsSigns⟩ := reads
  obtain ⟨negated, first, settled⟩ := (except_bind_ok_iff _ _ _).1 completed
  obtain ⟨signedTree, derivedSigned, signedValue⟩ :=
    signs_operand _ signs u e v negated waitsSigns (.signedOne e u derived) value first
  obtain ⟨whole, derivedWhole, wholeValue⟩ :=
    settle_reads .product .signed Multiplicative .productOne .productMore _ product _ signedTree negated w waitsProduct
      derivedSigned signedValue settled
  exact ⟨sum, _, whole, by simp, waitsSum, derivedWhole, wholeValue⟩

theorem supply_reads (level : Level) (outer : List Level) (before inside u : Text) (e : Expr) (v : Value)
    (next : Reader) (outerReads : OuterReads outer before) (reads : LevelReads level inside)
    (derived : Derives .primary e u) (value : e.denote = .ok v)
    (supplied : Reader.supply ⟨.operand, level, outer⟩ v = .ok next) :
    HasRead next (before ++ inside ++ u) := by
  obtain ⟨term, completed, same⟩ := (except_bind_ok_iff _ _ _).1 supplied
  obtain rfl := Except.ok.inj same
  have whole := complete_reads level inside u e v term reads derived value completed
  exact ⟨before, inside ++ u, by simp, outerReads, rfl, rfl, whole⟩

theorem signs_blank (n : Nat) (signs : Text) (c : Char) (blank : isBlank c = true) (waits : Signs n signs) :
    Signs n (signs ++ [c]) := by
  have one : Text.isAllBlank [c] = true := (blank_text_cons c []).2 ⟨blank, rfl⟩
  cases n with
  | zero => exact (blank_text_append signs [c]).2 ⟨waits, one⟩
  | succ n =>
      obtain ⟨before, trail, waitsBefore, blankTrail, rfl⟩ := waits
      exact ⟨before, trail ++ [c], waitsBefore, (blank_text_append trail [c]).2 ⟨blankTrail, one⟩, by simp⟩

theorem level_blank (level : Level) (t : Text) (c : Char) (blank : isBlank c = true) (reads : LevelReads level t) :
    LevelReads level (t ++ [c]) := by
  obtain ⟨sum, product, signs, rfl, waitsSum, waitsProduct, waitsSigns⟩ := reads
  exact ⟨sum, product, signs ++ [c], by simp, waitsSum, waitsProduct, signs_blank _ signs c blank waitsSigns⟩

theorem level_sign (level : Level) (t : Text) (reads : LevelReads level t) :
    LevelReads { level with minuses := level.minuses + 1 } (t ++ ['-']) := by
  obtain ⟨sum, product, signs, rfl, waitsSum, waitsProduct, waitsSigns⟩ := reads
  exact ⟨sum, product, signs ++ ['-'], by simp, waitsSum, waitsProduct, signs, [], waitsSigns, rfl, rfl⟩

theorem level_start : LevelReads {} [] := ⟨[], [], [], rfl, rfl, rfl, rfl⟩

theorem operand_reads (level : Level) (outer : List Level) (before inside : Text) (position : Nat) (c : Char)
    (next : Reader) (outerReads : OuterReads outer before) (reads : LevelReads level inside)
    (stepped : Reader.operand ⟨.operand, level, outer⟩ position c = .ok next) :
    HasRead next (before ++ inside ++ [c]) := by
  unfold Reader.operand at stepped
  by_cases blank : isBlank c = true
  · obtain rfl : _ = next := by simpa [blank] using stepped
    exact ⟨before, inside ++ [c], by simp, outerReads, level_blank level inside c blank reads⟩
  · rw [if_neg blank] at stepped
    by_cases sign : c = '-'
    · subst sign
      obtain rfl := Except.ok.inj stepped
      exact ⟨before, inside ++ ['-'], by simp, outerReads, level_sign level inside reads⟩
    · rw [if_neg sign] at stepped
      by_cases opens : c = '('
      · subst opens
        obtain rfl := Except.ok.inj stepped
        exact ⟨before ++ inside ++ ['('], [], by simp, ⟨before, inside, rfl, outerReads, reads⟩, level_start⟩
      · rw [if_neg opens] at stepped
        by_cases quotes : c = '"'
        · subst quotes
          obtain rfl := Except.ok.inj stepped
          exact ⟨before, inside ++ ['"'], by simp, outerReads, inside, rfl, reads, by simp⟩
        · rw [if_neg quotes] at stepped
          cases digit : digit? c with
          | none => simp [digit] at stepped
          | some d =>
              obtain ⟨isDigit, rfl⟩ := (digit_some_iff c d).1 digit
              obtain rfl : _ = next := by simpa [digit] using stepped
              exact ⟨before, inside ++ [c], by simp, outerReads, inside, [c], rfl, reads, by simp,
                by simpa using isDigit, by simp [decimal]⟩

theorem multiplicative_of (c : Char) (op : Operator) (found : Operator.multiplicative? c = some op) :
    Multiplicative op ∧ c = op.char := by
  grind [Operator.multiplicative?, Multiplicative, Operator.char]

theorem additive_of (c : Char) (op : Operator) (found : Operator.additive? c = some op) :
    Additive op ∧ c = op.char := by
  grind [Operator.additive?, Additive, Operator.char]

theorem operator_reads (r : Reader) (before inside : Text) (term : Value) (position : Nat) (c : Char)
    (next : Reader) (noProduct : r.level.product = none) (noSign : r.level.minuses = 0)
    (outerReads : OuterReads r.outer before) (reads : TermReads r.level.sum term inside)
    (stepped : r.operator term position c = .ok next) : HasRead next (before ++ inside ++ [c]) := by
  obtain ⟨sum, product, e, rfl, waits, derived, value⟩ := reads
  unfold Reader.operator at stepped
  by_cases blank : isBlank c = true
  · obtain rfl : _ = next := by simpa [blank] using stepped
    have longer := derived.trail [c] ((blank_text_cons c []).2 ⟨blank, rfl⟩)
    exact ⟨before, sum ++ product ++ [c], by simp, outerReads, noProduct, noSign, sum, product ++ [c], e, by simp,
      waits, longer, value⟩
  · rw [if_neg blank] at stepped
    cases times : Operator.multiplicative? c with
    | some op =>
        obtain ⟨multiplicative, rfl⟩ := multiplicative_of c op times
        obtain rfl : _ = next := by simpa [times] using stepped
        refine ⟨before, sum ++ product ++ [op.char], by simp, outerReads, sum, product ++ [op.char], [], by simp, waits,
          ⟨e, product, derived, value, multiplicative, rfl⟩, ?_⟩
        rw [noSign]
        rfl
    | none =>
        simp only [times] at stepped
        obtain ⟨total, settled, rest⟩ := (except_bind_ok_iff _ _ _).1 stepped
        obtain ⟨whole, derivedWhole, wholeValue⟩ :=
          settle_reads .sum .product Additive .sumOne .sumMore _ sum product e term total waits derived value settled
        cases plus : Operator.additive? c with
        | some op =>
            obtain ⟨additive, rfl⟩ := additive_of c op plus
            obtain rfl : _ = next := by simpa [plus, pure, Except.pure] using rest
            exact ⟨before, sum ++ product ++ [op.char], by simp, outerReads, sum ++ product ++ [op.char], [], [],
              by simp, ⟨whole, sum ++ product, derivedWhole, wholeValue, additive, rfl⟩, rfl, rfl⟩
        | none =>
            simp only [plus] at rest
            obtain ⟨phase, level, outer⟩ := r
            cases outer with
            | nil => simp at rest
            | cons enclosing outer =>
                by_cases closes : c = ')'
                · subst closes
                  obtain ⟨front, inside, rfl, frontReads, insideReads⟩ := outerReads
                  have group := Derives.group whole [] (sum ++ product) [] rfl rfl derivedWhole
                  have supplied := supply_reads enclosing outer front inside _ whole total next frontReads insideReads
                    group wholeValue (by simpa using rest)
                  simpa using supplied
                · simp [closes] at rest

theorem number_term_reads (n : Nat) (level : Level) (inside : Text) (v term : Value)
    (reads : PhaseReads level (.number n) inside) (value : Value.ofInt n = .ok v)
    (completed : level.complete v = .ok term) : TermReads level.sum term inside := by
  obtain ⟨lead, digits, rfl, leadReads, nonempty, each, rfl⟩ := reads
  have number := Derives.number [] digits [] rfl rfl nonempty each
  rw [of_int_eq_exact] at value
  have termReads := complete_reads level lead _ _ v term leadReads number value completed
  rwa [List.nil_append, List.append_nil] at termReads

theorem step_reads (r next : Reader) (t : Text) (position : Nat) (c : Char) (reads : HasRead r t)
    (stepped : r.step position c = .ok next) : HasRead next (t ++ [c]) := by
  obtain ⟨phase, level, outer⟩ := r
  obtain ⟨before, inside, rfl, outerReads, phaseReads⟩ := reads
  cases phase with
  | operand => exact operand_reads level outer before inside position c next outerReads phaseReads stepped
  | operator term =>
      obtain ⟨noProduct, noSign, termReads⟩ := phaseReads
      exact operator_reads _ before inside term position c next noProduct noSign outerReads termReads stepped
  | string start read =>
      obtain ⟨lead, rfl, leadReads, clean⟩ := phaseReads
      by_cases closes : c = '"'
      · subst closes
        have text := Derives.text [] read.reverse [] rfl rfl (by simpa using clean)
        have supplied := supply_reads level outer before lead _ _ _ next outerReads leadReads text rfl stepped
        simpa using supplied
      · obtain rfl : _ = next := by simpa [Reader.step, closes] using stepped
        exact ⟨before, lead ++ '"' :: read.reverse ++ [c], by simp, outerReads, lead, by simp, leadReads,
          by simpa [Ne.symm closes] using clean⟩
  | number n =>
      cases digit : digit? c with
      | some d =>
          obtain ⟨lead, digits, rfl, leadReads, nonempty, each, rfl⟩ := phaseReads
          obtain ⟨isDigit, rfl⟩ := (digit_some_iff c d).1 digit
          obtain rfl : _ = next := by simpa [Reader.step, digit] using stepped
          refine ⟨before, lead ++ (digits ++ [c]), by simp, outerReads, lead, digits ++ [c], rfl, leadReads, by simp,
            ?_, by simp [decimal]⟩
          intro x member
          rcases List.mem_append.1 member with old | new
          · exact each x old
          · exact List.mem_singleton.1 new ▸ isDigit
      | none =>
          simp only [Reader.step, digit] at stepped
          obtain ⟨v, value, rest⟩ := (except_bind_ok_iff _ _ _).1 stepped
          obtain ⟨term, completed, others⟩ := (except_bind_ok_iff _ _ _).1 rest
          have termReads := number_term_reads n level inside v term phaseReads value completed
          exact operator_reads ⟨.number n, { sum := level.sum }, outer⟩ before inside term position c next rfl rfl outerReads
            termReads others

theorem total_reads (r : Reader) (before inside : Text) (term v : Value) (position : Nat)
    (outerReads : OuterReads r.outer before) (reads : TermReads r.level.sum term inside)
    (finished : r.total term position = .ok v) : ∃ e, Derives .sum e (before ++ inside) ∧ e.denote = .ok v := by
  obtain ⟨sum, product, e, rfl, waits, derived, value⟩ := reads
  obtain ⟨total, settled, rest⟩ := (except_bind_ok_iff _ _ _).1 finished
  obtain ⟨phase, level, outer⟩ := r
  cases outer with
  | cons enclosing outer => simp at rest
  | nil =>
      obtain rfl : before = [] := outerReads
      obtain rfl : total = v := by simpa [pure, Except.pure] using rest
      exact settle_reads .sum .product Additive .sumOne .sumMore _ sum product e term total waits derived value settled

theorem finish_reads (r : Reader) (t : Text) (position : Nat) (v : Value) (reads : HasRead r t)
    (finished : r.finish position = .ok v) : ∃ e, Derives .sum e t ∧ e.denote = .ok v := by
  obtain ⟨phase, level, outer⟩ := r
  obtain ⟨before, inside, rfl, outerReads, phaseReads⟩ := reads
  cases phase with
  | operand => simp [Reader.finish] at finished
  | string start read => simp [Reader.finish] at finished
  | operator term => exact total_reads _ before inside term v position outerReads phaseReads.2.2 finished
  | number n =>
      obtain ⟨whole, value, rest⟩ := (except_bind_ok_iff _ _ _).1 finished
      obtain ⟨term, completed, others⟩ := (except_bind_ok_iff _ _ _).1 rest
      have termReads := number_term_reads n level inside whole term phaseReads value completed
      exact total_reads ⟨.number n, level, outer⟩ before inside term v position outerReads termReads others

theorem read_reads (r : Reader) (t rest : Text) (position : Nat) (v : Value) (reads : HasRead r t)
    (done : r.read position rest = .ok v) : ∃ e, Derives .sum e (t ++ rest) ∧ e.denote = .ok v := by
  induction rest generalizing r t position with
  | nil => simpa using finish_reads r t position v reads done
  | cons c more ih =>
      obtain ⟨next, stepped, others⟩ := (except_bind_ok_iff _ _ _).1 done
      simpa using ih next (t ++ [c]) _ (step_reads r next t position c reads stepped) others

theorem derives_of_eval (t : Text) (v : Value) (notBlank : t.isAllBlank = false) (done : eval t = .ok v) :
    ∃ e, Derives .sum e t ∧ e.denote = .ok v := by
  have start : HasRead {} [] := ⟨[], [], rfl, rfl, level_start⟩
  rw [eval, if_neg (by simp [notBlank])] at done
  exact read_reads {} [] t 0 v start done

theorem apply_not_unit (op : Operator) (a b : Value) : apply op a b ≠ .ok .unit := by
  cases a with
  | unit => simp [apply]
  | str t => cases op <;> simp [apply]
  | int n =>
      cases b with
      | unit => simp [apply]
      | str t => simp [apply]
      | int m => exact integer_not_unit _ (operate_integer op _ _)

theorem denote_not_unit (e : Expr) : e.denote ≠ .ok .unit := by
  cases e with
  | number n => exact integer_not_unit _ (exact_integer n)
  | text t => simp [Expr.denote]
  | negate operand =>
      intro done
      obtain ⟨v, _, last⟩ := (except_bind_ok_iff _ _ _).1 done
      cases v with
      | unit => cases last
      | int n => exact integer_not_unit _ (exact_integer _) last
      | str t => cases last
  | binary op left right =>
      intro done
      obtain ⟨a, _, rest⟩ := (except_bind_ok_iff _ _ _).1 done
      obtain ⟨b, _, last⟩ := (except_bind_ok_iff _ _ _).1 rest
      exact apply_not_unit op a b last

theorem evaluation_follows_grammar (t : Text) :
    (∀ v, eval t = .ok v ↔
      t.isAllBlank = true ∧ v = .unit ∨ ∃ e, Derives .sum e t ∧ e.denote = .ok v) ∧
    (∀ e k, Derives .sum e t → e.denote = .error k → eval t = .error k) ∧
    (t.isAllBlank = false → eval t ≠ .ok .unit) := by
  refine ⟨fun v => ⟨fun done => ?_, ?_⟩, fun e k derived failed => ?_, fun notBlank done => ?_⟩
  · by_cases blank : t.isAllBlank = true
    · rw [eval, if_pos blank] at done
      exact .inl ⟨blank, (Except.ok.inj done).symm⟩
    · exact .inr (derives_of_eval t v (by simpa using blank) done)
  · rintro (⟨blank, rfl⟩ | ⟨e, derived, value⟩)
    · rw [eval, if_pos blank]
    · rw [eval_of_derives e t derived, value]
  · rw [eval_of_derives e t derived, failed]
  · obtain ⟨e, _, value⟩ := derives_of_eval t .unit notBlank done
    exact denote_not_unit e value

theorem evaluation_follows_grammar_first_error :
    ∃ e, Derives .sum e "-(1 / 0) + (2 - \"a\")".toList ∧ e.denote = .error .divisionByZero ∧
      eval "-(1 / 0) + (2 - \"a\")".toList = .error .divisionByZero ∧
      eval "-(1 / 0) + (2 - \"a\")".toList ≠ .ok .unit := by
  have one := Derives.digit [] [' '] '1' rfl rfl (by decide)
  have zero := Derives.digit [' '] [] '0' rfl rfl (by decide)
  have two := Derives.digit [] [' '] '2' rfl rfl (by decide)
  have letter := Derives.text [' '] ['a'] [] rfl rfl (by decide)
  have quotient := Derives.productMore .div _ _ _ _ (.inr (.inl rfl)) (.productOne _ _ (.signedOne _ _ one))
    (.signedOne _ _ zero)
  have left := Derives.minus _ [] _ rfl (.signedOne _ _ (.group _ [] _ [' '] rfl rfl (.sumOne _ _ quotient)))
  have difference := Derives.sumMore .sub _ _ _ _ (.inr rfl) (.sumOne _ _ (.productOne _ _ (.signedOne _ _ two)))
    (.productOne _ _ (.signedOne _ _ letter))
  have right := Derives.group _ [' '] _ [] rfl rfl difference
  have derived := Derives.sumMore .add _ _ _ _ (.inl rfl) (.sumOne _ _ (.productOne _ _ left))
    (.productOne _ _ (.signedOne _ _ right))
  obtain ⟨_, errors, notUnit⟩ := evaluation_follows_grammar "-(1 / 0) + (2 - \"a\")".toList
  refine ⟨_, derived, ?value, errors _ _ derived ?value, notUnit rfl⟩
  simp [decimal, Expr.denote, exact, apply, operate, bind, Except.bind]

end Calculator

end CommandShell
