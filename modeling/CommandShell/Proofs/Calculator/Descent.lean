import CommandShell.Proofs.Calculator.Cursor

set_option autoImplicit false

namespace CommandShell

namespace Calculator

open Text

namespace Cursor

variable (t : Text)

def isDigit (c : Char) : Bool := (digit? c).isSome

def number : Cursor Value := do
  let start ← get
  skip t isDigit fun _ => 1
  fun stop => (t.slice? start stop).bind fun digits => lift (Value.ofInt (decimal digits)) stop

def string : Cursor Value := do
  let rest ← ahead t
  match rest.span (· ≠ '"') with
  | (_, []) => fail .unterminatedString
  | (inside, _ :: _) =>
    move t (byteLength inside + 1)
    return .str inside

mutual

def sum : Nat → Cursor Value
  | 0 => exhausted
  | steps + 1 => do sumFrom steps (← product steps)

def sumFrom : Nat → Value → Cursor Value
  | 0, _ => exhausted
  | steps + 1, left => do
    match (← peek t).bind Operator.additive? with
    | none => return left
    | some op =>
      let _ ← advance t
      let right ← product steps
      sumFrom steps (← lift (left.combine op right))

def product : Nat → Cursor Value
  | 0 => exhausted
  | steps + 1 => do productFrom steps (← signed steps)

def productFrom : Nat → Value → Cursor Value
  | 0, _ => exhausted
  | steps + 1, left => do
    match (← peek t).bind Operator.multiplicative? with
    | none => return left
    | some op =>
      let _ ← advance t
      let right ← signed steps
      productFrom steps (← lift (left.combine op right))

def signed : Nat → Cursor Value
  | 0 => exhausted
  | steps + 1 => do
    if (← peek t) = some '-' then
      let _ ← advance t
      let operand ← signed steps
      lift operand.negate
    else primary steps

def primary : Nat → Cursor Value
  | 0 => exhausted
  | steps + 1 => do
    match ← peek t with
    | none => fail .unexpectedEnd
    | some c =>
      if c = '(' then
        let _ ← advance t
        let inner ← sum steps
        if (← advance t) = some ')' then return inner else fail .expectedParen
      else if c = '"' then
        let _ ← advance t
        string t
      else if isDigit c then number t
      else fail (.unexpected c)

end

-- From a sum to a sum in parentheses there are four calls.
def depth : Nat := 4 * t.length + 4

def whole : Cursor Value := do
  if (← peek t).isNone then return .unit
  let v ← sum t (depth t)
  expectEnd t
  return v

def evaluate : Option (Except EvalError Value) := ((whole t).run' 0).run

def Operand (x : Cursor Value) (rest : Text) : Prop :=
  ∀ p level outer, Stands t p rest → Ends t (Reader.read ⟨.operand, level, outer⟩ p rest)
    (fun v q more => more.length ≤ rest.length ∧
      Reader.resume level outer q more v = Reader.read ⟨.operand, level, outer⟩ p rest) (x p)

-- What follows is no blank, and goes on neither with a product nor, for a sum, with a sum.
def EndsProduct (rest : Text) : Prop := ∀ c ∈ rest.head?, isBlank c = false ∧ Operator.multiplicative? c = none

def EndsSum (rest : Text) : Prop := EndsProduct rest ∧ ∀ c ∈ rest.head?, Operator.additive? c = none

def Product (x : Cursor Value) (rest : Text) : Prop :=
  ∀ p sum outer, Stands t p rest → Ends t (Reader.read ⟨.operand, { sum }, outer⟩ p rest)
    (fun v q more => more.length ≤ rest.length ∧ EndsProduct more ∧
      Reader.read ⟨.operator v, { sum }, outer⟩ q more = Reader.read ⟨.operand, { sum }, outer⟩ p rest) (x p)

def Sum (x : Cursor Value) (rest : Text) : Prop :=
  ∀ p outer, Stands t p rest → Ends t (Reader.read ⟨.operand, {}, outer⟩ p rest)
    (fun v q more => more.length ≤ rest.length ∧ EndsSum more ∧
      Reader.read ⟨.operator v, {}, outer⟩ q more = Reader.read ⟨.operand, {}, outer⟩ p rest) (x p)

-- A text that is shorter than this one is read to the end of a sum, given four steps for each character.
def Inner (rest : Text) : Prop :=
  ∀ more steps, more.length < rest.length → 4 * more.length + 4 ≤ steps → Sum t (sum t steps) more

theorem Inner.shorter (rest more : Text) (inner : Inner t rest) (shorter : more.length ≤ rest.length) : Inner t more :=
  fun u steps less enough => inner u steps (Nat.lt_of_lt_of_le less shorter) enough

theorem is_digit_iff (c : Char) : isDigit c = true ↔ IsDigit c := by
  rw [isDigit, Option.isSome_iff_exists]
  simp only [digit_some_iff, exists_and_left, exists_eq, and_true]

theorem number_ends (p : Nat) (c : Char) (tail : Text) (level : Level) (outer : List Level) (digit : isDigit c = true)
    (stands : Stands t p (c :: tail)) : Ends t (Reader.read ⟨.operand, level, outer⟩ p (c :: tail))
      (fun v q rest => rest.length ≤ (c :: tail).length ∧
        Reader.resume level outer q rest v = Reader.read ⟨.operand, level, outer⟩ p (c :: tail)) (number t p) := by
  obtain ⟨digits, more, split, each, ends⟩ := split_while isDigit (c :: tail)
  have nonempty : digits ≠ [] := by
    rintro rfl
    rw [List.nil_append] at split
    subst split
    rw [ends c rfl] at digit
    cases digit
  rw [split] at stands ⊢
  have moved : skip t isDigit (fun _ => 1) p = some (.ok ((), p + byteLength digits)) := by
    apply skip_stands t isDigit (fun _ => 1) ?_ p digits more stands each ends
    intro x isKind
    have small : x.val ≤ 127 := UInt32.le_trans ((is_digit_iff x).1 isKind).2 (by decide)
    exact (Char.utf8Size_eq_one_iff.2 small).symm
  have cut : t.slice? p (p + byteLength digits) = some digits := by
    obtain ⟨before, same, length⟩ := stands
    apply (slice_some_iff t _ _ digits).2
    exact ⟨before, more, by simpa using same, length.symm, by rw [byte_length_append, length]⟩
  have lifted : number t p = lift (Value.ofInt (decimal digits)) (p + byteLength digits) := by
    rw [number, bind_value _ _ p p p rfl, bind_value _ _ p _ () moved, cut]
    rfl
  have noDigit : NoDigit more := by
    intro x member isDigit
    have other := ends x member
    rw [(is_digit_iff x).2 isDigit] at other
    cases other
  have reads := Reader.reads_number level outer p digits more nonempty (fun x member => (is_digit_iff x).1 (each x member))
    noDigit
  rw [← of_int_eq_exact] at reads
  rw [lifted]
  apply (lift_ends t _ (Value.ofInt (decimal digits)) _ more (stands.past t p digits more) _ reads).weaken
  rintro v q rest ⟨rfl, rfl, same⟩
  exact ⟨by simp, same⟩

theorem span_of_split (kind : Char → Bool) (front more : Text) (each : ∀ c ∈ front, kind c = true)
    (ends : ∀ c ∈ more.head?, kind c = false) : (front ++ more).span kind = (front, more) := by
  rw [List.span_eq_takeWhile_dropWhile, List.takeWhile_append_of_pos each, List.dropWhile_append_of_pos each]
  cases more with
  | nil => simp
  | cons c rest => simp [ends c rfl]

theorem string_ends (p : Nat) (tail : Text) (level : Level) (outer : List Level) (stands : Stands t p ('"' :: tail)) :
    Ends t (Reader.read ⟨.operand, level, outer⟩ p ('"' :: tail))
      (fun v q rest => rest.length ≤ tail.length ∧
        Reader.resume level outer q rest v = Reader.read ⟨.operand, level, outer⟩ p ('"' :: tail))
      (string t (p + '"'.utf8Size)) := by
  have inside := stands.next t p '"' tail
  obtain ⟨s, more, rfl, each, ends⟩ := split_while (· ≠ '"') tail
  have unquoted : '"' ∉ s := fun member => by simpa using each '"' member
  rw [string, bind_value _ _ _ _ _ (ahead_stands t _ _ inside)]
  simp only [span_of_split _ s more each ends]
  cases more with
  | nil =>
      apply Ends.failed
      have begins : Reader.step ⟨.operand, level, outer⟩ p '"' = .ok ⟨.string (p + 1) [], level, outer⟩ := rfl
      rw [Reader.read_step _ _ p '"' _ begins, Reader.read_inside _ _ level outer _ s [] unquoted]
      rfl
  | cons c more =>
      obtain rfl : c = '"' := by simpa using ends c rfl
      have whole : s ++ '"' :: more = (s ++ ['"']) ++ more := by simp
      have size : byteLength (s ++ ['"']) = byteLength s + 1 := byte_length_append s ['"']
      rw [whole] at inside
      have moved := move_stands t _ (s ++ ['"']) more inside
      rw [size] at moved
      simp only [bind_value _ _ _ _ () moved]
      have reads := Reader.reads_string level outer p s more unquoted
      have behind := inside.past t _ (s ++ ['"']) more
      rw [size] at behind
      have shorter : more.length ≤ (s ++ '"' :: more).length := by
        rw [List.length_append, List.length_cons]
        omega
      apply Ends.value _ _ more behind
      refine ⟨shorter, ?_⟩
      rw [reads]
      congr 1
      simp only [byteLength, size]
      omega

theorem group_ends (steps p : Nat) (tail : Text) (level : Level) (outer : List Level) (inner : Sum t (sum t steps) tail)
    (stands : Stands t p ('(' :: tail)) : Ends t (Reader.read ⟨.operand, level, outer⟩ p ('(' :: tail))
      (fun v q more => more.length ≤ tail.length ∧
        Reader.resume level outer q more v = Reader.read ⟨.operand, level, outer⟩ p ('(' :: tail))
      ((do
        let v ← sum t steps
        if (← advance t) = some ')' then return v else fail .expectedParen : Cursor Value) (p + '('.utf8Size)) := by
  have begins : Reader.step ⟨.operand, level, outer⟩ p '(' = .ok ⟨.operand, {}, level :: outer⟩ := rfl
  rw [Reader.read_step _ _ p '(' tail begins]
  apply Ends.bind t _ _ _ _ _ _ (inner _ _ (stands.next t p '(' tail))
  rintro v q rest stands ⟨shorter, ⟨endsProduct, endsSum⟩, same⟩
  rw [← same]
  cases rest with
  | nil =>
      rw [bind_value _ _ q q _ (advance_nil t q stands)]
      exact .failed _ rfl
  | cons c more =>
      obtain ⟨notBlank, notTimes⟩ := endsProduct c rfl
      have notPlus := endsSum c rfl
      rw [bind_value _ _ q _ _ (advance_cons t q c more stands notBlank)]
      by_cases closes : c = ')'
      · subst closes
        have closed : Reader.step ⟨.operator v, {}, level :: outer⟩ q ')' =
            level.complete v >>= fun whole => .ok ⟨.operator whole, { sum := level.sum }, outer⟩ := rfl
        have shorterTail : more.length ≤ tail.length := Nat.le_of_succ_le shorter
        rw [if_pos rfl]
        refine .value _ _ more (stands.next t q ')' more) ⟨shorterTail, ?_⟩
        rw [Reader.read_cons, closed, bind_assoc]
        rfl
      · rw [if_neg (by simpa using closes)]
        apply Ends.failed
        simp [Reader.read_cons, Reader.step, Reader.operator, notBlank, notTimes, notPlus, settle, closes, bind, Except.bind]

theorem primary_ends (steps p : Nat) (rest : Text) (level : Level) (outer : List Level)
    (inner : Inner t rest) (enough : 4 * rest.length ≤ steps) (stands : Stands t p rest) (noBlank : NoBlank rest)
    (noSign : rest.head? ≠ some '-') : Ends t (Reader.read ⟨.operand, level, outer⟩ p rest)
      (fun v q more => more.length ≤ rest.length ∧
        Reader.resume level outer q more v = Reader.read ⟨.operand, level, outer⟩ p rest) (primary t (steps + 1) p) := by
  rw [primary, bind_value _ _ p p _ (peek_stands t p [] rest stands rfl noBlank)]
  cases rest with
  | nil => exact .failed _ rfl
  | cons c tail =>
      have notBlank := noBlank c rfl
      have moved := advance_cons t p c tail stands notBlank
      simp only [List.head?_cons]
      by_cases opens : c = '('
      · subst opens
        have nested := inner tail steps (Nat.lt_succ_self _) enough
        rw [if_pos rfl, bind_value _ _ p _ _ moved]
        apply (group_ends t steps p tail level outer nested stands).weaken
        rintro v q more ⟨shorter, same⟩
        exact ⟨Nat.le_succ_of_le shorter, same⟩
      · rw [if_neg opens]
        by_cases quotes : c = '"'
        · subst quotes
          rw [if_pos rfl, bind_value _ _ p _ _ moved]
          apply (string_ends t p tail level outer stands).weaken
          rintro v q more ⟨shorter, same⟩
          exact ⟨Nat.le_succ_of_le shorter, same⟩
        · rw [if_neg quotes]
          by_cases digit : isDigit c = true
          · rw [if_pos digit]
            exact number_ends t p c tail level outer digit stands
          · have notSign : c ≠ '-' := by simpa using noSign
            have noDigit : digit? c = none := by simpa [isDigit] using digit
            rw [if_neg digit]
            apply Ends.failed
            simp [Reader.read_cons, Reader.step, Reader.operand, notBlank, notSign, opens, quotes, noDigit, bind, Except.bind]

theorem resume_minus (level : Level) (outer : List Level) (q : Nat) (rest : Text) (v : Value) :
    Reader.resume { level with minuses := level.minuses + 1 } outer q rest v =
      v.negate >>= Reader.resume level outer q rest := by
  have complete : Level.complete { level with minuses := level.minuses + 1 } v =
      v.negate >>= fun w => level.complete w := by
    simp only [Level.complete, negateTimes, bind_assoc]
  rw [Reader.resume, complete, bind_assoc]
  rfl

theorem signed_operand (rest : Text) (inner : Inner t rest) (steps : Nat) (enough : 4 * rest.length + 1 ≤ steps) :
    Operand t (signed t (steps + 1)) rest := by
  induction steps generalizing rest with
  | zero => cases enough
  | succ steps ih =>
      intro p level outer stands
      rw [signed]
      apply Ends.bind t _ _ _ _ _ _ (peek_ends t ⟨.operand, level, outer⟩ (.inl rfl) p rest stands)
      rintro next q more stands ⟨rfl, noBlank, shorter, _, same⟩
      rw [← same]
      by_cases sign : more.head? = some '-'
      · obtain ⟨tail, rfl⟩ := List.head?_eq_some_iff.1 sign
        have less : tail.length < rest.length := shorter
        have operand := ih tail (inner.shorter t rest tail (Nat.le_of_lt less)) (by omega)
        have begins : Reader.step ⟨.operand, level, outer⟩ q '-' =
            .ok ⟨.operand, { level with minuses := level.minuses + 1 }, outer⟩ := rfl
        rw [if_pos sign, bind_value _ _ q _ _ (advance_cons t q '-' tail stands rfl), Reader.read_step _ _ q '-' tail begins]
        apply Ends.bind t _ _ _ _ _ _ (operand _ _ outer (stands.next t q '-' tail))
        rintro v r u stands ⟨shorterTail, same⟩
        rw [← same, resume_minus]
        apply (lift_ends t _ v.negate r u stands _ rfl).weaken
        rintro w r' u' ⟨rfl, rfl, same⟩
        exact ⟨by omega, same⟩
      · rw [if_neg sign]
        apply (primary_ends t steps q more level outer (inner.shorter t rest more shorter) (by omega) stands noBlank
          sign).weaken
        rintro v r u ⟨shorterMore, same⟩
        exact ⟨by omega, same⟩

-- A row of operands: `waiting left` is the reader when the operands up to here have come to `left`, and `settled` is
-- what is known of the text wherever an operand has ended.
theorem row_ends (joins : Char → Option Operator) (operand : Nat → Cursor Value) (row : Nat → Value → Cursor Value)
    (waiting : Value → Reader) (settled : Text → Prop)
    (unfolds : ∀ steps left, row (steps + 1) left = do
      match (← peek t).bind joins with
      | none => return left
      | some op =>
        let _ ← advance t
        let right ← operand steps
        row steps (← lift (left.combine op right)))
    (phase : ∀ left, (waiting left).phase = .operator left)
    (kept : ∀ rest, settled rest → ∀ more, (NoBlank rest → more = rest) → settled more)
    (rest : Text) (joined : ∀ steps left op c q tail, tail.length < rest.length → 4 * tail.length + 3 ≤ steps →
      joins c = some op → isBlank c = false → Stands t q (c :: tail) → Ends t ((waiting left).read q (c :: tail))
        (fun right r u => u.length ≤ tail.length ∧ settled u ∧
          (left.combine op right >>= fun w => (waiting w).read r u) = (waiting left).read q (c :: tail))
        (operand steps (q + c.utf8Size)))
    (left : Value) (steps p : Nat) (enough : 4 * rest.length ≤ steps) (stands : Stands t p rest) (ended : settled rest) :
    Ends t ((waiting left).read p rest)
      (fun v q more => more.length ≤ rest.length ∧ settled more ∧ NoBlank more ∧ more.head?.bind joins = none ∧
        (waiting v).read q more = (waiting left).read p rest) (row (steps + 1) left p) := by
  induction length : rest.length using Nat.strong_induction_on generalizing rest left steps p with
  | _ n ih =>
      rw [unfolds]
      apply Ends.bind t _ _ _ _ _ _ (peek_ends t (waiting left) (.inr ⟨left, phase left⟩) p rest stands)
      rintro next q more stands ⟨rfl, noBlank, shorter, nothing, same⟩
      rw [← same]
      cases found : more.head?.bind joins with
      | none => exact .value _ _ more stands ⟨by omega, kept rest ended more nothing, noBlank, found, rfl⟩
      | some op =>
          obtain ⟨c, first, joinsC⟩ := Option.bind_eq_some_iff.1 found
          obtain ⟨tail, rfl⟩ := List.head?_eq_some_iff.1 first
          have less : tail.length < rest.length := shorter
          have notBlank := noBlank c rfl
          simp only
          rw [bind_value _ _ q _ _ (advance_cons t q c tail stands notBlank)]
          obtain ⟨steps, rfl⟩ := Nat.exists_eq_add_of_le' (show 1 ≤ steps by omega)
          apply Ends.bind t _ _ _ _ _ _ (joined (steps + 1) left op c q tail less (by omega) joinsC notBlank stands)
          rintro right r u stands ⟨shorterTail, settledU, same⟩
          rw [← same]
          apply Ends.bind t _ _ _ _ _ _ (lift_ends t _ (left.combine op right) r u stands _ rfl)
          rintro w r' u' stands ⟨rfl, rfl, same⟩
          rw [← same]
          apply (ih u'.length (by omega) u' (fun steps left op c q tail less => joined steps left op c q tail (by omega)) w
            steps r' (by omega) stands settledU rfl).weaken
          rintro v q more ⟨shorterMore, others⟩
          exact ⟨by omega, others⟩

theorem product_ends (rest : Text) (inner : Inner t rest) (steps : Nat) (enough : 4 * rest.length + 2 ≤ steps) :
    Product t (product t (steps + 1)) rest := by
  intro p waiting outer stands
  obtain ⟨steps, rfl⟩ := Nat.exists_eq_add_of_le' (show 1 ≤ steps by omega)
  rw [product]
  apply Ends.bind t _ _ _ _ _ _ (signed_operand t rest inner steps (by omega) p { sum := waiting } outer stands)
  rintro left q u stands ⟨shorter, same⟩
  rw [← same]
  have joined (steps : Nat) (left : Value) (op : Operator) (c : Char) (q : Nat) (tail : Text)
      (less : tail.length < u.length) (enough : 4 * tail.length + 3 ≤ steps)
      (times : Operator.multiplicative? c = some op) (notBlank : isBlank c = false) (stands : Stands t q (c :: tail)) :
      Ends t (Reader.read ⟨.operator left, { sum := waiting }, outer⟩ q (c :: tail))
        (fun right r u => u.length ≤ tail.length ∧ True ∧
          (left.combine op right >>= fun w => Reader.read ⟨.operator w, { sum := waiting }, outer⟩ r u) =
            Reader.read ⟨.operator left, { sum := waiting }, outer⟩ q (c :: tail)) (signed t steps (q + c.utf8Size)) := by
    have goesOn : Reader.step ⟨.operator left, { sum := waiting }, outer⟩ q c =
        .ok ⟨.operand, { sum := waiting, product := some (left, op) }, outer⟩ := by
      simp [Reader.step, Reader.operator, notBlank, times]
    obtain ⟨steps, rfl⟩ := Nat.exists_eq_add_of_le' (show 1 ≤ steps by omega)
    have operand := signed_operand t tail (inner.shorter t rest tail (by omega)) steps (by omega)
    rw [Reader.read_step _ _ q c tail goesOn]
    apply (operand _ _ outer (stands.next t q c tail)).weaken
    rintro right r u ⟨shorter, same⟩
    exact ⟨shorter, trivial, same⟩
  apply (row_ends t Operator.multiplicative? (signed t) (productFrom t)
    (fun left => ⟨.operator left, { sum := waiting }, outer⟩) (fun _ => True) (fun _ _ => rfl)
    (fun _ => rfl) (fun _ _ _ _ => trivial) u joined left steps q (by omega) stands trivial).weaken
  rintro v r more ⟨shorterMore, _, noBlank, ends, same⟩
  refine ⟨by omega, ?_, same⟩
  intro c member
  refine ⟨noBlank c member, ?_⟩
  rw [Option.mem_def.1 member] at ends
  exact ends

theorem read_settled (waiting : Option (Value × Operator)) (outer : List Level) (term : Value) (q : Nat) (rest : Text)
    (ends : EndsProduct rest) : Reader.read ⟨.operator term, { sum := waiting }, outer⟩ q rest =
      settle waiting term >>= fun total => Reader.read ⟨.operator total, {}, outer⟩ q rest := by
  cases rest with
  | nil => rfl
  | cons c more =>
      obtain ⟨notBlank, notTimes⟩ := ends c rfl
      have stepped (waiting : Option (Value × Operator)) (term : Value) :
          Reader.step ⟨.operator term, { sum := waiting }, outer⟩ q c =
            settle waiting term >>= fun total => Reader.step ⟨.operator total, {}, outer⟩ q c := by
        simp only [Reader.step, Reader.operator, notBlank, notTimes]
        rfl
      simp only [Reader.read_cons, stepped waiting term, bind_assoc]

theorem sum_ends (rest : Text) (steps : Nat) (enough : 4 * rest.length + 4 ≤ steps) : Sum t (sum t steps) rest := by
  induction length : rest.length using Nat.strong_induction_on generalizing rest steps with
  | _ n ih =>
      intro p outer stands
      have inner : Inner t rest := fun more steps less enough => ih more.length (by omega) more steps enough rfl
      obtain ⟨steps, rfl⟩ := Nat.exists_eq_add_of_le' (show 2 ≤ steps by omega)
      rw [sum]
      apply Ends.bind t _ _ _ _ _ _ (product_ends t rest inner steps (by omega) p none outer stands)
      rintro left q u stands ⟨shorter, endsProduct, same⟩
      rw [← same]
      have joined (steps : Nat) (left : Value) (op : Operator) (c : Char) (q : Nat) (tail : Text)
          (less : tail.length < u.length) (enough : 4 * tail.length + 3 ≤ steps)
          (plus : Operator.additive? c = some op) (notBlank : isBlank c = false) (stands : Stands t q (c :: tail)) :
          Ends t (Reader.read ⟨.operator left, {}, outer⟩ q (c :: tail))
            (fun right r u => u.length ≤ tail.length ∧ EndsProduct u ∧
              (left.combine op right >>= fun w => Reader.read ⟨.operator w, {}, outer⟩ r u) =
                Reader.read ⟨.operator left, {}, outer⟩ q (c :: tail)) (product t steps (q + c.utf8Size)) := by
        have notTimes : Operator.multiplicative? c = none := by
          grind [Operator.additive?, Operator.multiplicative?]
        have goesOn : Reader.step ⟨.operator left, {}, outer⟩ q c = .ok ⟨.operand, { sum := some (left, op) }, outer⟩ := by
          simp [Reader.step, Reader.operator, notBlank, notTimes, plus, settle, bind, Except.bind, pure, Except.pure]
        obtain ⟨steps, rfl⟩ := Nat.exists_eq_add_of_le' (show 1 ≤ steps by omega)
        have term := product_ends t tail (inner.shorter t rest tail (by omega)) steps (by omega)
        rw [Reader.read_step _ _ q c tail goesOn]
        apply (term _ (some (left, op)) outer (stands.next t q c tail)).weaken
        rintro right r u ⟨shorter, endsProduct, same⟩
        rw [read_settled _ _ _ _ _ endsProduct] at same
        exact ⟨shorter, endsProduct, same⟩
      have kept (u : Text) (endsProduct : EndsProduct u) (more : Text) (nothing : NoBlank u → more = u) :
          EndsProduct more := by
        rw [nothing fun c member => (endsProduct c member).1]
        exact endsProduct
      apply (row_ends t Operator.additive? (product t) (sumFrom t) (fun left => ⟨.operator left, {}, outer⟩) EndsProduct
        (fun _ _ => rfl) (fun _ => rfl) kept u joined left steps q (by omega) stands endsProduct).weaken
      rintro v r more ⟨shorterMore, endsProduct, noBlank, ends, same⟩
      refine ⟨by omega, ⟨endsProduct, ?_⟩, same⟩
      intro c member
      rw [Option.mem_def.1 member] at ends
      exact ends

theorem whole_ends : Ends t (eval t) (fun v _ _ => eval t = .ok v) (whole t 0) := by
  obtain ⟨lead, rest, split, each, noBlank⟩ := split_while isBlank t
  have blank : lead.isAllBlank = true := List.all_eq_true.2 each
  have begins : Stands t 0 (lead ++ rest) := ⟨[], split, rfl⟩
  have stands := begins.past t 0 lead rest
  rw [whole, bind_value _ _ 0 _ _ (peek_stands t 0 lead rest begins blank noBlank)]
  cases rest with
  | nil =>
      have all : t.isAllBlank = true := by simpa [split] using blank
      exact .value Value.unit _ [] stands (if_pos all)
  | cons c tail =>
      have notBlank := noBlank c rfl
      have notAll : ¬ t.isAllBlank = true := by simp [split, isAllBlank, notBlank]
      have reads : Reader.read {} (0 + byteLength lead) (c :: tail) = eval t := by
        rw [eval, if_neg notAll, ← Reader.skip_blank {} (.inl rfl) lead (c :: tail) 0 blank, ← split]
      rw [← reads]
      have enough : 4 * (c :: tail).length + 4 ≤ depth t := by
        simp only [depth, split, List.length_append]
        omega
      apply Ends.bind t _ _ _ _ _ _ (sum_ends t (c :: tail) (depth t) enough _ [] stands)
      rintro v q more stands ⟨_, ⟨endsProduct, endsSum⟩, same⟩
      have noBlank : NoBlank more := fun d member => (endsProduct d member).1
      have peeked := peek_stands t q [] more stands rfl noBlank
      rw [← same]
      cases more with
      | nil =>
          have ended : expectEnd t q = some (.ok ((), q)) := by
            rw [expectEnd, bind_value _ _ q _ _ peeked]
            rfl
          rw [bind_value _ _ q _ () ended]
          exact .value v q [] stands rfl
      | cons d more =>
          obtain ⟨notBlank, notTimes⟩ := endsProduct d rfl
          have notPlus := endsSum d rfl
          have failed : expectEnd t q = some (.error (.malformed q (.unexpected d))) := by
            rw [expectEnd, bind_value _ _ q _ _ peeked]
            rfl
          rw [bind_failed _ _ q _ failed]
          apply Ends.failed
          simp [Reader.read_cons, Reader.step, Reader.operator, notBlank, notTimes, notPlus, settle, bind, Except.bind]

theorem evaluate_eq : evaluate t = some (eval t) := by
  have ends := whole_ends t
  generalize result : whole t 0 = last at ends
  cases ends with
  | failed e same =>
      rw [same, evaluate, StateT.run', result]
      rfl
  | value v q rest stands same =>
      rw [same, evaluate, StateT.run', result]
      rfl

end Cursor

end Calculator

end CommandShell
