import CommandShell.Proofs.Calculator.Reading
import CommandShell.Proofs.Expansion.Slices
import Mathlib.Data.List.TakeDrop

set_option autoImplicit false

namespace CommandShell

namespace Calculator

open Text

-- From an offset to a value and an offset, or to an error. There is none of these if an offset does not fit, or a call
-- has no steps left.
abbrev Cursor (α : Type) := StateT Nat (ExceptT EvalError Option) α

namespace Cursor

section Moves

variable (t : Text)

def ahead : Cursor Text := fun p => (t.slice? p (byteLength t)).map fun rest => .ok (rest, p)

-- A cursor stands where the text can be cut, and nowhere else.
def move (bytes : Nat) : Cursor Unit := fun p =>
  (t.slice? (p + bytes) (byteLength t)).map fun _ => .ok ((), p + bytes)

def lift {α : Type} (result : Except EvalError α) : Cursor α := fun p => some (result.map (·, p))

def fail {α : Type} (fault : Fault) : Cursor α := fun p => some (.error (.malformed p fault))

def exhausted {α : Type} : Cursor α := fun _ => none

-- Moves over characters of a kind, each by the bytes that one of this kind is taken to have.
def skipFor (kind : Char → Bool) (bytes : Char → Nat) : Nat → Cursor Unit
  | 0 => exhausted
  | steps + 1 => do
    match ← ahead t with
    | [] => return ()
    | c :: _ =>
      if kind c then
        move t (bytes c)
        skipFor kind bytes steps
      else return ()

def skip (kind : Char → Bool) (bytes : Char → Nat) : Cursor Unit := skipFor t kind bytes (t.length + 1)

def peek : Cursor (Option Char) := do
  skip t isBlank Char.utf8Size
  return (← ahead t).head?

def advance : Cursor (Option Char) := do
  skip t isBlank Char.utf8Size
  match ← ahead t with
  | [] => return none
  | c :: _ =>
    move t c.utf8Size
    return some c

def expectEnd : Cursor Unit := do
  match ← peek t with
  | none => return ()
  | some c => fail (.unexpected c)

end Moves

def Stands (t : Text) (p : Nat) (rest : Text) : Prop := ∃ before, t = before ++ rest ∧ byteLength before = p

-- A run ends with the error of the whole, or where `post` holds of its value, the cursor and the rest.
inductive Ends {α : Type} (t : Text) (yield : Except EvalError Value) (post : α → Nat → Text → Prop) :
    Option (Except EvalError (α × Nat)) → Prop where
  | failed (e : EvalError) (same : yield = .error e) : Ends t yield post (some (.error e))
  | value (a : α) (p : Nat) (rest : Text) (stands : Stands t p rest) (holds : post a p rest) :
      Ends t yield post (some (.ok (a, p)))

variable {α β : Type} (t : Text) (yield : Except EvalError Value)

theorem bind_value (x : Cursor α) (f : α → Cursor β) (p q : Nat) (a : α) (steps : x p = some (.ok (a, q))) :
    (x >>= f) p = f a q := by
  simp [bind, StateT.bind, ExceptT.bind, ExceptT.mk, ExceptT.bindCont, steps]

theorem bind_failed (x : Cursor α) (f : α → Cursor β) (p : Nat) (e : EvalError) (fails : x p = some (.error e)) :
    (x >>= f) p = some (.error e) := by
  simp [bind, StateT.bind, ExceptT.bind, ExceptT.mk, ExceptT.bindCont, fails, pure]

theorem Ends.bind (x : Cursor α) (f : α → Cursor β) (p : Nat) (middle : α → Nat → Text → Prop)
    (post : β → Nat → Text → Prop) (begins : Ends t yield middle (x p))
    (goesOn : ∀ a q rest, Stands t q rest → middle a q rest → Ends t yield post (f a q)) :
    Ends t yield post ((x >>= f) p) := by
  generalize result : x p = first at begins
  cases begins with
  | failed e same =>
      rw [bind_failed x f p e result]
      exact .failed e same
  | value a q rest stands holds =>
      rw [bind_value x f p q a result]
      exact goesOn a q rest stands holds

theorem Ends.weaken (x : Option (Except EvalError (α × Nat))) (first post : α → Nat → Text → Prop)
    (ends : Ends t yield first x) (holds : ∀ a p rest, first a p rest → post a p rest) : Ends t yield post x := by
  cases ends with
  | failed e same => exact .failed e same
  | value a p rest stands given => exact .value a p rest stands (holds a p rest given)

theorem ahead_stands (p : Nat) (rest : Text) (stands : Stands t p rest) : ahead t p = some (.ok (rest, p)) := by
  obtain ⟨before, rfl, rfl⟩ := stands
  have cut := (slice_some_iff (before ++ rest) _ _ rest).2 ⟨before, [], by simp, rfl, rfl⟩
  rw [ahead, cut]
  rfl

theorem Stands.past (p : Nat) (front rest : Text) (stands : Stands t p (front ++ rest)) :
    Stands t (p + byteLength front) rest := by
  obtain ⟨before, rfl, rfl⟩ := stands
  exact ⟨before ++ front, by simp, byte_length_append before front⟩

theorem Stands.next (p : Nat) (c : Char) (rest : Text) (stands : Stands t p (c :: rest)) :
    Stands t (p + c.utf8Size) rest := stands.past t p [c] rest

theorem move_stands (p : Nat) (front rest : Text) (stands : Stands t p (front ++ rest)) :
    move t (byteLength front) p = some (.ok ((), p + byteLength front)) := by
  obtain ⟨before, same, length⟩ := stands.past t p front rest
  have cut := (slice_some_iff t (p + byteLength front) (byteLength t) rest).2
    ⟨before, [], by simpa using same, length.symm, by rw [same]⟩
  rw [move, cut]
  rfl

theorem skip_for_stands (kind : Char → Bool) (bytes : Char → Nat) (fits : ∀ c, kind c = true → bytes c = c.utf8Size)
    (p : Nat) (front rest : Text) (stands : Stands t p (front ++ rest)) (each : ∀ c ∈ front, kind c = true)
    (ends : ∀ c ∈ rest.head?, kind c = false) (steps : Nat) (enough : front.length ≤ steps) :
    skipFor t kind bytes (steps + 1) p = some (.ok ((), p + byteLength front)) := by
  induction front generalizing p steps with
  | nil =>
      rw [skipFor, bind_value _ _ p p rest (ahead_stands t p rest stands)]
      cases rest with
      | nil => rfl
      | cons c more =>
          have other := ends c rfl
          simp only [other]
          rfl
  | cons c more ih =>
      obtain ⟨steps, rfl⟩ := Nat.exists_eq_add_of_le' (Nat.le_trans (Nat.succ_le_succ (Nat.zero_le more.length)) enough)
      have isKind := each c List.mem_cons_self
      have size : bytes c = byteLength [c] := fits c isKind
      have moved := move_stands t p [c] (more ++ rest) stands
      have later := ih _ (stands.past t p [c] (more ++ rest)) (fun x member => each x (List.mem_cons_of_mem c member)) steps
        (Nat.le_of_succ_le_succ enough)
      rw [skipFor, bind_value _ _ p p _ (ahead_stands t p _ stands)]
      simp only [List.cons_append, if_pos isKind, size]
      rw [bind_value _ _ p _ () moved, later, Nat.add_assoc]
      rfl

theorem skip_stands (kind : Char → Bool) (bytes : Char → Nat) (fits : ∀ c, kind c = true → bytes c = c.utf8Size)
    (p : Nat) (front rest : Text) (stands : Stands t p (front ++ rest)) (each : ∀ c ∈ front, kind c = true)
    (ends : ∀ c ∈ rest.head?, kind c = false) : skip t kind bytes p = some (.ok ((), p + byteLength front)) := by
  have enough : front.length ≤ t.length := by
    obtain ⟨before, same, _⟩ := stands
    simp only [same, List.length_append]
    omega
  exact skip_for_stands t kind bytes fits p front rest stands each ends t.length enough

theorem lift_ends (result : Except EvalError α) (p : Nat) (rest : Text) (stands : Stands t p rest)
    (later : α → Except EvalError Value) (same : yield = result >>= later) :
    Ends t yield (fun a q more => q = p ∧ more = rest ∧ later a = yield) (lift result p) := by
  cases result with
  | error e => exact .failed e same
  | ok a => exact .value a p rest stands ⟨rfl, rfl, same.symm⟩

def NoBlank (rest : Text) : Prop := ∀ c ∈ rest.head?, isBlank c = false

theorem split_while (kind : Char → Bool) (rest : Text) :
    ∃ front more, rest = front ++ more ∧ (∀ c ∈ front, kind c = true) ∧ ∀ c ∈ more.head?, kind c = false := by
  refine ⟨rest.takeWhile kind, rest.dropWhile kind, List.takeWhile_append_dropWhile.symm, ?_, ?_⟩
  · exact List.all_eq_true.1 List.all_takeWhile
  · intro c member
    have other := List.head?_dropWhile_not kind rest
    rw [Option.mem_def.1 member] at other
    simpa using other

theorem skip_blanks (p : Nat) (lead more : Text) (stands : Stands t p (lead ++ more)) (blank : lead.isAllBlank = true)
    (noBlank : NoBlank more) : skip t isBlank Char.utf8Size p = some (.ok ((), p + byteLength lead)) :=
  skip_stands t isBlank Char.utf8Size (fun _ _ => rfl) p lead more stands (List.all_eq_true.1 blank) noBlank

theorem advance_nil (p : Nat) (stands : Stands t p []) : advance t p = some (.ok (none, p)) := by
  have noBlank : NoBlank [] := by simp [NoBlank]
  rw [advance, bind_value _ _ p p () (skip_blanks t p [] [] stands rfl noBlank),
    bind_value _ _ p p _ (ahead_stands t p [] stands)]
  rfl

theorem advance_cons (p : Nat) (c : Char) (more : Text) (stands : Stands t p (c :: more)) (notBlank : isBlank c = false) :
    advance t p = some (.ok (some c, p + c.utf8Size)) := by
  have noBlank : NoBlank (c :: more) := by simpa [NoBlank] using notBlank
  have moved := move_stands t p [c] more stands
  rw [advance, bind_value _ _ p p () (skip_blanks t p [] (c :: more) stands rfl noBlank),
    bind_value _ _ p p _ (ahead_stands t p _ stands)]
  exact bind_value _ _ p _ () moved

theorem peek_stands (p : Nat) (lead more : Text) (stands : Stands t p (lead ++ more)) (blank : lead.isAllBlank = true)
    (noBlank : NoBlank more) : peek t p = some (.ok (more.head?, p + byteLength lead)) := by
  rw [peek, bind_value _ _ p _ () (skip_blanks t p lead more stands blank noBlank),
    bind_value _ _ _ _ more (ahead_stands t _ more (stands.past t p lead more))]
  rfl

theorem peek_ends (r : Reader) (phase : r.phase = .operand ∨ ∃ term, r.phase = .operator term) (p : Nat) (rest : Text)
    (stands : Stands t p rest) : Ends t (r.read p rest)
      (fun next q more => next = more.head? ∧ NoBlank more ∧ more.length ≤ rest.length ∧ (NoBlank rest → more = rest) ∧
        r.read q more = r.read p rest) (peek t p) := by
  obtain ⟨lead, more, rfl, each, noBlank⟩ := split_while isBlank rest
  have blank : lead.isAllBlank = true := List.all_eq_true.2 each
  rw [peek_stands t p lead more stands blank noBlank]
  have nothing : NoBlank (lead ++ more) → more = lead ++ more := by
    intro noBlank
    cases lead with
    | nil => rfl
    | cons c lead =>
        have notBlank := noBlank c rfl
        rw [each c List.mem_cons_self] at notBlank
        cases notBlank
  have same := r.skip_blank phase lead more p blank
  exact .value _ _ more (stands.past t p lead more) ⟨rfl, noBlank, by simp, nothing, same.symm⟩

end Cursor

end Calculator

end CommandShell
