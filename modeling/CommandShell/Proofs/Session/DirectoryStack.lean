import CommandShell.Session.DirectoryStack

set_option autoImplicit false

namespace CommandShell

namespace DirectoryStack

inductive Operation where
  | push (directory : Text)
  | pop
  | replaceTop (directory : Text)
deriving DecidableEq

namespace Operation

def isPush : Operation → Bool
  | push _ => true
  | pop | replaceTop _ => false

def isReplaceTop : Operation → Bool
  | replaceTop _ => true
  | push _ | pop => false

end Operation

def depth (s : DirectoryStack) : Nat := s.toList.length

-- A pop that is refused has no stack to leave but the one it was given.
def operate (s : DirectoryStack) : Operation → DirectoryStack
  | .push directory => s.push directory
  | .pop => (s.pop?.map Prod.snd).getD s
  | .replaceTop directory => s.replaceTop directory

def after (s : DirectoryStack) (row : List Operation) : DirectoryStack := row.foldl operate s

structure Step where
  found : DirectoryStack
  operation : Operation

def Step.removes (step : Step) : Bool := step.operation = .pop && step.found.pop?.isSome

def steps (s : DirectoryStack) : List Operation → List Step
  | [] => []
  | operation :: later => ⟨s, operation⟩ :: (s.operate operation).steps later

theorem pop_push (s : DirectoryStack) (directory : Text) : (s.push directory).pop? = some (directory, s) := rfl

theorem pop_refused_iff (s : DirectoryStack) : s.pop? = none ↔ s.depth = 1 := by
  obtain ⟨top, below⟩ := s
  cases below with
  | nil => exact ⟨fun _ => rfl, fun _ => rfl⟩
  | cons next rest => simp [pop?, depth, toList]

theorem operate_refused (s : DirectoryStack) (refused : s.pop? = none) : s.operate .pop = s := by
  simp only [operate, refused, Option.map_none, Option.getD_none]

theorem operate_pop (s : DirectoryStack) :
    (s.pop? = none ∧ s.operate .pop = s) ∨ (s.pop?.isSome = true ∧ (s.operate .pop).toList = s.below) := by
  cases popped : s.pop? with
  | none => exact .inl ⟨rfl, operate_refused s popped⟩
  | some pair =>
      have whole : s.toList = pair.1 :: pair.2.toList := to_list_of_pop? popped
      have left : s.operate .pop = pair.2 := by simp only [operate, popped, Option.map_some, Option.getD_some]
      rw [left]
      exact .inr ⟨rfl, (List.cons.inj whole).2.symm⟩

theorem operate_depth (s : DirectoryStack) (operation : Operation) :
    (s.operate operation).depth + (if Step.removes ⟨s, operation⟩ then 1 else 0) =
      s.depth + (if operation.isPush then 1 else 0) := by
  cases operation with
  | push directory => rfl
  | replaceTop directory => rfl
  | pop =>
      rcases operate_pop s with ⟨refused, same⟩ | ⟨popped, left⟩
      · simp [same, Step.removes, refused, Operation.isPush]
      · have lost : (s.operate .pop).depth + 1 = s.depth := congrArg (List.length · + 1) left
        simp [Step.removes, popped, Operation.isPush, lost]

theorem operate_below (s : DirectoryStack) (operation : Operation) : s.below <:+ (s.operate operation).toList := by
  cases operation with
  | push directory => exact (List.suffix_cons s.top s.below).trans (List.suffix_cons directory s.toList)
  | replaceTop directory => exact List.suffix_cons directory s.below
  | pop =>
      rcases operate_pop s with ⟨refused, same⟩ | ⟨popped, left⟩
      · rw [same]
        exact List.suffix_cons s.top s.below
      · exact ⟨[], left.symm⟩

theorem operate_keeps (base : List Text) (s : DirectoryStack) (operation : Operation) (holds : base <:+ s.toList)
    (stays : base.length ≤ (s.operate operation).depth)
    (untouched : operation.isReplaceTop = true → s.depth ≠ base.length) : base <:+ (s.operate operation).toList := by
  rcases List.suffix_cons_iff.1 holds with rfl | lower
  · cases operation with
    | push directory => exact List.suffix_cons directory s.toList
    | replaceTop directory => exact absurd rfl (untouched rfl)
    | pop =>
        rcases operate_pop s with ⟨refused, same⟩ | ⟨popped, left⟩
        · exact ⟨[], congrArg toList same.symm⟩
        · have lost : (s.operate .pop).depth = s.below.length := congrArg List.length left
          rw [lost] at stays
          exact absurd stays (Nat.not_succ_le_self s.below.length)
  · exact lower.trans (operate_below s operation)

theorem depth_pos (s : DirectoryStack) : 1 ≤ s.depth := Nat.succ_pos s.below.length

theorem after_depth (s : DirectoryStack) (row : List Operation) :
    (s.after row).depth + (s.steps row).countP Step.removes = s.depth + row.countP Operation.isPush := by
  induction row generalizing s with
  | nil => rfl
  | cons operation later ih =>
      have first := operate_depth s operation
      have others := ih (s.operate operation)
      rw [steps, List.countP_cons, List.countP_cons]
      change ((s.operate operation).after later).depth + _ = _
      omega

theorem depth_at_start (least : Nat) (s : DirectoryStack) (row : List Operation)
    (stays : ∀ step ∈ s.steps row, least ≤ step.found.depth) (ends : least ≤ (s.after row).depth) :
    least ≤ s.depth := by
  cases row with
  | nil => exact ends
  | cons operation later => exact stays ⟨s, operation⟩ List.mem_cons_self

theorem after_keeps (base : List Text) (s : DirectoryStack) (row : List Operation) (holds : base <:+ s.toList)
    (stays : ∀ step ∈ s.steps row, base.length ≤ step.found.depth) (ends : base.length ≤ (s.after row).depth)
    (untouched : ∀ step ∈ s.steps row, step.operation.isReplaceTop = true → step.found.depth ≠ base.length) :
    base <:+ (s.after row).toList := by
  induction row generalizing s with
  | nil => exact holds
  | cons operation later ih =>
      have staysLater (step : Step) (member : step ∈ (s.operate operation).steps later) :
          base.length ≤ step.found.depth := stays step (List.mem_cons_of_mem _ member)
      have next := depth_at_start base.length (s.operate operation) later staysLater ends
      have kept := operate_keeps base s operation holds next (untouched ⟨s, operation⟩ List.mem_cons_self)
      exact ih (s.operate operation) kept staysLater ends fun step member =>
        untouched step (List.mem_cons_of_mem _ member)

structure Returns (s : DirectoryStack) (row : List Operation) : Prop where
  stays : ∀ step ∈ s.steps row, s.depth ≤ step.found.depth
  ends : (s.after row).depth = s.depth

theorem returns_below (s : DirectoryStack) (row : List Operation) (returns : s.Returns row) :
    (s.after row).below = s.below := by
  have lower (step : Step) (member : step ∈ s.steps row) : s.below.length < step.found.depth := returns.stays step member
  have ends : s.below.length < (s.after row).depth := Nat.le_of_eq returns.ends.symm
  have kept : s.below <:+ (s.after row).toList :=
    after_keeps s.below s row (List.suffix_cons s.top s.below) (fun step member => Nat.le_of_lt (lower step member))
      (Nat.le_of_lt ends) fun step member _ => Nat.ne_of_gt (lower step member)
  rcases List.suffix_cons_iff.1 kept with whole | below
  · rw [whole] at ends
    exact absurd ends (Nat.lt_irrefl _)
  · exact (below.eq_of_length (Nat.succ.inj returns.ends.symm)).symm

theorem returns_top (s : DirectoryStack) (row : List Operation) (returns : s.Returns row)
    (untouched : ∀ step ∈ s.steps row, step.operation.isReplaceTop = true → step.found.depth ≠ s.depth) :
    (s.after row).top = s.top := by
  have kept : s.toList <:+ (s.after row).toList :=
    after_keeps s.toList s row (List.suffix_refl s.toList) returns.stays (Nat.le_of_eq returns.ends.symm) untouched
  have same : s.toList = (s.after row).toList := kept.eq_of_length returns.ends.symm
  exact (List.cons.inj same).1.symm

theorem last_in_first_out (s : DirectoryStack) (row : List Operation) :
    let t := s.after row
    (t.depth + (s.steps row).countP Step.removes = s.depth + row.countP Operation.isPush ∧ 1 ≤ t.depth) ∧
    ((t.pop? = none ↔ t.depth = 1) ∧ (t.pop? = none → t.operate .pop = t)) ∧
    (∀ directory, (t.push directory).pop? = some (directory, t)) ∧
    (∀ operation, t.below <:+ (t.operate operation).toList) ∧
    (s.Returns row → t.below = s.below ∧
      ((∀ step ∈ s.steps row, step.operation.isReplaceTop = true → step.found.depth ≠ s.depth) → t.top = s.top)) :=
  ⟨⟨after_depth s row, depth_pos _⟩, ⟨pop_refused_iff _, operate_refused _⟩, pop_push _, operate_below _,
    fun returns => ⟨returns_below s row returns, returns_top s row returns⟩⟩

theorem last_in_first_out_block :
    let root : DirectoryStack := ⟨"/".toList, []⟩
    let s : DirectoryStack := root.push "/a".toList
    let block : List Operation := [.push "/b".toList, .replaceTop "/c".toList, .push "/d".toList, .pop, .pop]
    let changed : List Operation := .replaceTop "/e".toList :: block
    (root.pop? = none ∧ root.operate .pop = root) ∧
    (s.Returns block ∧ (s.after block).below = s.below ∧ (s.after block).top = s.top) ∧
    (s.Returns changed ∧ (s.after changed).below = s.below ∧ (s.after changed).top = "/e".toList) := by
  intro root s block changed
  obtain ⟨_, ⟨_, refused⟩, _⟩ := last_in_first_out root []
  obtain ⟨_, _, _, _, returned⟩ := last_in_first_out s block
  obtain ⟨_, _, _, _, replaced⟩ := last_in_first_out s changed
  have returns : s.Returns block := ⟨by decide, by decide⟩
  have returnsChanged : s.Returns changed := ⟨by decide, by decide⟩
  obtain ⟨below, top⟩ := returned returns
  exact ⟨⟨rfl, refused rfl⟩, ⟨returns, below, top (by decide)⟩, returnsChanged, (replaced returnsChanged).1, rfl⟩

end DirectoryStack

end CommandShell
