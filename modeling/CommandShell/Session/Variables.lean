import CommandShell.Text.Basic

set_option autoImplicit false

namespace CommandShell

structure Variables where
  entries : List (Text × Text) := []
  ordered : entries.Pairwise (·.1 < ·.1) := by exact List.Pairwise.nil

namespace Variables

def insertInto (name value : Text) : List (Text × Text) → List (Text × Text)
  | [] => [(name, value)]
  | (n, v) :: rest =>
    if name < n then (name, value) :: (n, v) :: rest
    else if name = n then (name, value) :: rest
    else (n, v) :: insertInto name value rest

theorem mem_insert_into {name value : Text} {entry : Text × Text} :
    ∀ {entries : List (Text × Text)},
      entry ∈ insertInto name value entries → entry = (name, value) ∨ entry ∈ entries
  | [], h => by simpa [insertInto] using h
  | (n, v) :: rest, h => by
    unfold insertInto at h
    split at h
    · simpa using h
    · split at h
      · rcases List.mem_cons.1 h with h | h
        · exact .inl h
        · exact .inr (List.mem_cons_of_mem _ h)
      · rcases List.mem_cons.1 h with h | h
        · exact .inr (h ▸ List.mem_cons_self)
        · exact (mem_insert_into h).imp id (List.mem_cons_of_mem _)

theorem lt_of_not_lt {a b : Text} (notBefore : ¬ a < b) (different : a ≠ b) : b < a :=
  Classical.byContradiction fun notAfter =>
    different (List.le_antisymm (List.not_lt.1 notAfter) (List.not_lt.1 notBefore))

theorem ordered_insert_into (name value : Text) :
    ∀ {entries : List (Text × Text)}, entries.Pairwise (·.1 < ·.1) →
      (insertInto name value entries).Pairwise (·.1 < ·.1)
  | [], _ => by simp [insertInto]
  | (n, v) :: rest, h => by
    obtain ⟨first, others⟩ := List.pairwise_cons.1 h
    unfold insertInto
    split
    · next before =>
      refine List.pairwise_cons.2 ⟨fun entry mem => ?_, h⟩
      rcases List.mem_cons.1 mem with rfl | mem
      · exact before
      · exact List.lt_trans before (first entry mem)
    · next notBefore =>
      split
      · next same => exact List.pairwise_cons.2 ⟨fun entry mem => same ▸ first entry mem, others⟩
      · next different =>
        refine List.pairwise_cons.2 ⟨fun entry mem => ?_, ordered_insert_into name value others⟩
        rcases mem_insert_into mem with rfl | mem
        · exact lt_of_not_lt notBefore different
        · exact first entry mem

def insert (vars : Variables) (name value : Text) : Variables where
  entries := insertInto name value vars.entries
  ordered := ordered_insert_into name value vars.ordered

def erase (vars : Variables) (name : Text) : Variables where
  entries := vars.entries.filter (·.1 ≠ name)
  ordered := vars.ordered.filter _

def get? (vars : Variables) (name : Text) : Option Text := vars.entries.lookup name

theorem lookup_entry (name value other : Text) (entries : List (Text × Text)) :
    ((name, value) :: entries).lookup other = if other = name then some value else entries.lookup other := by
  by_cases same : other = name
  · simp [same]
  · simp [List.lookup_cons, beq_false_of_ne same, same]

theorem lookup_insert_into (name value other : Text) :
    ∀ entries : List (Text × Text),
      (insertInto name value entries).lookup other = if other = name then some value else entries.lookup other
  | [] => lookup_entry name value other []
  | (n, v) :: rest => by
    unfold insertInto
    split
    · exact lookup_entry name value other _
    · split
      · next same =>
        rw [lookup_entry, lookup_entry, same]
        split <;> rfl
      · next different =>
        rw [lookup_entry, lookup_entry, lookup_insert_into name value other rest]
        by_cases found : other = n
        · simp [found, Ne.symm different]
        · simp [found]

theorem get?_insert (vars : Variables) (name value other : Text) :
    (vars.insert name value).get? other = if other = name then some value else vars.get? other :=
  lookup_insert_into name value other vars.entries

def value (vars : Variables) (name : Text) : Text := (vars.get? name).getD []

def names (vars : Variables) : List Text := vars.entries.map (·.1)

def ofList (entries : List (Text × Text)) : Variables :=
  entries.foldl (fun vars (name, value) => vars.insert name value) {}

end Variables

end CommandShell
