import CommandShell.Text.Utf8

set_option autoImplicit false

namespace CommandShell

namespace Text

@[simp] theorem byte_length_append (a b : Text) : byteLength (a ++ b) = byteLength a + byteLength b := by
  induction a with
  | nil => simp [byteLength]
  | cons c rest ih =>
      simp only [List.cons_append, byteLength, ih]
      omega

theorem byte_length_reverse (t : Text) : byteLength t.reverse = byteLength t := by
  induction t with
  | nil => rfl
  | cons c rest ih =>
      simp only [List.reverse_cons, byte_length_append, ih, byteLength]
      omega

theorem byte_length_pos (t : Text) (nonempty : t ≠ []) : 0 < byteLength t := by
  cases t with
  | nil => exact absurd rfl nonempty
  | cons c rest =>
      have positive := c.utf8Size_pos
      simp only [byteLength]
      omega

theorem split_bytes_append (a b : Text) : splitBytes (byteLength a) (a ++ b) = (a, b) := by
  induction a with
  | nil =>
      cases b with
      | nil => rfl
      | cons c rest =>
          have positive := c.utf8Size_pos
          have noRoom : ¬ c.utf8Size ≤ byteLength [] := by simp only [byteLength]; omega
          rw [List.nil_append, splitBytes, if_neg noRoom]
  | cons c rest ih =>
      have fits : c.utf8Size ≤ byteLength (c :: rest) := by simp only [byteLength]; omega
      have left : byteLength (c :: rest) - c.utf8Size = byteLength rest := by simp only [byteLength]; omega
      rw [List.cons_append, splitBytes, if_pos fits, left, ih]

theorem split_bytes_after (a b c : Text) : splitBytes (byteLength (a ++ b) - byteLength a) (b ++ c) = (b, c) := by
  rw [byte_length_append, Nat.add_sub_cancel_left, split_bytes_append]

theorem append_left_unique (a b c d : Text) (same : a ++ b = c ++ d)
    (shorter : byteLength a ≤ byteLength c) : ∃ middle, c = a ++ middle ∧ b = middle ++ d := by
  rcases List.append_eq_append_iff.1 same with ⟨middle, cEq, bEq⟩ | ⟨middle, aEq, dEq⟩
  · exact ⟨middle, cEq, bEq⟩
  · -- `a` is no shorter than `c`, so what it has beyond `c` takes no byte
    have noBytes : byteLength middle = 0 := by
      rw [aEq, byte_length_append] at shorter
      omega
    cases middle with
    | nil => exact ⟨[], by simpa using aEq.symm, by simpa using dEq.symm⟩
    | cons c rest => exact absurd noBytes (Nat.ne_of_gt (byte_length_pos _ (List.cons_ne_nil c rest)))

-- The offset `n` falls between two characters of `t`, or is one of its ends.
def IsBoundary (t : Text) (n : Nat) : Prop := ∃ before after, t = before ++ after ∧ byteLength before = n

theorem boundary_le (t : Text) (n : Nat) (boundary : t.IsBoundary n) : n ≤ byteLength t := by
  obtain ⟨before, after, split, length⟩ := boundary
  rw [split, byte_length_append, length]
  omega

end Text

end CommandShell
