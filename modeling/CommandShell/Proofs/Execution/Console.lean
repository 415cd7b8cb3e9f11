import CommandShell.Execution.Stream
import Mathlib.Data.List.Infix

set_option autoImplicit false

namespace CommandShell

namespace Console

structure Ended (c : Console) : Prop where
  buffered : c.buffered = []
  waiting : c.waiting = []

def written (c : Console) : Bytes := c.output.bytes ++ c.held

-- `c.Shows c' output errors`: the console `c'` is `c` after these bytes have been written to it.
structure Shows (c c' : Console) (output errors : Bytes) : Prop where
  output : c'.written = c.written ++ output
  errors : c'.errors.bytes = c.errors.bytes ++ errors
  waiting : c'.waiting = c.waiting
  buffered : c'.buffered = c.buffered

theorem Shows.nothing (c : Console) : c.Shows c [] [] :=
  ⟨(List.append_nil _).symm, (List.append_nil _).symm, rfl, rfl⟩

theorem Shows.trans (c middle last : Console) (o e o' e' : Bytes) (first : c.Shows middle o e)
    (second : middle.Shows last o' e') : c.Shows last (o ++ o') (e ++ e') where
  output := by rw [second.output, first.output, List.append_assoc]
  errors := by rw [second.errors, first.errors, List.append_assoc]
  waiting := second.waiting.trans first.waiting
  buffered := second.buffered.trans first.buffered

theorem Shows.ended (c c' : Console) (o e : Bytes) (shows : c.Shows c' o e) (ended : c.Ended) : c'.Ended :=
  ⟨shows.buffered.trans ended.buffered, shows.waiting.trans ended.waiting⟩

theorem flush_shows (c : Console) : c.Shows c.flush [] [] where
  output := by simp [flush, written, Capture.bytes_write]
  errors := (List.append_nil _).symm
  waiting := rfl
  buffered := rfl

-- Too much to hold back is written past what is held; there is none of it then.
theorem hold_shows (c : Console) (data : Bytes) : c.Shows (c.hold data) data [] := by
  let c' := if maxHeld < c.held.length + data.length then c.flush else c
  have room : c.Shows c' [] [] := by
    by_cases long : maxHeld < c.held.length + data.length
    · simpa only [c', if_pos long] using c.flush_shows
    · simpa only [c', if_neg long] using Shows.nothing c
  have added : c'.Shows (c.hold data) data [] := by
    have held : c.hold data = if maxHeld ≤ data.length then { c' with output := c'.output.write data }
        else { c' with held := c'.held ++ data } := rfl
    rw [held]
    by_cases large : maxHeld ≤ data.length
    · have empty : c'.held = [] := by
        by_cases long : maxHeld < c.held.length + data.length
        · simp only [c', if_pos long, flush]
        · simp only [c', if_neg long]
          exact List.length_eq_zero_iff.1 (by omega)
      rw [if_pos large]
      exact ⟨by simp [written, Capture.bytes_write, empty], (List.append_nil _).symm, rfl, rfl⟩
    · rw [if_neg large]
      exact ⟨by simp [written], (List.append_nil _).symm, rfl, rfl⟩
  exact Shows.trans c c' _ [] [] data [] room added

theorem split_lines_append (data : Bytes) : (splitLines data).1 ++ (splitLines data).2 = data := by
  have tail : (splitLines data).2 <:+ data := by
    rw [← List.reverse_prefix, splitLines, List.reverse_reverse]
    exact List.takeWhile_prefix _
  calc
    (splitLines data).1 ++ (splitLines data).2
      = data.take (data.length - (splitLines data).2.length) ++ (splitLines data).2 := rfl
    _ = data.take (data.length - (splitLines data).2.length) ++ data.drop (data.length - (splitLines data).2.length) := by
      rw [← List.suffix_iff_eq_drop.1 tail]
    _ = data := List.take_append_drop _ data

theorem write_shows (c : Console) (data : Bytes) : c.Shows (c.write data) data [] := by
  have whole := split_lines_append data
  rw [write]
  by_cases none : (splitLines data).1.isEmpty = true
  · rw [List.isEmpty_iff.1 none, List.nil_append] at whole
    simp only [if_pos none, whole]
    exact c.hold_shows data
  · let c' : Console := { c with output := (c.output.write c.held).write (splitLines data).1, held := [] }
    have lines : c.Shows c' (splitLines data).1 [] :=
      ⟨by simp [c', written, Capture.bytes_write], (List.append_nil _).symm, rfl, rfl⟩
    have shown := lines.trans c c' _ _ [] _ [] (c'.hold_shows (splitLines data).2)
    rw [whole] at shown
    simp only [if_neg none]
    exact shown

theorem write_all_shows (c : Console) (writes : List Bytes) : c.Shows (writes.foldl write c) writes.flatten [] := by
  induction writes generalizing c with
  | nil => exact .nothing c
  | cons data rest ih => exact Shows.trans c _ _ data [] rest.flatten [] (c.write_shows data) (ih (c.write data))

theorem write_errors_shows (c : Console) (data : Bytes) : c.Shows (c.writeErrors data) [] data :=
  ⟨(List.append_nil _).symm, Capture.bytes_write _ _, rfl, rfl⟩

end Console

end CommandShell
