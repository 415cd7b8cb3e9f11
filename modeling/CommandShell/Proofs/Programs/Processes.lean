import CommandShell.Programs.Basic
import CommandShell.Proofs.Syntax.Scanning
import CommandShell.Proofs.Text.Decoding
import Mathlib.Data.List.Basic

set_option autoImplicit false

namespace CommandShell

theorem OptionTable.split_sublist (t : OptionTable) (arguments : List Text) (letters : Text) (operands : List Text)
    (read : t.split arguments = .ok (letters, operands)) : operands.Sublist arguments := by
  induction arguments generalizing letters operands with
  | nil =>
      cases read
      exact List.Sublist.refl []
  | cons argument rest ih =>
      unfold split at read
      split at read
      · cases read
        exact List.sublist_cons_self _ _
      · obtain ⟨letter, _, next⟩ := (except_bind_ok_iff _ _ _).1 read
        obtain ⟨⟨more, others⟩, later, made⟩ := (except_bind_ok_iff _ _ _).1 next
        cases made
        exact (ih more operands later).cons _
      · split at read
        · cases read
        · obtain ⟨⟨more, others⟩, later, made⟩ := (except_bind_ok_iff _ _ _).1 read
          cases made
          exact (ih more operands later).cons _
      · split at read
        · obtain ⟨⟨more, others⟩, later, made⟩ := (except_bind_ok_iff _ _ _).1 read
          cases made
          exact (ih letters others later).cons_cons _
        · cases read
          exact List.Sublist.refl _

theorem OptionTable.split_operands (t : OptionTable) (mixed : t.isMixed = true) (arguments : List Text)
    (operands : ∀ argument ∈ arguments, argument.head? ≠ some '-') : t.split arguments = .ok ([], arguments) := by
  induction arguments with
  | nil => rfl
  | cons argument rest ih =>
      have first := operands argument List.mem_cons_self
      have others := ih fun other member => operands other (List.mem_cons_of_mem argument member)
      unfold split
      split
      · exact absurd rfl first
      · exact absurd rfl first
      · exact absurd rfl first
      · rw [if_pos mixed, others]
        rfl

theorem Port.open_of_fault (port : Port) (goes : port.fault = none) : port.isClosed = false := by
  cases port with
  | closed => cases goes
  | opened fault file => rfl

theorem Octets.text_of_text (t : Text) : Octets.text (Octets.ofText t) = t := by
  rw [Octets.text, Octets.ofText, Octets.bytes_of_bytes, Bytes.lossy_utf8]

theorem Ending.written_ne_nil_iff (e : Ending) (stream : OutputStream) :
    e.written stream ≠ [] ↔ ∃ data, (stream, data) ∈ e.writes ∧ data ≠ [] := by
  simp [written]

namespace Process

variable (p : Process) (code : Int) (taken : Nat)

theorem complaint_ne_nil (message : Text) : p.complaint message ≠ [] := by
  simp [complaint, Octets.bytes]

theorem output_of_complaints (lines : List Bytes) (output : List Bytes) :
    (p.ending code (lines.map (OutputStream.errors, ·) ++ output.map (OutputStream.output, ·)) taken).output =
      output.flatten := by
  simp [ending, Ending.output, Ending.written, List.filter_map, Function.comp_def, List.flatMap_map, List.filter_true, List.filter_false]

theorem errors_of_complaints (lines : List Bytes) (output : List Bytes) :
    (p.ending code (lines.map (OutputStream.errors, ·) ++ output.map (OutputStream.output, ·)) taken).errors =
      lines.flatten := by
  simp [ending, Ending.errors, Ending.written, List.filter_map, Function.comp_def, List.flatMap_map, List.filter_true, List.filter_false]

end Process

end CommandShell
