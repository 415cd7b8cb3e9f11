import CommandShell.Text.Basic

set_option autoImplicit false

namespace CommandShell

structure DirectoryStack where
  top : Text
  below : List Text := []
deriving DecidableEq, Repr

namespace DirectoryStack

def toList (s : DirectoryStack) : List Text := s.top :: s.below

def push (s : DirectoryStack) (directory : Text) : DirectoryStack := ⟨directory, s.toList⟩

def pop? (s : DirectoryStack) : Option (Text × DirectoryStack) :=
  match s.below with
  | [] => none
  | next :: rest => some (s.top, ⟨next, rest⟩)

def replaceTop (s : DirectoryStack) (directory : Text) : DirectoryStack := { s with top := directory }

@[simp] theorem to_list_push (s : DirectoryStack) (directory : Text) :
    (s.push directory).toList = directory :: s.toList := rfl

@[simp] theorem to_list_replace_top (s : DirectoryStack) (directory : Text) :
    (s.replaceTop directory).toList = directory :: s.toList.tail := rfl

theorem to_list_of_pop? {s rest : DirectoryStack} {directory : Text} (h : s.pop? = some (directory, rest)) :
    s.toList = directory :: rest.toList := by
  unfold pop? at h
  split at h
  · simp at h
  · next below =>
    simp only [Option.some.injEq, Prod.mk.injEq] at h
    simp [toList, ← h.1, ← h.2, below]

end DirectoryStack

end CommandShell
