import CommandShell.Files.FileSystem
import Mathlib.Data.List.Nodup

set_option autoImplicit false

namespace CommandShell

theorem lookup_is_some_key {α β : Type} [BEq α] [LawfulBEq α] (key : α) (entries : List (α × β)) :
    (entries.lookup key).isSome ↔ key ∈ entries.map Prod.fst := by
  rw [List.lookup_isSome_iff, List.mem_map]
  constructor
  · rintro ⟨entry, member, same⟩
    exact ⟨entry, member, (eq_of_beq same).symm⟩
  · rintro ⟨entry, member, rfl⟩
    exact ⟨entry, member, beq_self_eq_true _⟩

namespace Text

theorem sort_perm (texts : List Text) : (sort texts).Perm texts := List.mergeSort_perm texts _

theorem sort_pairwise (texts : List Text) : (sort texts).Pairwise fun a b => ¬ b < a := by
  have sorted : (sort texts).Pairwise fun a b => (!before b a) = true := List.pairwise_mergeSort ?_ ?_ texts
  · exact sorted.imp fun {a b} inOrder => by simpa [before] using inOrder
  · intro a b c first second
    simp only [before, Bool.not_eq_true', decide_eq_false_iff_not] at first second ⊢
    exact List.not_lt.2 (List.le_trans (List.not_lt.1 first) (List.not_lt.1 second))
  · intro a b
    rcases List.le_total a b with upTo | upTo <;> simp [before, List.not_lt.2 upTo]

end Text

namespace FileSystem

def HasEntry (fs : FileSystem) (path name : Text) : Prop :=
  ∃ loc, fs.locate path = .ok loc ∧ fs.entry? loc = some .directory ∧ ∃ entry, fs.entry? (loc ++ [name]) = some entry

theorem entry_listed (fs : FileSystem) (loc : Location) (name : Text) :
    (∃ entry, fs.entry? (loc ++ [name]) = some entry) ↔ loc ++ [name] ∈ fs.entries.map Prod.fst := by
  unfold entry?
  rw [if_neg (List.append_ne_nil_of_right_ne_nil loc (List.cons_ne_nil name [])), ← Option.isSome_iff_exists,
    lookup_is_some_key]

theorem below_eq (fs : FileSystem) (loc : Location) :
    fs.below loc = (fs.entries.map Prod.fst).filterMap fun other =>
      if other.dropLast = loc then other.getLast? else none := by
  rw [List.filterMap_map]
  rfl

theorem last_name_iff (other loc : Location) (name : Text) :
    (if other.dropLast = loc then other.getLast? else none) = some name ↔ other = loc ++ [name] := by
  constructor
  · intro isName
    split at isName
    · next inside =>
      obtain ⟨above, rfl⟩ := List.getLast?_eq_some_iff.1 isName
      rw [List.dropLast_concat] at inside
      rw [inside]
    · cases isName
  · rintro rfl
    simp

theorem mem_below (fs : FileSystem) (loc : Location) (name : Text) :
    name ∈ fs.below loc ↔ ∃ entry, fs.entry? (loc ++ [name]) = some entry := by
  simp only [below_eq, List.mem_filterMap, last_name_iff, entry_listed, exists_eq_right]

theorem list_cases (fs : FileSystem) (path : Text) :
    (∃ loc, fs.locate path = .ok loc ∧ fs.entry? loc = some .directory ∧
      (fs.list path).toOption.getD [] = fs.below loc) ∨
    ((∀ name, ¬ fs.HasEntry path name) ∧ (fs.list path).toOption.getD [] = []) := by
  rw [list]
  cases located : fs.locate path with
  | error cause =>
      refine .inr ⟨?_, rfl⟩
      rintro name ⟨loc, found, _⟩
      rw [located] at found
      cases found
  | ok loc =>
      by_cases directory : fs.entry? loc = some .directory
      · exact .inl ⟨loc, rfl, directory, by simp [directory, bind, Except.bind, pure, Except.pure, Except.toOption]⟩
      · refine .inr ⟨?_, by simp [directory, bind, Except.bind, throw, throwThe, MonadExceptOf.throw, Except.toOption]⟩
        rintro name ⟨other, found, isDirectory, _⟩
        cases located.symm.trans found
        exact directory isDirectory

theorem mem_list (fs : FileSystem) (path name : Text) :
    name ∈ (fs.list path).toOption.getD [] ↔ fs.HasEntry path name := by
  rcases list_cases fs path with ⟨loc, located, directory, listed⟩ | ⟨none, listed⟩
  · rw [listed, mem_below]
    constructor
    · exact fun inside => ⟨loc, located, directory, inside⟩
    · rintro ⟨other, found, _, inside⟩
      cases located.symm.trans found
      exact inside
  · rw [listed]
    exact ⟨fun member => absurd member List.not_mem_nil, fun inside => absurd inside (none name)⟩

theorem entry_name (fs : FileSystem) (path name : Text) (inside : fs.HasEntry path name) : '/' ∉ name := by
  obtain ⟨loc, _, _, stands⟩ := inside
  exact fs.named _ ((entry_listed fs loc name).1 stands) name (List.mem_append_right loc List.mem_cons_self)

theorem list_nodup (fs : FileSystem) (path : Text) : ((fs.list path).toOption.getD []).Nodup := by
  rcases list_cases fs path with ⟨loc, _, _, listed⟩ | ⟨_, listed⟩
  · rw [listed, below_eq]
    refine fs.once.filterMap fun a b name isA isB => ?_
    rw [(last_name_iff a loc name).1 isA, (last_name_iff b loc name).1 isB]
  · rw [listed]
    exact List.nodup_nil

end FileSystem

end CommandShell
