import CommandShell.Programs.PosixShell.Descriptor
import Mathlib.Data.List.Induction

set_option autoImplicit false

namespace CommandShell

namespace FileSystem

theorem lookup_map_entry {α β γ : Type} [BEq α] [LawfulBEq α] (f : α × β → α × γ)
    (keeps : ∀ entry, (f entry).1 = entry.1) (key : α) (entries : List (α × β)) :
    (entries.map f).lookup key = (entries.lookup key).map fun value => (f (key, value)).2 := by
  induction entries with
  | nil => rfl
  | cons first rest ih =>
      cases first with
      | mk name value =>
        have split : f (name, value) = (name, (f (name, value)).2) := Prod.ext (keeps (name, value)) rfl
        rw [List.map_cons, split, List.lookup_cons, List.lookup_cons, ih]
        by_cases same : (key == name) = true
        · have isKey : key = name := eq_of_beq same
          simp [isKey]
        · simp [same]

theorem content_set (fs : FileSystem) (place : Location) (before data : Bytes) (executable : Bool)
    (known : fs.entry? place = some (.file before executable)) : (fs.setContent place data).content place = data := by
  rw [FileSystem.entry?] at known
  by_cases isRoot : place = []
  · simp [isRoot] at known
  · rw [if_neg isRoot] at known
    rw [content, entry?, if_neg isRoot, setContent]
    dsimp only
    rw [lookup_map_entry, known, Option.map_some]
    · exact if_pos rfl
    · exact fun _ => rfl

theorem set_content_twice (fs : FileSystem) (place : Location) (first second : Bytes) :
    (fs.setContent place first).setContent place second = fs.setContent place second := by
  simp only [setContent, List.map_map, Function.comp_def]
  congr 1
  refine List.map_congr_left fun entry _ => ?_
  cases entry with
  | mk other entry =>
    cases entry with
    | file before executable =>
      by_cases same : other = place
      · simp [same]
      · simp [same]
    | _ => rfl

end FileSystem

namespace PosixShell

theorem overwrite_length (content : Bytes) (offset : Nat) (data : Bytes) :
    (overwrite content offset data).length = max content.length (offset + data.length) := by
  simp only [overwrite, List.length_append, List.length_take, List.length_replicate, List.length_drop]
  omega

theorem overwrite_end (content data : Bytes) : overwrite content content.length data = content ++ data := by
  simp [overwrite]

-- What stands in front of the bytes that are written: nought where nothing has been yet.
theorem overwritten_front (content : Bytes) (offset : Nat) :
    (content.take offset ++ List.replicate (offset - content.length) 0).length = offset := by
  simp only [List.length_append, List.length_take, List.length_replicate]
  omega

theorem overwrite_read (content : Bytes) (offset : Nat) (data : Bytes) :
    ((overwrite content offset data).drop offset).take data.length = data := by
  rw [overwrite, List.append_assoc _ data, List.drop_left' (overwritten_front content offset), List.take_left]

theorem overwrite_pieces (content : Bytes) (offset : Nat) (first second : Bytes) :
    overwrite (overwrite content offset first) (offset + first.length) second =
      overwrite content offset (first ++ second) := by
  have front := overwritten_front content offset
  have whole := overwrite_length content offset first
  have written : (content.take offset ++ List.replicate (offset - content.length) 0 ++ first).length =
      offset + first.length := by rw [List.length_append, front]
  have kept : (overwrite content offset first).take (offset + first.length) =
      content.take offset ++ List.replicate (offset - content.length) 0 ++ first := List.take_left' written
  have behind : (overwrite content offset first).drop (offset + first.length + second.length) =
      content.drop (offset + (first ++ second).length) := by
    rw [← List.drop_drop, overwrite, List.drop_left' written, List.drop_drop, List.length_append, Nat.add_assoc]
  have noGap : offset + first.length - (overwrite content offset first).length = 0 := by omega
  rw [overwrite, noGap, kept, behind, overwrite]
  simp

namespace System

variable (s : System) (number : Nat)

theorem channel_set (before c : Channel) (other : Nat) (known : s.channel? number = some before) :
    (s.setChannel number c).channel? other = if other = number then some c else s.channel? other := by
  obtain ⟨bound, _⟩ := Array.getElem?_eq_some_iff.1 known
  rw [channel?, setChannel, Array.getElem?_setIfInBounds]
  by_cases same : other = number
  · simp [same, bound]
  · simp [same, Ne.symm same, channel?]

theorem write_file (place : Location) (offset : Nat) (access : Access)
    (isFile : s.channel? number = some (.file place offset access)) (writes : access.writes = true) (data : Bytes) :
    let start := if access.appends then (s.files.content place).length else offset
    let files := s.files.setContent place (overwrite (s.files.content place) start data)
    s.write? number data =
      some ({ s with files }.setChannel number (.file place (start + data.length) access)) := by
  simp [write?, writeFault?, isFile, writes]

theorem write_file_pieces (place : Location) (offset : Nat) (access : Access) (before : Bytes) (executable : Bool)
    (isFile : s.channel? number = some (.file place offset access)) (writes : access.writes = true)
    (known : s.files.entry? place = some (.file before executable)) (first second : Bytes) :
    (s.write? number first).bind (·.write? number second) = s.write? number (first ++ second) := by
  have written := write_file s number place offset access isFile writes first
  generalize isStart : (if access.appends then (s.files.content place).length else offset) = start at written
  let files := s.files.setContent place (overwrite (s.files.content place) start first)
  let t := ({ s with files } : System).setChannel number (.file place (start + first.length) access)
  have later : t.channel? number = some (.file place (start + first.length) access) :=
    (channel_set { s with files } number _ _ number isFile).trans (if_pos rfl)
  have stored : t.files.content place = overwrite (s.files.content place) start first :=
    s.files.content_set place before _ executable known
  have goesOn : (if access.appends then (t.files.content place).length else start + first.length) =
      start + first.length := by
    by_cases appends : access.appends = true
    · rw [if_pos appends] at isStart ⊢
      rw [stored, overwrite_length]
      omega
    · rw [if_neg appends]
  have whole := write_file s number place offset access isFile writes (first ++ second)
  rw [isStart] at whole
  rw [written, Option.bind_some, write_file t number place _ access later writes second, whole]
  rw [goesOn, stored, overwrite_pieces]
  simp only [t, files, setChannel, FileSystem.set_content_twice, Array.setIfInBounds_setIfInBounds, List.length_append,
    Nat.add_assoc]

def writeAll? (pieces : List Bytes) : Option System := pieces.foldlM (fun s data => s.write? number data) s

-- In what pieces a file is written makes no difference.
theorem write_all_file (place : Location) (offset : Nat) (access : Access) (before : Bytes) (executable : Bool)
    (isFile : s.channel? number = some (.file place offset access)) (writes : access.writes = true)
    (known : s.files.entry? place = some (.file before executable)) (pieces : List Bytes) (given : pieces ≠ []) :
    s.writeAll? number pieces = s.write? number pieces.flatten := by
  induction pieces using List.reverseRecOn with
  | nil => exact absurd rfl given
  | append_singleton front last ih =>
      rw [writeAll?, List.foldlM_append, List.flatten_append, List.flatten_singleton]
      by_cases first : front = []
      · subst first
        simp
      · have joined := write_file_pieces s number place offset access before executable isFile writes known
          front.flatten last
        rw [← joined, ← ih first]
        simp only [List.foldlM_cons, List.foldlM_nil, bind_pure]
        rfl

theorem append_all (place : Location) (offset : Nat) (access : Access) (before : Bytes) (executable : Bool)
    (isFile : s.channel? number = some (.file place offset access)) (writes : access.writes = true)
    (appends : access.appends = true) (known : s.files.entry? place = some (.file before executable))
    (pieces : List Bytes) :
    ∃ t, s.writeAll? number pieces = some t ∧ t.files.content place = before ++ pieces.flatten := by
  have content : s.files.content place = before := by rw [FileSystem.content, known]
  by_cases nothing : pieces = []
  · subst nothing
    exact ⟨s, rfl, by simp [content]⟩
  · rw [write_all_file s number place offset access before executable isFile writes known pieces nothing,
      write_file s number place offset access isFile writes]
    refine ⟨_, rfl, (s.files.content_set place before _ executable known).trans ?_⟩
    rw [if_pos appends, content, overwrite_end]

theorem whole_pieces (front : Bytes) (back : List Bytes) (data : Bytes) :
    whole front (data :: back) = whole front back ++ data := by
  cases back with
  | nil => simp [whole]
  | cons last rest => simp [whole]

theorem unread_pipe (front : Bytes) (back : List Bytes) (isPipe : s.channel? number = some (.pipe front back)) :
    s.unread number = .ok (whole front back) := by
  rw [unread, isPipe]

-- What comes out of a pipe is what has been put in.
theorem write_all_pipe (front : Bytes) (back : List Bytes) (isPipe : s.channel? number = some (.pipe front back))
    (pieces : List Bytes) :
    ∃ t, s.writeAll? number pieces = some t ∧ t.unread number = .ok (whole front back ++ pieces.flatten) ∧
      ∀ other ≠ number, t.channel? other = s.channel? other := by
  induction pieces generalizing s back with
  | nil =>
      refine ⟨s, rfl, ?_, fun _ _ => rfl⟩
      rw [unread_pipe s number front back isPipe, List.flatten_nil, List.append_nil]
  | cons data rest ih =>
      have written : s.write? number data = some (s.setChannel number (.pipe front (data :: back))) := by
        rw [write?, writeFault?, isPipe]
        rfl
      have there := channel_set s number _ (.pipe front (data :: back)) number isPipe
      rw [if_pos rfl] at there
      obtain ⟨t, others, waiting, apart⟩ := ih _ (data :: back) there
      refine ⟨t, ?_, ?_, fun other isOther => (apart other isOther).trans ?_⟩
      · rw [writeAll?, List.foldlM_cons, written]
        exact others
      · rw [waiting, whole_pieces, List.append_assoc, List.flatten_cons]
      · rw [channel_set s number _ _ other isPipe, if_neg isOther]

theorem consume_pipe (front : Bytes) (back : List Bytes) (isPipe : s.channel? number = some (.pipe front back)) (n : Nat) :
    (s.consume number n).unread number = .ok ((whole front back).drop n) := by
  have there := channel_set s number _ (.pipe ((whole front back).drop n) []) number isPipe
  rw [if_pos rfl] at there
  rw [consume, isPipe]
  exact unread_pipe _ number _ [] there

end System

end PosixShell

end CommandShell
