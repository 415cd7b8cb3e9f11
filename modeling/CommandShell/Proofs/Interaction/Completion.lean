import CommandShell.Interaction.Completion
import CommandShell.Proofs.Execution.Resolution
import CommandShell.Proofs.Files.Listing
import CommandShell.Proofs.Text.Offsets
import Mathlib.Data.List.TakeWhile

set_option autoImplicit false

namespace CommandShell

namespace Text

theorem split_end (p : Char → Bool) (text : Text) :
    ∃ front last, text.reverse.takeWhile p = last.reverse ∧ text.take (text.length - last.length) = front ∧
      text = front ++ last ∧ (∀ c ∈ last, p c = true) ∧ ∀ c ∈ front.getLast?, p c = false := by
  obtain ⟨last, isLast⟩ : ∃ last : Text, text.reverse.takeWhile p = last.reverse := ⟨_, (List.reverse_reverse _).symm⟩
  obtain ⟨front, isFront⟩ : ∃ front : Text, text.reverse.dropWhile p = front.reverse :=
    ⟨_, (List.reverse_reverse _).symm⟩
  have whole : text = front ++ last := by
    rw [← List.reverse_inj, List.reverse_append, ← isLast, ← isFront, List.takeWhile_append_dropWhile]
  refine ⟨front, last, isLast, by rw [whole]; simp, whole, ?_, ?_⟩
  · intro c member
    exact List.mem_takeWhile_imp (isLast ▸ List.mem_reverse.2 member)
  · intro c ends
    have stops := List.head?_dropWhile_not p text.reverse
    rw [isFront, List.head?_reverse, Option.mem_def.1 ends] at stops
    simpa using stops

theorem trim_end_append (front blanks : Text) (blank : ∀ c ∈ blanks, isBlank c = true)
    (ends : ∀ c ∈ front.getLast?, isBlank c = false) : trimEnd (front ++ blanks) = front := by
  rw [trimEnd, dropEndWhile, List.reverse_append,
    List.dropWhile_append_of_pos fun c member => blank c (List.mem_reverse.1 member)]
  rcases List.eq_nil_or_concat' front with rfl | ⟨more, c, rfl⟩
  · rfl
  · rw [List.getLast?_concat] at ends
    simp [ends c rfl]

end Text

namespace Completion

theorem names_get? (vars : Variables) (name : Text) : name ∈ vars.names ↔ (vars.get? name).isSome :=
  (lookup_is_some_key name vars.entries).symm

theorem mem_of_variables (vars : Variables) (name t : Text) :
    t ∈ ofVariables vars name ↔ ∃ v, t = '$' :: v ∧ name <+: v ∧ (vars.get? v).isSome := by
  simp only [ofVariables, List.mem_map, List.mem_filter, names_get?, List.isPrefixOf_iff_prefix]
  constructor
  · rintro ⟨v, ⟨bound, continues⟩, rfl⟩
    exact ⟨v, rfl, continues, bound⟩
  · rintro ⟨v, rfl, continues, bound⟩
    exact ⟨v, ⟨bound, continues⟩, rfl⟩

theorem of_variables_pairwise (vars : Variables) (name : Text) : (ofVariables vars name).Pairwise (· < ·) := by
  rw [ofVariables, List.pairwise_map]
  have names : vars.names.Pairwise (· < ·) := List.pairwise_map.2 vars.ordered
  exact (names.filter _).imp fun {a b} less => List.cons_lt_cons_self.2 less

-- A command can begin here: there is nothing but blanks, or a `|`, a `;` or a `(` with nothing but blanks behind it.
def StartsCommand (before : Text) : Prop :=
  (∀ c ∈ before, isBlank c = true) ∨
    ∃ front c blanks, before = front ++ c :: blanks ∧ (c = '|' ∨ c = ';' ∨ c = '(') ∧ ∀ d ∈ blanks, isBlank d = true

theorem command_position_iff (before : Text) : isCommandPosition before = true ↔ StartsCommand before := by
  constructor
  · intro position
    obtain ⟨front, blanks, _, _, rfl, blank, ends⟩ := Text.split_end isBlank before
    rw [isCommandPosition, Text.trim_end_append front blanks blank ends] at position
    rcases List.eq_nil_or_concat' front with rfl | ⟨more, c, rfl⟩
    · exact .inl blank
    · rw [List.getLast?_concat] at position
      refine .inr ⟨more, c, blanks, by rw [List.append_assoc]; rfl, ?_, blank⟩
      simpa [or_assoc] using position
  · rintro (blank | ⟨front, c, blanks, rfl, sign, blank⟩)
    · have nothing := Text.trim_end_append [] before blank nofun
      rw [List.nil_append] at nothing
      rw [isCommandPosition, nothing]
      rfl
    · have visible : isBlank c = false := by rcases sign with rfl | rfl | rfl <;> rfl
      have trimmed := Text.trim_end_append (front ++ [c]) blanks blank (by simpa using visible)
      rw [List.append_assoc, List.singleton_append] at trimmed
      rw [isCommandPosition, trimmed, List.getLast?_concat]
      rcases sign with rfl | rfl | rfl <;> rfl

theorem mem_of_builtins (word t : Text) : t ∈ ofBuiltins word ↔ word <+: t ∧ ∃ b : Builtin, b.name = t := by
  have listed (b : Builtin) : b ∈ Builtin.all := List.mem_of_find?_eq_some ((Builtin.of_name_iff b.name b).2 rfl)
  simp only [ofBuiltins, List.mem_filter, List.mem_map, List.isPrefixOf_iff_prefix]
  constructor
  · rintro ⟨⟨b, _, named⟩, continues⟩
    exact ⟨continues, b, named⟩
  · rintro ⟨continues, b, named⟩
    exact ⟨⟨b, listed b, named⟩, continues⟩

theorem split_word (text : Text) :
    ∃ before word, splitWord text = (before, word) ∧ text = before ++ word ∧ (∀ c ∈ word, isBlank c = false) ∧
      ∀ c ∈ before.getLast?, isBlank c = true := by
  obtain ⟨before, word, last, cut, whole, visible, ends⟩ := Text.split_end (!isBlank ·) text
  refine ⟨before, word, ?_, whole, by simpa using visible, by simpa using ends⟩
  simp only [splitWord, last, List.reverse_reverse, cut]

theorem split_path (path : Text) :
    ∃ above start, splitPath path = (above, start) ∧ path = above ++ start ∧ '/' ∉ start ∧
      ∀ c ∈ above.getLast?, c = '/' := by
  obtain ⟨above, start, last, cut, whole, apart, ends⟩ := Text.split_end (· ≠ '/') path
  refine ⟨above, start, ?_, whole, fun separator => by simpa using apart '/' separator, by simpa using ends⟩
  simp only [splitPath, last, List.reverse_reverse, cut]

theorem offers_iff (start name : Text) :
    offers start name = true ↔ start <+: name ∧ (name.head? = some '.' → start.head? = some '.') := by
  simp [offers, imp_iff_not_or]

def filePath (fs : FileSystem) (place above name : Text) : Text :=
  above ++ name ++ if fs.isDirectory (Path.join place name) then ['/'] else []

section Files

variable (fs : FileSystem) (directory word above start : Text) (split : splitPath word = (above, start))

include split

theorem of_files_eq : ofFiles fs directory word =
    Text.sort ((((fs.list (Path.join directory above)).toOption.getD []).filter (offers start)).map
      (filePath fs (Path.join directory above) above)) := by
  rw [ofFiles, split]
  rfl

theorem mem_of_files (t : Text) : t ∈ ofFiles fs directory word ↔
    ∃ name, fs.HasEntry (Path.join directory above) name ∧ start <+: name ∧
      (name.head? = some '.' → start.head? = some '.') ∧ t = filePath fs (Path.join directory above) above name := by
  rw [of_files_eq fs directory word above start split, (Text.sort_perm _).mem_iff, List.mem_map]
  simp only [List.mem_filter, FileSystem.mem_list, offers_iff]
  constructor
  · rintro ⟨name, ⟨entry, continues, hidden⟩, rfl⟩
    exact ⟨name, entry, continues, hidden, rfl⟩
  · rintro ⟨name, entry, continues, hidden, rfl⟩
    exact ⟨name, ⟨entry, continues, hidden⟩, rfl⟩

theorem of_files_nodup : (ofFiles fs directory word).Nodup := by
  rw [of_files_eq fs directory word above start split, (Text.sort_perm _).nodup_iff]
  refine List.Nodup.map_on ?_ ((fs.list_nodup _).filter _)
  intro a aListed b bListed same
  have aName := fs.entry_name _ a ((fs.mem_list _ a).1 (List.mem_filter.1 aListed).1)
  have bName := fs.entry_name _ b ((fs.mem_list _ b).1 (List.mem_filter.1 bListed).1)
  simp only [filePath, List.append_assoc, List.append_cancel_left_eq] at same
  -- a separator behind one of the names only would be in the other name
  split at same <;> split at same
  · exact List.append_cancel_right same
  · rw [List.append_nil] at same
    exact absurd (same ▸ List.mem_append_right a List.mem_cons_self) bName
  · rw [List.append_nil] at same
    exact absurd (same ▸ List.mem_append_right b List.mem_cons_self) aName
  · simpa using same

end Files

theorem mem_of_command (before word t : Text) : t ∈ (if isCommandPosition before then ofBuiltins word else []) ↔
    StartsCommand before ∧ word <+: t ∧ ∃ b : Builtin, b.name = t := by
  rw [← command_position_iff, ← mem_of_builtins]
  by_cases position : isCommandPosition before = true <;> simp [position]

section Text

variable (fs : FileSystem) (s : Session) (text before word : Text) (split : splitWord text = (before, word))

include split

theorem of_text_start : (ofText fs s text).start = Text.byteLength before := by rw [ofText, split]

theorem of_text_variable (name : Text) (isVariable : word = '$' :: name) :
    (ofText fs s text).candidates = ofVariables s.bindings name := by
  rw [ofText, split, isVariable]
  rfl

theorem of_text_other (other : word.head? ≠ some '$') : (ofText fs s text).candidates =
    (if isCommandPosition before then ofBuiltins word else []) ++ ofFiles fs s.directory word := by
  rw [ofText, split]
  dsimp only
  split
  · exact absurd rfl other
  · rfl

theorem continues_word (t : Text) (offered : t ∈ (ofText fs s text).candidates) : word <+: t := by
  by_cases sign : word.head? = some '$'
  · obtain ⟨name, rfl⟩ := List.head?_eq_some_iff.1 sign
    rw [of_text_variable fs s text before _ split name rfl] at offered
    obtain ⟨v, rfl, continues, _⟩ := (mem_of_variables s.bindings name t).1 offered
    exact (List.prefix_cons_inj '$').2 continues
  · rw [of_text_other fs s text before word split sign, List.mem_append] at offered
    rcases offered with builtin | file
    · exact ((mem_of_command before word t).1 builtin).2.1
    · obtain ⟨above, start, cut, rfl, _⟩ := split_path word
      obtain ⟨name, _, continues, _, rfl⟩ := (mem_of_files fs s.directory _ above start cut t).1 file
      rw [filePath, List.append_assoc]
      exact (List.prefix_append_right_inj above).2 (continues.trans (List.prefix_append name _))

end Text

theorem completion_extends (fs : FileSystem) (s : Session) (line : Text) (pos : Nat) (boundary : line.IsBoundary pos) :
    let c := ofText fs s (Text.splitBytes pos line).1
    ∃ before word after, line = before ++ word ++ after ∧ pos = Text.byteLength (before ++ word) ∧
      c.start = Text.byteLength before ∧ (∀ d ∈ word, isBlank d = false) ∧
      (∀ d ∈ before.getLast?, isBlank d = true) ∧ (∀ t ∈ c.candidates, word <+: t) ∧
      (∀ name, word = '$' :: name → c.candidates.Pairwise (· < ·) ∧
        ∀ t, t ∈ c.candidates ↔ ∃ v, t = '$' :: v ∧ name <+: v ∧ (s.bindings.get? v).isSome) ∧
      (word.head? ≠ some '$' → ∃ builtins files above start, c.candidates = builtins ++ files ∧
        builtins.Sublist (Builtin.all.map Builtin.name) ∧
        (∀ t, t ∈ builtins ↔ StartsCommand before ∧ word <+: t ∧ ∃ b : Builtin, b.name = t) ∧
        word = above ++ start ∧ '/' ∉ start ∧ (∀ d ∈ above.getLast?, d = '/') ∧
        files.Pairwise (fun f g => ¬ g < f) ∧ files.Nodup ∧
        ∀ t, t ∈ files ↔ ∃ name, fs.HasEntry (Path.join s.directory above) name ∧ start <+: name ∧
          (name.head? = some '.' → start.head? = some '.') ∧
          t = filePath fs (Path.join s.directory above) above name) := by
  obtain ⟨text, after, rfl, rfl⟩ := boundary
  intro c
  obtain ⟨before, word, split, whole, visible, ends⟩ := split_word text
  have typed : c = ofText fs s text := congrArg (fun parts => ofText fs s parts.1) (Text.split_bytes_append text after)
  refine ⟨before, word, after, by rw [whole], by rw [whole], ?_, visible, ends, ?_, ?_, ?_⟩
  · rw [typed, of_text_start fs s text before word split]
  · rw [typed]
    exact continues_word fs s text before word split
  · intro name isVariable
    rw [typed, of_text_variable fs s text before word split name isVariable]
    exact ⟨of_variables_pairwise s.bindings name, mem_of_variables s.bindings name⟩
  · intro other
    obtain ⟨above, start, cut, path, apart, separator⟩ := split_path word
    rw [typed, of_text_other fs s text before word split other]
    refine ⟨_, _, above, start, rfl, ?_, mem_of_command before word, path, apart, separator,
      Text.sort_pairwise _, of_files_nodup fs s.directory word above start cut,
      mem_of_files fs s.directory word above start cut⟩
    by_cases position : isCommandPosition before = true
    · rw [if_pos position]
      exact List.filter_sublist
    · rw [if_neg position]
      exact List.nil_sublist _

theorem completion_extends_wide :
    let fs : FileSystem := { entries := [([".e".toList], .file [] false), (["etc".toList], .directory)] }
    let s := Session.start Calculator.eval {} ['/'] ['/']
    let line : Text := "cat |\u3000e x".toList
    let c := ofText fs s (Text.splitBytes 9 line).1
    line.IsBoundary 9 ∧ c.start = 8 ∧ (∀ t ∈ c.candidates, ['e'] <+: t) ∧ "echo".toList ∈ c.candidates ∧
      "etc/".toList ∈ c.candidates := by
  intro fs s line c
  have boundary : line.IsBoundary 9 := ⟨"cat |\u3000e".toList, " x".toList, rfl, rfl⟩
  have start : c.start = 8 := rfl
  obtain ⟨before, word, after, whole, length, started, _, _, continues, _, other⟩ :=
    completion_extends fs s line 9 boundary
  have typed : Text.splitBytes 9 line = (before ++ word, after) := by
    rw [whole, length, Text.split_bytes_append]
  have text : "cat |\u3000e".toList = before ++ word := congrArg Prod.fst typed
  have cut : Text.splitBytes 8 "cat |\u3000e".toList = (before, word) := by
    rw [text, ← start, started, Text.split_bytes_append]
  obtain ⟨rfl, rfl⟩ : "cat |\u3000".toList = before ∧ ['e'] = word := Prod.mk.inj cut
  obtain ⟨builtins, files, above, rest, shape, _, ofBuiltin, path, _, separator, _, _, ofFile⟩ := other (by decide)
  have begins : StartsCommand "cat |\u3000".toList :=
    .inr ⟨"cat ".toList, '|', ['\u3000'], rfl, .inl rfl, List.forall_mem_singleton.2 rfl⟩
  refine ⟨boundary, start, continues, ?_, ?_⟩
  · rw [shape]
    exact List.mem_append_left _ ((ofBuiltin _).2 ⟨begins, by decide, .echo, rfl⟩)
  · rw [shape]
    cases above with
    | cons d more =>
        obtain ⟨rfl, nothing⟩ := List.cons.inj path
        obtain ⟨rfl, _⟩ := List.append_eq_nil_iff.1 nothing.symm
        cases separator 'e' rfl
    | nil =>
        obtain rfl : ['e'] = rest := path
        have stands : fs.HasEntry ['/'] "etc".toList := ⟨[], rfl, rfl, .directory, rfl⟩
        exact List.mem_append_right _ ((ofFile _).2 ⟨"etc".toList, stands, by decide, by decide, rfl⟩)

end Completion

end CommandShell
