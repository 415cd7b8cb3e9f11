import CommandShell.Programs.Tr
import CommandShell.Proofs.Programs.CharacterLists
import CommandShell.Proofs.Programs.Processes
import Mathlib.Data.List.Destutter

set_option autoImplicit false

namespace CommandShell.Translate

theorem tabulate_get {α : Type} (f : Char → α) (fallback : α) (c : Char) (small : c.toNat < 256) :
    (tabulate f).getD c.toNat fallback = f c := by
  simp [tabulate, allChars, small]

-- No run of equal characters that are squeezed is left with two of them.
def Apart (squeezed : Char → Bool) (a b : Char) : Prop := ¬ (a = b ∧ squeezed b = true)

instance (squeezed : Char → Bool) : DecidableRel (Apart squeezed) := fun _ _ => inferInstanceAs (Decidable (¬ _))

theorem squeeze_after (squeezed : Char → Bool) (a : Char) (t : Text) :
    a :: squeeze squeezed (some a) t = t.destutter' (Apart squeezed) a := by
  induction t generalizing a with
  | nil => rfl
  | cons c rest ih =>
      by_cases repeated : a = c ∧ squeezed c = true
      · obtain ⟨rfl, isSqueezed⟩ := repeated
        have close : ¬ Apart squeezed a a := not_not_intro ⟨rfl, isSqueezed⟩
        rw [List.destutter'_cons_neg _ close, ← ih a, squeeze]
        simp [isSqueezed]
      · rw [List.destutter'_cons_pos _ repeated, ← ih c, squeeze]
        simp [repeated]

theorem squeeze_eq (squeezed : Char → Bool) (t : Text) : squeeze squeezed none t = t.destutter (Apart squeezed) := by
  cases t with
  | nil => rfl
  | cons c rest => exact squeeze_after squeezed c rest

theorem squeeze_nothing (t : Text) : t.destutter (Apart fun _ => false) = t := by
  refine List.destutter_of_isChain _ t (List.Pairwise.isChain ?_)
  exact List.pairwise_of_forall fun a b ⟨_, squeezed⟩ => Bool.false_ne_true squeezed

-- The characters that a job is about: those of its first list, or all others.
def selected (j : Job) (source : List Element) (c : Char) : Bool := has source c != j.complements

theorem squeeze_congr (f g : Char → Bool) (before : Option Char) (t : Text) (same : ∀ c ∈ t, f c = g c) :
    squeeze f before t = squeeze g before t := by
  induction t generalizing before with
  | nil => rfl
  | cons c rest ih =>
      have others (d : Char) (member : d ∈ rest) : f d = g d := same d (List.mem_cons_of_mem c member)
      rw [squeeze, squeeze, same c List.mem_cons_self, ih before others, ih (some c) others]

section Transform

variable (j : Job) (source : List Element) (result : Text → Text)

theorem transform_alone (made : transform j source none = .ok result) :
    result = if j.deletes then fun text => text.filter fun c => !(tabulate (selected j source)).getD c.toNat false
      else squeeze (fun c => (tabulate (selected j source)).getD c.toNat false) none := by
  by_cases opened : source.any isOpen = true
  · simp only [transform, opened, if_true] at made
    cases made
  · simp only [transform, if_neg opened] at made
    cases made
    rfl

theorem transform_target (target : List Element) (made : transform j source (some target) = .ok result) :
    (j.deletes = true ∧ result = fun text => squeeze (fun c => (tabulate (has target)).getD c.toNat false) none
      (text.filter fun c => !(tabulate (selected j source)).getD c.toNat false)) ∨
    (j.deletes = false ∧ ∃ matched, matchLists j source target = .ok matched ∧
      result = fun text =>
        let translated := text.map fun c => (tabulate fun c => ((meanings j source matched).lookup c).getD c).getD c.toNat c
        if j.squeezes then squeeze (fun c => (tabulate (has matched)).getD c.toNat false) none translated
        else translated) := by
  by_cases opened : source.any isOpen = true
  · simp only [transform, opened, if_true] at made
    cases made
  · by_cases many : 1 < (target.filter isOpen).length
    · simp only [transform, opened, many] at made
      cases made
    · cases deletes : j.deletes with
      | true =>
          by_cases unused : target.any isOpen = true
          · simp only [transform, if_neg opened, if_neg many, deletes, unused] at made
            cases made
          · simp only [transform, if_neg opened, if_neg many, deletes, unused] at made
            cases made
            exact .inl ⟨rfl, rfl⟩
      | false =>
          simp only [transform, if_neg opened, if_neg many, deletes] at made
          cases matched : matchLists j source target with
          | error fault =>
              rw [matched] at made
              cases made
          | ok found =>
              rw [matched] at made
              refine .inr ⟨rfl, found, rfl, ?_⟩
              change (if (!j.squeezes) = true then _ else _) = _ at made
              cases squeezes : j.squeezes <;> simp only [squeezes] at made <;> cases made <;> rfl

theorem filter_selected (t : Text) (octets : IsOctets t) :
    t.filter (fun c => !(tabulate (selected j source)).getD c.toNat false) = t.filter fun c => !selected j source c := by
  refine List.filter_congr fun c member => ?_
  rw [tabulate_get (selected j source) false c (octets c member)]

theorem squeeze_tabulated (squeezed : Char → Bool) (t : Text) (octets : IsOctets t) :
    squeeze (fun c => (tabulate squeezed).getD c.toNat false) none t = t.destutter (Apart squeezed) := by
  rw [← squeeze_eq]
  exact squeeze_congr _ _ none t fun c member => tabulate_get squeezed false c (octets c member)

theorem is_octets_filter (keep : Char → Bool) (t : Text) (octets : IsOctets t) : IsOctets (t.filter keep) :=
  fun c member => octets c (List.mem_of_mem_filter member)

theorem delete_filters (made : transform j source none = .ok result) (deletes : j.deletes = true) (t : Text)
    (octets : IsOctets t) : result t = t.filter fun c => !selected j source c := by
  rw [transform_alone j source result made, if_pos deletes, filter_selected j source t octets]

theorem squeeze_keeps_one (made : transform j source none = .ok result) (deletes : j.deletes = false) (t : Text)
    (octets : IsOctets t) : result t = t.destutter (Apart (selected j source)) := by
  rw [transform_alone j source result made, if_neg (by simp [deletes])]
  exact squeeze_tabulated (selected j source) t octets

theorem delete_then_squeeze (target : List Element) (made : transform j source (some target) = .ok result)
    (deletes : j.deletes = true) (t : Text) (octets : IsOctets t) :
    result t = (t.filter fun c => !selected j source c).destutter (Apart (has target)) := by
  rcases transform_target j source result target made with ⟨_, rfl⟩ | ⟨keeps, _⟩
  · change squeeze _ none (t.filter _) = _
    rw [filter_selected j source t octets]
    exact squeeze_tabulated (has target) _ (is_octets_filter _ t octets)
  · rw [deletes] at keeps
    cases keeps

end Transform

theorem has_of_mem (source : List Element) (e : Element) (member : e ∈ source) (octets : e.InOctets) (c : Char)
    (among : c ∈ e.chars) : has source c = true := by
  rw [has, List.any_eq_true]
  refine ⟨e, member, ?_⟩
  cases e with
  | char own => simpa [Element.chars] using among
  | equivalents own => simpa [Element.chars] using among
  | named k => exact (List.mem_filter.1 among).2
  | repeated own count =>
      cases count with
      | none => simp [Element.chars] at among
      | some n => simp [List.eq_of_mem_replicate among]
  | range first last =>
      obtain ⟨n, below, rfl⟩ := List.mem_map.1 among
      have small : last.toNat < 256 := octets
      have bound := List.mem_range.1 below
      have value := char_of_small (first.toNat + n) (by omega)
      simp only [Bool.and_eq_true, decide_eq_true_eq, Char.le_def, UInt32.le_iff_toNat_le]
      change first.toNat ≤ (Char.ofNat _).toNat ∧ (Char.ofNat _).toNat ≤ last.toNat
      rw [value]
      omega

theorem pairs_source (fuel : Nat) (sources targets : List (List Place)) (pair : Place × Place)
    (member : pair ∈ (pairs fuel sources targets).1) : pair.1 ∈ sources.flatten := by
  fun_induction pairs fuel sources targets with
  | case1 => cases member
  | case2 fuel others targets ih => exact ih member
  | case3 fuel sources others _ ih => exact ih member
  | case4 fuel source sources moreSources target targets moreTargets isWrong rest wrong next wholly singly =>
      rcases List.mem_cons.1 member with rfl | later
      · exact List.mem_cons_self
      · by_cases case : target.case.isSome = true
        · rw [if_pos case] at next
          rw [next] at wholly
          exact List.mem_append_right (source :: sources) (wholly later)
        · rw [if_neg case] at next
          rw [next] at singly
          exact List.mem_cons_of_mem source (singly later)
  | case5 => cases member
  | case6 => cases member

theorem mem_places (source : List Element) (place : Place) (member : place ∈ (places source).flatten) :
    ∃ e ∈ source, place.char ∈ e.chars ∧ place.case = case? e := by
  obtain ⟨row, isRow, inRow⟩ := List.mem_flatten.1 member
  obtain ⟨e, isElement, rfl⟩ := List.mem_map.1 isRow
  obtain ⟨⟨c, n⟩, numbered, rfl⟩ := List.mem_map.1 inRow
  exact ⟨e, isElement, List.fst_mem_of_mem_zipIdx numbered, rfl⟩

theorem has_of_case (source : List Element) (e : Element) (member : e ∈ source) (k : CharClass)
    (case : case? e = some k) (c : Char) (isK : k.has c = true) : has source c = true := by
  rw [has, List.any_eq_true]
  cases e with
  | named own =>
      cases own <;> cases case <;> exact ⟨_, member, isK⟩
  | _ => cases case

-- A character that a job is not about has no meaning but itself.
theorem selected_of_meaning (j : Job) (source target : List Element) (octets : ∀ e ∈ source, e.InOctets)
    (meaning : Char × Char) (member : meaning ∈ meanings j source target) : selected j source meaning.1 = true := by
  cases complements : j.complements with
  | true =>
      rw [meanings, if_pos complements, List.mem_reverse] at member
      have absent := (List.mem_filter.1 (List.of_mem_zip member).1).2
      simpa [selected, complements] using absent
  | false =>
      have present : has source meaning.1 = true := by
        simp only [meanings, complements, Bool.false_eq_true, if_false, List.mem_reverse, List.mem_flatMap] at member
        obtain ⟨⟨place, goal⟩, isPair, isMeaning⟩ := member
        obtain ⟨e, isElement, among, case⟩ := mem_places source place (pairs_source _ _ _ _ isPair)
        dsimp only at isMeaning
        split at isMeaning
        · rename_i lower _
          obtain ⟨c, isLower, rfl⟩ := List.mem_map.1 isMeaning
          exact has_of_case source e isElement .lower (case ▸ lower) c (List.mem_filter.1 isLower).2
        · rename_i upper _
          obtain ⟨c, isUpper, rfl⟩ := List.mem_map.1 isMeaning
          exact has_of_case source e isElement .upper (case ▸ upper) c (List.mem_filter.1 isUpper).2
        · obtain rfl := List.mem_singleton.1 isMeaning
          exact has_of_mem source e isElement (octets e isElement) place.char among
      simp [selected, complements, present]

theorem becomes_unselected (j : Job) (source target : List Element) (octets : ∀ e ∈ source, e.InOctets) (c : Char)
    (unselected : selected j source c = false) : ((meanings j source target).lookup c).getD c = c := by
  cases known : (meanings j source target).lookup c with
  | none => rfl
  | some d =>
      obtain ⟨before, after, split, _⟩ := List.lookup_eq_some_iff.1 known
      have member : (c, d) ∈ meanings j source target := split ▸ List.mem_append_right before List.mem_cons_self
      have about := selected_of_meaning j source target octets (c, d) member
      rw [unselected] at about
      cases about

theorem translate_maps (j : Job) (source target : List Element) (result : Text → Text)
    (made : transform j source (some target) = .ok result) (deletes : j.deletes = false)
    (octets : ∀ e ∈ source, e.InOctets) :
    ∃ (becomes : Char → Char) (squeezed : Char → Bool), (∀ c, selected j source c = false → becomes c = c) ∧
      (j.squeezes = false → squeezed = fun _ => false) ∧
      ∀ t, IsOctets t → result t = (t.map becomes).destutter (Apart squeezed) := by
  rcases transform_target j source result target made with ⟨drops, _⟩ | ⟨_, matched, _, rfl⟩
  · rw [deletes] at drops
    cases drops
  · let becomes (c : Char) : Char := ((meanings j source matched).lookup c).getD c
    have mapped (t : Text) (small : IsOctets t) :
        (t.map fun c => (tabulate becomes).getD c.toNat c) = t.map becomes :=
      List.map_congr_left fun c member => tabulate_get becomes c c (small c member)
    cases squeezes : j.squeezes with
    | true =>
        refine ⟨becomes, fun c => (tabulate (has matched)).getD c.toNat false,
          becomes_unselected j source matched octets, fun never => (by cases never), fun t small => ?_⟩
        rw [← squeeze_eq, ← mapped t small]
        rfl
    | false =>
        refine ⟨becomes, fun _ => false, becomes_unselected j source matched octets, fun _ => rfl, fun t small => ?_⟩
        rw [squeeze_nothing, ← mapped t small]
        rfl

theorem failed_ending (p : Process) (warnings : List Bytes) (message : Text) (taken : Nat) :
    let e := p.ending 1 (warnings.map (OutputStream.errors, ·) ++ [(.errors, p.complaint message)]) taken
    e.output = [] ∧ e.errors ≠ [] := by
  have all : warnings.map (OutputStream.errors, ·) ++ [(.errors, p.complaint message)] =
      (warnings ++ [p.complaint message]).map (OutputStream.errors, ·) ++ [].map (OutputStream.output, ·) := by
    simp
  intro e
  change (p.ending 1 _ taken).output = [] ∧ (p.ending 1 _ taken).errors ≠ []
  rw [all, p.output_of_complaints, p.errors_of_complaints]
  exact ⟨rfl, by simp [p.complaint_ne_nil message]⟩

theorem run_cases (p : Process) (input : Bytes) (j : Job) (operands : List Text) :
    let e := run p input j operands
    e.files = p.files ∧ ((e.code = 1 ∧ e.output = [] ∧ e.errors ≠ []) ∨
      (e.code = 0 ∧ e.taken = input.length ∧ ∃ lists result, (readLists p operands).2 = .ok lists ∧
        transform j (lists.head?.getD []) lists.tail.head? = .ok result ∧
        e.output = Octets.bytes (result (Octets.ofBytes input)))) := by
  unfold run
  generalize readLists p operands = read
  obtain ⟨warnings, lists⟩ := read
  cases lists with
  | error fault => exact ⟨rfl, .inl ⟨rfl, failed_ending p warnings _ 0⟩⟩
  | ok lists =>
      dsimp only
      cases made : transform j (lists.head?.getD []) lists.tail.head? with
      | error mismatch => exact ⟨rfl, .inl ⟨rfl, failed_ending p warnings _ 0⟩⟩
      | ok result =>
          dsimp only
          cases p.streams.input.fault with
          | some fault => exact ⟨rfl, .inl ⟨rfl, failed_ending p warnings _ 0⟩⟩
          | none =>
              dsimp only
              split
              · exact ⟨rfl, .inl ⟨rfl, failed_ending p warnings _ input.length⟩⟩
              · refine ⟨rfl, .inr ⟨rfl, rfl, lists, result, rfl, made, ?_⟩⟩
                have written := p.output_of_complaints 0 input.length warnings [Octets.bytes (result (Octets.ofBytes input))]
                rwa [List.flatten_singleton] at written

theorem fails_or_succeeds (p : Process) (input : Bytes) :
    let e := program p input
    e.files = p.files ∧ (e.code = 0 ∨ (e.code = 1 ∧ e.output = [] ∧ e.errors ≠ [])) := by
  have complained (message : Text) (more : Bytes) :
      let e := p.ending 1 [(.errors, p.complaint message ++ more)] 0
      e.output = [] ∧ e.errors ≠ [] := by
    simp [Process.ending, Ending.output, Ending.errors, Ending.written, p.complaint_ne_nil message]
  unfold program
  cases Job.options.split (p.arguments.map Octets.ofText) with
  | error fault => exact ⟨rfl, .inr ⟨rfl, complained fault.message p.advice⟩⟩
  | ok read =>
      obtain ⟨letters, operands⟩ := read
      dsimp only
      split
      · exact ⟨rfl, .inl rfl⟩
      · split
        · exact ⟨rfl, .inl rfl⟩
        · split
          · rename_i fault explanation _
            refine ⟨rfl, .inr ⟨rfl, ?_⟩⟩
            rw [List.append_assoc]
            exact complained fault _
          · obtain ⟨same, failed | ⟨done, _⟩⟩ := run_cases p input (letters.foldl Job.turn {}) operands
            · exact ⟨same, .inr failed⟩
            · exact ⟨same, .inl done⟩

theorem read_lists_cons (p : Process) (text : Text) (rest : List Text) (lists : List (List Element))
    (read : (readLists p (text :: rest)).2 = .ok lists) :
    ∃ list others, lists = list :: others ∧ (ofText text).2 = .ok list ∧ (readLists p rest).2 = .ok others := by
  unfold readLists at read
  generalize ofText text = parsed at read ⊢
  obtain ⟨warnings, first⟩ := parsed
  cases first with
  | error fault => cases read
  | ok list =>
      dsimp only at read
      generalize readLists p rest = more at read ⊢
      obtain ⟨lines, others⟩ := more
      cases others with
      | error fault => cases read
      | ok others =>
          cases read
          exact ⟨list, others, rfl, rfl, rfl⟩

section Output

variable (p : Process) (input : Bytes) (j : Job) (first second : Text)

theorem run_one (done : (run p input j [first]).code = 0) :
    ∃ source result, (ofText first).2 = .ok source ∧ transform j source none = .ok result ∧
      (run p input j [first]).output = Octets.bytes (result (Octets.ofBytes input)) := by
  obtain ⟨_, ⟨failed, _⟩ | ⟨_, _, lists, result, read, made, output⟩⟩ := run_cases p input j [first]
  · rw [failed] at done
    cases done
  · obtain ⟨source, others, rfl, isSource, none⟩ := read_lists_cons p first [] lists read
    cases none
    exact ⟨source, result, isSource, made, output⟩

theorem run_two (done : (run p input j [first, second]).code = 0) :
    ∃ source target result, (ofText first).2 = .ok source ∧ (ofText second).2 = .ok target ∧
      transform j source (some target) = .ok result ∧
      (run p input j [first, second]).output = Octets.bytes (result (Octets.ofBytes input)) := by
  obtain ⟨_, ⟨failed, _⟩ | ⟨_, _, lists, result, read, made, output⟩⟩ := run_cases p input j [first, second]
  · rw [failed] at done
    cases done
  · obtain ⟨source, others, rfl, isSource, more⟩ := read_lists_cons p first [second] lists read
    obtain ⟨target, others, rfl, isTarget, _⟩ := read_lists_cons p second [] others more
    exact ⟨source, target, result, isSource, isTarget, made, output⟩

theorem deleted_output (deletes : j.deletes = true) (done : (run p input j [first]).code = 0) :
    ∃ source, (ofText first).2 = .ok source ∧
      (run p input j [first]).output = input.filter fun b => !selected j source (Char.ofNat b.toNat) := by
  obtain ⟨source, result, isSource, made, output⟩ := run_one p input j first done
  refine ⟨source, isSource, ?_⟩
  rw [output, delete_filters j source result made deletes _ (is_octets_of_bytes input), Octets.ofBytes, List.filter_map]
  exact Octets.bytes_of_bytes _

theorem squeezed_output (deletes : j.deletes = false) (done : (run p input j [first]).code = 0) :
    ∃ source, (ofText first).2 = .ok source ∧ (run p input j [first]).output =
      Octets.bytes ((Octets.ofBytes input).destutter (Apart (selected j source))) := by
  obtain ⟨source, result, isSource, made, output⟩ := run_one p input j first done
  refine ⟨source, isSource, ?_⟩
  rw [output, squeeze_keeps_one j source result made deletes _ (is_octets_of_bytes input)]

theorem translated_output (octets : IsOctets first) (deletes : j.deletes = false) (squeezes : j.squeezes = false)
    (done : (run p input j [first, second]).code = 0) :
    ∃ source becomes, (ofText first).2 = .ok source ∧
      (∀ b, selected j source (Char.ofNat b.toNat) = false → becomes b = b) ∧
      (run p input j [first, second]).output = input.map becomes := by
  obtain ⟨source, target, result, isSource, isTarget, made, output⟩ := run_two p input j first second done
  obtain ⟨replaced, squeezed, stays, never, whole⟩ :=
    translate_maps j source target result made deletes (of_text_octets first octets source isSource)
  refine ⟨source, fun b => UInt8.ofNat (replaced (Char.ofNat b.toNat)).toNat, isSource, ?_, ?_⟩
  · intro b unselected
    have same : Octets.bytes (Octets.ofBytes [b]) = [b] := Octets.bytes_of_bytes [b]
    change UInt8.ofNat (replaced (Char.ofNat b.toNat)).toNat = b
    rw [stays _ unselected]
    exact List.head_eq_of_cons_eq same
  · rw [output, whole _ (is_octets_of_bytes input), never squeezes, squeeze_nothing, Octets.ofBytes, List.map_map,
      Octets.bytes, List.map_map]
    rfl

end Output

section Program

variable (p : Process) (input : Bytes) (letters : Text) (operands : List Text)
variable (read : Job.options.split (p.arguments.map Octets.ofText) = .ok (letters, operands))
variable (noHelp : letters.contains '?' = false) (noVersion : letters.contains '!' = false)

include read

theorem operands_octets (operand : Text) (member : operand ∈ operands) : IsOctets operand := by
  have isArgument := (OptionTable.split_sublist _ _ letters operands read).subset member
  obtain ⟨argument, _, rfl⟩ := List.mem_map.1 isArgument
  exact is_octets_of_bytes (Text.utf8 argument)

include noHelp noVersion

theorem program_eq_run (fits : (letters.foldl Job.turn {}).operandFault? operands = none) :
    program p input = run p input (letters.foldl Job.turn {}) operands := by
  rw [program, read]
  dsimp only
  rw [noHelp, noVersion, fits]
  rfl

theorem program_deletes (one : operands.length = 1) (deletes : (letters.foldl Job.turn {}).deletes = true)
    (single : (letters.foldl Job.turn {}).squeezes = false) (done : (program p input).code = 0) :
    ∃ first source, operands = [first] ∧ (ofText first).2 = .ok source ∧ (program p input).output =
      input.filter fun b => !selected (letters.foldl Job.turn {}) source (Char.ofNat b.toNat) := by
  obtain ⟨first, rfl⟩ := List.length_eq_one_iff.1 one
  have fits : (letters.foldl Job.turn {}).operandFault? [first] = none := by
    simp [Job.operandFault?, Job.minOperands, Job.maxOperands, deletes, single]
  rw [program_eq_run p input letters [first] read noHelp noVersion fits] at done ⊢
  obtain ⟨source, isSource, output⟩ := deleted_output p input _ first deletes done
  exact ⟨first, source, rfl, isSource, output⟩

theorem program_translates (two : operands.length = 2) (keeps : (letters.foldl Job.turn {}).deletes = false)
    (single : (letters.foldl Job.turn {}).squeezes = false) (done : (program p input).code = 0) :
    ∃ first second source becomes, operands = [first, second] ∧ (ofText first).2 = .ok source ∧
      (∀ b, selected (letters.foldl Job.turn {}) source (Char.ofNat b.toNat) = false → becomes b = b) ∧
      (program p input).output = input.map becomes := by
  obtain ⟨first, second, rfl⟩ := List.length_eq_two.1 two
  have fits : (letters.foldl Job.turn {}).operandFault? [first, second] = none := by
    simp [Job.operandFault?, Job.minOperands, Job.maxOperands, keeps, single]
  have octets := operands_octets p letters [first, second] read first List.mem_cons_self
  rw [program_eq_run p input letters [first, second] read noHelp noVersion fits] at done ⊢
  obtain ⟨source, becomes, isSource, stays, output⟩ :=
    translated_output p input _ first second octets keeps single done
  exact ⟨first, second, source, becomes, rfl, isSource, stays, output⟩

end Program

end CommandShell.Translate
