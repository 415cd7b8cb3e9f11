import CommandShell.Programs.CharacterList
import CommandShell.Proofs.Syntax.Scanning
import Mathlib.Algebra.Group.Nat.Defs
import Mathlib.Data.List.Induction
import Mathlib.Data.List.TakeDrop
import Mathlib.Data.List.TakeWhile

set_option autoImplicit false

namespace CommandShell.Translate

def IsOctets (text : Text) : Prop := ∀ c ∈ text, c.toNat < 256

theorem char_of_small (n : Nat) (small : n < 256) : (Char.ofNat n).toNat = n := by
  have valid : n.isValidChar := .inl (by omega)
  rw [Char.ofNat, dif_pos valid]
  rfl

theorem is_octets_of_bytes (data : Bytes) : IsOctets (Octets.ofBytes data) := by
  intro c member
  obtain ⟨b, _, rfl⟩ := List.mem_map.1 member
  rw [char_of_small b.toNat b.toNat_lt]
  exact b.toNat_lt

theorem octal_value_append (digits : Text) (c : Char) :
    octalValue (digits ++ [c]) = octalValue digits * 8 + (c.toNat - '0'.toNat) := by
  simp [octalValue]

theorem octal_value_lt (digits : Text) (octal : ∀ c ∈ digits, isOctal c = true) :
    octalValue digits < 8 ^ digits.length := by
  induction digits using List.reverseRecOn with
  | nil => decide
  | append_singleton front c ih =>
      have before := ih fun d member => octal d (List.mem_append_left _ member)
      have digit := octal c (List.mem_append_right _ (List.mem_singleton_self c))
      simp only [isOctal, Bool.and_eq_true, decide_eq_true_eq, Char.le_def, UInt32.le_iff_toNat_le] at digit
      have upper : c.toNat ≤ '7'.toNat := digit.2
      have seven : '7'.toNat = '0'.toNat + 7 := rfl
      rw [octal_value_append, List.length_append, List.length_singleton, Nat.pow_succ]
      omega

def AreOctets (written : List Written) : Prop := ∀ w ∈ written, w.1.toNat < 256

theorem are_octets_cons (w : Written) (written : List Written) (small : w.1.toNat < 256) (others : AreOctets written) :
    AreOctets (w :: written) := List.forall_mem_cons.2 ⟨small, others⟩

theorem escape_octets (c : Char) (small : c.toNat < 256) :
    ((("abfnrtv".toList.zip ['\x07', '\x08', '\x0c', '\n', '\r', '\t', '\x0b']).lookup c).getD c).toNat < 256 := by
  cases known : ("abfnrtv".toList.zip ['\x07', '\x08', '\x0c', '\n', '\r', '\t', '\x0b']).lookup c with
  | none => exact small
  | some d =>
      obtain ⟨_, _, split, _⟩ := List.lookup_eq_some_iff.1 known
      have all : ∀ pair ∈ "abfnrtv".toList.zip ['\x07', '\x08', '\x0c', '\n', '\r', '\t', '\x0b'], pair.2.toNat < 256 := by
        decide
      exact all (c, d) (split ▸ List.mem_append_right _ List.mem_cons_self)

-- Three digits that are too much are read as two and one.
theorem octal_escape_octets (digits : Text) (octal : ∀ c ∈ digits, isOctal c = true) :
    octalValue (if 255 < octalValue digits then digits.take 2 else digits) < 256 := by
  by_cases ambiguous : 255 < octalValue digits
  · have two := octal_value_lt (digits.take 2) fun c member => octal c (List.mem_of_mem_take member)
    have short : (digits.take 2).length ≤ 2 := List.length_take_le 2 digits
    have bound : 8 ^ (digits.take 2).length ≤ 8 ^ 2 := Nat.pow_le_pow_right (by decide) short
    rw [if_pos ambiguous]
    omega
  · rw [if_neg ambiguous]
    omega

theorem unescape_octets (length : Nat) (text : Text) (octets : IsOctets text) :
    AreOctets (unescape length text).1 := by
  fun_induction unescape length text with
  | case1 => exact List.forall_mem_nil _
  | case2 => exact List.forall_mem_nil _
  | case3 => exact are_octets_cons _ _ (by decide) (List.forall_mem_nil _)
  | case4 length c rest isDigit digits isAmbiguous used others warnings next ih =>
      rw [next] at ih
      have small := octal_escape_octets digits fun d member => List.mem_takeWhile_imp member
      refine are_octets_cons _ _ ?_ (ih fun d member => octets d (List.mem_cons_of_mem _ (List.mem_of_mem_drop member)))
      change (Char.ofNat _).toNat < 256
      rw [char_of_small _ small]
      exact small
  | case5 length c rest notDigit others warnings next letters ih =>
      rw [next] at ih
      have first := octets c (List.mem_cons_of_mem _ List.mem_cons_self)
      refine are_octets_cons _ _ (escape_octets c first) (ih fun d member => octets d ?_)
      exact List.mem_cons_of_mem _ (List.mem_cons_of_mem _ member)
  | case6 length c rest _ _ others warnings next ih =>
      rw [next] at ih
      have first := octets c List.mem_cons_self
      exact are_octets_cons _ _ first (ih fun d member => octets d (List.mem_cons_of_mem _ member))

def Element.InOctets : Element → Prop
  | range _ last => last.toNat < 256
  | _ => True

theorem up_to_suffix (mark : Char) (text : List Written) (name : Text) (after : List Written)
    (found : upTo mark text = some (name, after)) : after <:+ text := by
  induction text generalizing name after with
  | nil => cases found
  | cons w rest ih =>
      obtain ⟨c, isEscaped⟩ := w
      rw [upTo] at found
      by_cases ends : (decide (c = mark) && !isEscaped && startsWith ']' rest) = true
      · rw [if_pos ends] at found
        cases found
        exact (List.tail_suffix rest).trans (List.suffix_cons _ rest)
      · rw [if_neg ends] at found
        obtain ⟨⟨before, later⟩, more, same⟩ := Option.map_eq_some_iff.1 found
        cases same
        exact (ih before after more).trans (List.suffix_cons _ rest)

-- What a bracket is read as: an element that is no range, and the text behind it.
def Bracketed (text : List Written) (result : Except Fault (Option (Element × List Written))) : Prop :=
  ∀ e after, result = .ok (some (e, after)) → e.InOctets ∧ after <:+ text

theorem take_named_bracketed (mark : Char) (text : List Written) : Bracketed text (takeNamed mark text) := by
  intro e after taken
  unfold takeNamed at taken
  cases found : upTo mark text with
  | none =>
      rw [found] at taken
      cases taken
  | some pair =>
      obtain ⟨name, rest⟩ := pair
      have ends := up_to_suffix mark text name rest found
      simp only [found] at taken
      by_cases isClass : mark = ':'
      · rw [if_pos isClass] at taken
        by_cases empty : name.isEmpty = true
        · rw [if_pos empty] at taken
          cases taken
        · rw [if_neg empty] at taken
          cases known : CharClass.table.lookup name with
          | some k =>
              rw [known] at taken
              cases taken
              exact ⟨trivial, ends⟩
          | none =>
              rw [known] at taken
              dsimp only at taken
              split at taken <;> cases taken
      · rw [if_neg isClass] at taken
        match name with
        | [] => cases taken
        | [c] =>
            cases taken
            exact ⟨trivial, ends⟩
        | _ :: _ :: _ =>
            dsimp only at taken
            split at taken <;> cases taken

theorem take_repeat_bracketed (text : List Written) : Bracketed text (takeRepeat text) := by
  intro e after taken
  unfold takeRepeat at taken
  split at taken
  · rename_i c mark star rest
    rw [List.span_eq_takeWhile_dropWhile] at taken
    dsimp only at taken
    split at taken
    · obtain ⟨count, _, made⟩ := (except_bind_ok_iff _ _ _).1 taken
      cases made
      refine ⟨trivial, ((List.tail_suffix _).trans (List.dropWhile_suffix _)).trans ?_⟩
      exact (List.suffix_cons star rest).trans (List.suffix_cons _ _)
    · cases taken
  · cases taken

theorem Bracketed.within (inner text : List Written) (result : Except Fault (Option (Element × List Written)))
    (bracketed : Bracketed inner result) (ends : inner <:+ text) : Bracketed text result := by
  intro e after taken
  obtain ⟨octets, within⟩ := bracketed e after taken
  exact ⟨octets, within.trans ends⟩

theorem bracketed_else (text : List Written) (first second : Except Fault (Option (Element × List Written)))
    (named : Bracketed text first) (repeated : Bracketed text second) :
    Bracketed text (first >>= fun named => match named with
      | some found => pure (some found)
      | none => second) := by
  intro e after taken
  obtain ⟨found, isFirst, next⟩ := (except_bind_ok_iff _ _ _).1 taken
  cases found with
  | some pair =>
      cases next
      exact named e after isFirst
  | none => exact repeated e after next

theorem take_bracket_bracketed (text : List Written) : Bracketed text (takeBracket text) := by
  have inside := List.tail_suffix text
  have further : text.tail.tail <:+ text := (List.tail_suffix text.tail).trans inside
  have repeated := (take_repeat_bracketed text.tail).within text.tail text _ inside
  have named (mark : Char) := bracketed_else text _ _
    ((take_named_bracketed mark text.tail.tail).within text.tail.tail text _ further) repeated
  have nothing : Bracketed text (.ok none) := fun e after taken => by cases taken
  simp only [takeBracket]
  cases startsWith '[' text with
  | false => exact nothing
  | true =>
      cases startsWith ':' text.tail with
      | true => exact named ':'
      | false =>
          cases startsWith '=' text.tail with
          | true => exact named '='
          | false => exact repeated

theorem elements_octets (length : Nat) (written : List Written) (octets : AreOctets written) (list : List Element)
    (read : elements length written = .ok list) : ∀ e ∈ list, e.InOctets := by
  induction length generalizing written list with
  | zero =>
      cases read
      exact List.forall_mem_nil _
  | succ length ih =>
      cases written with
      | nil =>
          cases read
          exact List.forall_mem_nil _
      | cons w rest =>
          obtain ⟨c, isEscaped⟩ := w
          have others : AreOctets rest := (List.forall_mem_cons.1 octets).2
          have grow (e : Element) (after : List Written) (small : e.InOctets) (within : AreOctets after)
              (more : (elements length after >>= fun others => pure (e :: others)) = .ok list) : ∀ e ∈ list, e.InOctets := by
            obtain ⟨others, later, made⟩ := (except_bind_ok_iff _ _ _).1 more
            cases made
            exact List.forall_mem_cons.2 ⟨small, ih after within others later⟩
          unfold elements at read
          by_cases last : rest.length < 2
          · rw [if_pos last] at read
            exact grow (.char c) rest trivial others read
          · rw [if_neg last] at read
            obtain ⟨bracket, taken, next⟩ := (except_bind_ok_iff _ _ _).1 read
            cases bracket with
            | some pair =>
                obtain ⟨e, after⟩ := pair
                obtain ⟨small, ends⟩ := take_bracket_bracketed _ e after taken
                exact grow e after small (fun w member => octets w (ends.subset member)) next
            | none =>
                dsimp only at next
                split at next
                · rename_i bound _ after
                  have behind : AreOctets after := fun w member =>
                    others w (List.mem_cons_of_mem _ (List.mem_cons_of_mem _ member))
                  have small : bound.toNat < 256 := others _ (List.mem_cons_of_mem _ List.mem_cons_self)
                  split at next
                  · cases next
                  · exact grow (.range c bound) after small behind next
                · exact grow (.char c) rest trivial others next

theorem of_text_octets (text : Text) (octets : IsOctets text) (list : List Element) (read : (ofText text).2 = .ok list) :
    ∀ e ∈ list, e.InOctets :=
  elements_octets _ _ (unescape_octets text.length text octets) list read

end CommandShell.Translate
