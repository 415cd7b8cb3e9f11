import CommandShell.Programs.PosixShell.Pattern
import Mathlib.Data.List.TakeWhile

set_option autoImplicit false

namespace CommandShell.PosixShell.Pattern

-- The items in a row stand for the text: a star for any part of it, every other item for one character.
inductive Matches : List Item → Text → Prop where
  | done : Matches [] []
  | one (i : Item) (c : Char) (items : List Item) (t : Text) (single : i.isStar = false) (accepted : i.accepts c = true)
      (rest : Matches items t) : Matches (i :: items) (c :: t)
  | star (front : Text) (items : List Item) (t : Text) (rest : Matches items t) : Matches (.star :: items) (front ++ t)

theorem matches_nil_iff (t : Text) : Matches [] t ↔ t = [] := by
  constructor
  · intro found
    cases found
    rfl
  · rintro rfl
    exact .done

theorem matches_star_iff (items : List Item) (t : Text) :
    Matches (.star :: items) t ↔ ∃ front rest, t = front ++ rest ∧ Matches items rest := by
  constructor
  · intro found
    cases found with
    | one _ _ _ _ single => cases single
    | star front _ t rest => exact ⟨front, t, rfl, rest⟩
  · rintro ⟨front, rest, rfl, found⟩
    exact .star front items rest found

theorem matches_one_iff (i : Item) (items : List Item) (t : Text) (single : i.isStar = false) :
    Matches (i :: items) t ↔ ∃ c rest, t = c :: rest ∧ i.accepts c = true ∧ Matches items rest := by
  constructor
  · intro found
    cases found with
    | one _ c _ t _ accepted rest => exact ⟨c, t, rfl, accepted, rest⟩
    | star => cases single
  · rintro ⟨c, rest, rfl, accepted, found⟩
    exact .one i c items rest single accepted found

theorem mem_tails_iff (rest t : Text) : rest ∈ tails t ↔ rest <:+ t := by
  induction t with
  | nil => simp [tails]
  | cons c t ih => rw [tails, List.mem_cons, ih, List.suffix_cons_iff]

-- Every text is a proper end of each one in front of it.
def Falling (found : List Text) : Prop := found.Pairwise fun a b => b <:+ a ∧ b.length < a.length

theorem falling_tails (t : Text) : Falling (tails t) := by
  induction t with
  | nil => exact List.pairwise_singleton _ _
  | cons c t ih =>
      refine List.pairwise_cons.2 ⟨?_, ih⟩
      intro rest member
      have ends := (mem_tails_iff rest t).1 member
      exact ⟨ends.trans (List.suffix_cons c t), Nat.lt_succ_of_le ends.length_le⟩

theorem advance_star (found : List Text) : advance found .star = (found.head?.map tails).getD [] := rfl

theorem advance_one (found : List Text) (i : Item) (single : i.isStar = false) :
    advance found i = found.filterMap fun text => match text with
      | c :: rest => if i.accepts c then some rest else none
      | [] => none := by
  rw [advance, single]
  rfl

-- Of a falling list the first text has all others as its ends, so a star need not look at these.
theorem mem_advance_star (found : List Text) (falling : Falling found) (rest : Text) :
    rest ∈ advance found .star ↔ ∃ t ∈ found, rest <:+ t := by
  rw [advance_star]
  cases found with
  | nil => simp
  | cons first others =>
      have below := (List.pairwise_cons.1 falling).1
      change rest ∈ tails first ↔ _
      rw [mem_tails_iff]
      constructor
      · intro ends
        exact ⟨first, List.mem_cons_self, ends⟩
      · rintro ⟨t, member, ends⟩
        rcases List.mem_cons.1 member with rfl | later
        · exact ends
        · exact ends.trans (below t later).1

theorem mem_advance_one (found : List Text) (i : Item) (single : i.isStar = false) (rest : Text) :
    rest ∈ advance found i ↔ ∃ c, i.accepts c = true ∧ c :: rest ∈ found := by
  rw [advance_one found i single, List.mem_filterMap]
  constructor
  · rintro ⟨t, member, taken⟩
    cases t with
    | nil => cases taken
    | cons c t =>
        by_cases accepted : i.accepts c = true
        · simp only [accepted] at taken
          cases taken
          exact ⟨c, accepted, member⟩
        · simp only [accepted] at taken
          cases taken
  · rintro ⟨c, accepted, member⟩
    exact ⟨c :: rest, member, by simp [accepted]⟩

theorem falling_advance (found : List Text) (falling : Falling found) (i : Item) : Falling (advance found i) := by
  by_cases single : i.isStar = false
  · rw [advance_one found i single]
    refine List.Pairwise.filterMap _ ?_ falling
    intro a b ⟨ends, shorter⟩ a' taken b' taken'
    cases a with
    | nil => cases taken
    | cons c a =>
        cases b with
        | nil => cases taken'
        | cons d b =>
            simp only [Option.ite_none_right_eq_some, Option.some.injEq] at taken taken'
            obtain ⟨_, rfl⟩ := taken
            obtain ⟨_, rfl⟩ := taken'
            have less : b.length < a.length := Nat.lt_of_succ_lt_succ shorter
            have within : b <:+ c :: a := (List.suffix_cons d b).trans ends
            exact ⟨List.suffix_of_suffix_length_le within (List.suffix_cons c a) (Nat.le_of_lt less), less⟩
  · cases i with
    | star =>
        rw [advance_star]
        cases found with
        | nil => exact List.Pairwise.nil
        | cons first others => exact falling_tails first
    | _ => exact absurd rfl single

theorem falling_rests (items : List Item) (found : List Text) (falling : Falling found) :
    Falling (items.foldl advance found) := by
  induction items generalizing found with
  | nil => exact falling
  | cons i items ih => exact ih (advance found i) (falling_advance found falling i)

theorem mem_fold_iff (items : List Item) (found : List Text) (falling : Falling found) (rest : Text) :
    rest ∈ items.foldl advance found ↔ ∃ front, front ++ rest ∈ found ∧ Matches items front := by
  induction items generalizing found with
  | nil =>
      constructor
      · intro member
        exact ⟨[], member, .done⟩
      · rintro ⟨front, member, whole⟩
        rw [matches_nil_iff] at whole
        rwa [whole] at member
  | cons i items ih =>
      rw [List.foldl_cons, ih (advance found i) (falling_advance found falling i)]
      by_cases single : i.isStar = false
      · constructor
        · rintro ⟨front, member, others⟩
          obtain ⟨c, accepted, taken⟩ := (mem_advance_one found i single _).1 member
          exact ⟨c :: front, taken, .one i c items front single accepted others⟩
        · rintro ⟨front, member, whole⟩
          obtain ⟨c, front, rfl, accepted, others⟩ := (matches_one_iff i items front single).1 whole
          exact ⟨front, (mem_advance_one found i single _).2 ⟨c, accepted, member⟩, others⟩
      · obtain rfl : i = .star := by
          cases i with
          | star => rfl
          | _ => exact absurd rfl single
        constructor
        · rintro ⟨front, member, others⟩
          obtain ⟨t, isFound, before, rfl⟩ := (mem_advance_star found falling _).1 member
          exact ⟨before ++ front, by rwa [List.append_assoc], .star before items front others⟩
        · rintro ⟨front, member, whole⟩
          obtain ⟨before, after, rfl, others⟩ := (matches_star_iff items front).1 whole
          refine ⟨after, (mem_advance_star found falling _).2 ⟨_, member, before, ?_⟩, others⟩
          rw [List.append_assoc]

theorem mem_rests_iff (items : List Item) (text rest : Text) :
    rest ∈ rests items text ↔ ∃ front, text = front ++ rest ∧ Matches items front := by
  rw [rests, mem_fold_iff items [text] (List.pairwise_singleton _ _)]
  constructor
  · rintro ⟨front, member, found⟩
    exact ⟨front, (List.mem_singleton.1 member).symm, found⟩
  · rintro ⟨front, rfl, found⟩
    exact ⟨front, List.mem_singleton_self _, found⟩

theorem is_match_iff (items : List Item) (text : Text) : isMatch items text = true ↔ Matches items text := by
  rw [isMatch, List.contains_iff_mem, mem_rests_iff]
  constructor
  · rintro ⟨front, whole, found⟩
    rwa [whole, List.append_nil]
  · intro found
    exact ⟨text, (List.append_nil text).symm, found⟩

-- Of two parts that match, the one that is taken away.
def Preferred (longest : Bool) (part other : Text) : Prop :=
  if longest then other.length ≤ part.length else part.length ≤ other.length

theorem first_part_plain (text : Text) (plain : parameterEnd ∉ text) : firstPart text = text := by
  rw [firstPart, List.takeWhile_eq_self_iff]
  intro c member
  have different : c ≠ parameterEnd := fun same => plain (same ▸ member)
  simpa using different

theorem head_longest (found : List Text) (falling : Falling found) (first : Text) (isFirst : found.head? = some first)
    (t : Text) (member : t ∈ found) : t.length ≤ first.length := by
  cases found with
  | nil => cases isFirst
  | cons head others =>
      cases isFirst
      rcases List.mem_cons.1 member with rfl | later
      · exact Nat.le_refl _
      · exact Nat.le_of_lt ((List.pairwise_cons.1 falling).1 t later).2

theorem last_shortest (found : List Text) (falling : Falling found) (last : Text) (isLast : found.getLast? = some last)
    (t : Text) (member : t ∈ found) : last.length ≤ t.length := by
  obtain ⟨front, rfl⟩ := List.getLast?_eq_some_iff.1 isLast
  rcases List.mem_append.1 member with before | same
  · exact Nat.le_of_lt ((List.pairwise_append.1 falling).2.2 t before last (List.mem_singleton_self last)).2
  · obtain rfl := List.mem_singleton.1 same
    exact Nat.le_refl _

theorem found_before (order : Nat → Nat → Prop) (fits : Nat → Bool) (places : List Nat) (sorted : places.Pairwise order)
    (n : Nat) (found : places.find? fits = some n) (m : Nat) (member : m ∈ places) (other : fits m = true) :
    m = n ∨ order n m := by
  obtain ⟨_, before, after, rfl, fails⟩ := List.find?_eq_some_iff_append.1 found
  rcases List.mem_append.1 member with early | late
  · have fail := fails m early
    rw [other] at fail
    cases fail
  · rcases List.mem_cons.1 late with same | later
    · exact .inl same
    · exact .inr ((List.pairwise_cons.1 (List.pairwise_append.1 sorted).2.1).1 m later)

section Trim

variable (items : List Item) (longest : Bool) (text : Text) (plain : parameterEnd ∉ text)

include plain

theorem trim_start_plain : trimStart items longest text =
    (if longest then (rests items text).getLast? else (rests items text).head?).getD text := by
  have falling := falling_rests items [text] (List.pairwise_singleton _ _)
  rw [trimStart, first_part_plain text plain]
  by_cases whole : (longest && (rests items text).contains []) = true
  · rw [if_pos whole]
    simp only [Bool.and_eq_true, List.contains_iff_mem] at whole
    obtain ⟨rfl, member⟩ := whole
    cases isLast : (rests items text).getLast? with
    | none =>
        rw [List.getLast?_eq_none_iff.1 isLast] at member
        cases member
    | some last =>
        have short := last_shortest (rests items text) falling last isLast [] member
        rw [if_pos rfl, Option.getD_some, List.eq_nil_of_length_eq_zero (Nat.le_zero.1 short)]
  · simp only [if_neg whole, List.drop_length, List.append_nil]
    cases (if longest = true then (rests items text).getLast? else (rests items text).head?) <;> rfl

theorem trim_start_preferred :
    ((∀ front, front <+: text → ¬ Matches items front) ∧ trimStart items longest text = text) ∨
      ∃ front, text = front ++ trimStart items longest text ∧ Matches items front ∧
        ∀ other, other <+: text → Matches items other → Preferred longest front other := by
  have falling := falling_rests items [text] (List.pairwise_singleton _ _)
  have found (front : Text) (start : front <+: text) (whole : Matches items front) :
      ∃ rest ∈ rests items text, text.length = front.length + rest.length := by
    obtain ⟨rest, rfl⟩ := start
    exact ⟨rest, (mem_rests_iff items _ rest).2 ⟨front, rfl, whole⟩, List.length_append⟩
  rw [trim_start_plain items longest text plain]
  cases taken : (if longest = true then (rests items text).getLast? else (rests items text).head?) with
  | none =>
      have nothing : rests items text = [] := by
        cases longest with
        | true => exact List.getLast?_eq_none_iff.1 taken
        | false => exact List.head?_eq_none_iff.1 taken
      refine .inl ⟨fun front start whole => ?_, rfl⟩
      obtain ⟨rest, member, _⟩ := found front start whole
      rw [nothing] at member
      cases member
  | some rest =>
      have member : rest ∈ rests items text := by
        cases longest with
        | true => exact List.mem_of_getLast? taken
        | false => exact List.mem_of_head? taken
      obtain ⟨front, split, whole⟩ := (mem_rests_iff items text rest).1 member
      refine .inr ⟨front, split, whole, fun other start same => ?_⟩
      obtain ⟨left, isLeft, length⟩ := found other start same
      have size : text.length = front.length + rest.length := by rw [split, List.length_append]
      cases longest with
      | true =>
          have short := last_shortest _ falling rest taken left isLeft
          change other.length ≤ front.length
          omega
      | false =>
          have long := head_longest _ falling rest taken left isLeft
          change front.length ≤ other.length
          omega

theorem fits_iff (n : Nat) : isMatch items (firstPart (text.drop n)) = true ↔ Matches items (text.drop n) := by
  have rest : parameterEnd ∉ text.drop n := fun member => plain (List.mem_of_mem_drop member)
  rw [first_part_plain _ rest, is_match_iff]

theorem trim_end_preferred :
    ((∀ back, back <:+ text → ¬ Matches items back) ∧ trimEnd items longest text = text) ∨
      ∃ back, text = trimEnd items longest text ++ back ∧ Matches items back ∧
        ∀ other, other <:+ text → Matches items other → Preferred longest back other := by
  have start (back : Text) (ends : back <:+ text) :
      ∃ n, n < text.length + 1 ∧ text.drop n = back ∧ back.length = text.length - n := by
    obtain ⟨front, rfl⟩ := ends
    refine ⟨front.length, ?_, List.drop_left, ?_⟩ <;> rw [List.length_append] <;> omega
  rw [trimEnd, first_part_plain text plain]
  cases found : (if longest = true then List.range (text.length + 1) else (List.range (text.length + 1)).reverse).find?
      fun n => isMatch items (firstPart (text.drop n)) with
  | none =>
      refine .inl ⟨fun back ends whole => ?_, rfl⟩
      obtain ⟨n, bound, rest, _⟩ := start back ends
      have fails := List.find?_eq_none.1 found n (by cases longest <;> simpa using bound)
      exact fails ((fits_iff items text plain n).2 (rest.symm ▸ whole))
  | some n =>
      have whole := (fits_iff items text plain n).1 (List.find?_eq_some_iff_append.1 found).1
      refine .inr ⟨text.drop n, (List.take_append_drop n text).symm, whole, fun other ends same => ?_⟩
      obtain ⟨m, bound, rest, length⟩ := start other ends
      have size := List.length_drop (i := n) (l := text)
      have fits := (fits_iff items text plain m).2 (rest.symm ▸ same)
      cases longest with
      | true =>
          have first := found_before _ _ _ List.pairwise_lt_range n found m (List.mem_range.2 bound) fits
          change other.length ≤ (text.drop n).length
          omega
      | false =>
          have last := found_before _ _ _ (List.pairwise_reverse.2 List.pairwise_lt_range) n found m
            (List.mem_reverse.2 (List.mem_range.2 bound)) fits
          change (text.drop n).length ≤ other.length
          omega

end Trim

end CommandShell.PosixShell.Pattern
