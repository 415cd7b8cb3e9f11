import CommandShell.Text.Utf8

set_option autoImplicit false

namespace CommandShell

namespace Utf8

theorem in_range_iff (low high b : UInt8) :
    (decide (low ≤ b) && decide (b ≤ high)) = true ↔ low.toNat ≤ b.toNat ∧ b.toNat ≤ high.toNat := by
  simp [UInt8.le_iff_toNat_le]

theorem above_range (low high b : UInt8) (above : high.toNat < b.toNat) :
    ¬ (decide (low ≤ b) && decide (b ≤ high)) = true := fun inside =>
  absurd ((in_range_iff low high b).1 inside).2 (Nat.not_le.2 above)

theorem not_ascii (a : UInt8) (above : 0x80 ≤ a.toNat) : ¬ a < 0x80 := by
  rw [UInt8.lt_iff_toNat_lt]
  exact Nat.not_lt.2 above

theorem is_continuation_iff (b : UInt8) : isContinuation b = true ↔ 0x80 ≤ b.toNat ∧ b.toNat ≤ 0xBF :=
  in_range_iff 0x80 0xBF b

theorem is_second_of_three (lead b : UInt8) (after : 0x80 ≤ b.toNat ∧ b.toNat ≤ 0xBF)
    (notShorter : lead.toNat = 0xE0 → 0xA0 ≤ b.toNat) (noSurrogate : lead.toNat = 0xED → b.toNat ≤ 0x9F) :
    isSecondOfThree lead b = true := by
  rw [isSecondOfThree]
  by_cases first : lead = 0xE0
  · have above := notShorter (congrArg UInt8.toNat first)
    simpa [first, UInt8.le_iff_toNat_le] using ⟨above, after.2⟩
  · by_cases last : lead = 0xED
    · have below := noSurrogate (congrArg UInt8.toNat last)
      simpa [last, UInt8.le_iff_toNat_le] using ⟨after.1, below⟩
    · simpa [first, last] using (is_continuation_iff b).2 after

theorem is_second_of_four (lead b : UInt8) (after : 0x80 ≤ b.toNat ∧ b.toNat ≤ 0xBF)
    (notShorter : lead.toNat = 0xF0 → 0x90 ≤ b.toNat) (inRange : lead.toNat = 0xF4 → b.toNat ≤ 0x8F) :
    isSecondOfFour lead b = true := by
  rw [isSecondOfFour]
  by_cases first : lead = 0xF0
  · have above := notShorter (congrArg UInt8.toNat first)
    simpa [first, UInt8.le_iff_toNat_le] using ⟨above, after.2⟩
  · by_cases last : lead = 0xF4
    · have below := inRange (congrArg UInt8.toNat last)
      simpa [last, UInt8.le_iff_toNat_le] using ⟨after.1, below⟩
    · simpa [first, last] using (is_continuation_iff b).2 after

theorem unit_one (a : UInt8) (rest : Bytes) (lead : a.toNat ≤ 0x7F) :
    unit a rest = (some (Char.ofNat a.toNat), 0) := by
  have below : a < 0x80 := UInt8.lt_iff_toNat_lt.2 (Nat.lt_succ_of_le lead)
  rw [unit.eq_def, if_pos below]

theorem unit_two (a b : UInt8) (rest : Bytes) (lead : 0xC2 ≤ a.toNat ∧ a.toNat ≤ 0xDF)
    (second : isContinuation b = true) : unit a (b :: rest) = (some (two a b), 1) := by
  rw [unit, if_neg (not_ascii a (by omega)), if_pos ((in_range_iff 0xC2 0xDF a).2 lead), if_pos second]

theorem unit_three (a b c : UInt8) (rest : Bytes) (lead : 0xE0 ≤ a.toNat ∧ a.toNat ≤ 0xEF)
    (second : isSecondOfThree a b = true) (third : isContinuation c = true) :
    unit a (b :: c :: rest) = (some (three a b c), 2) := by
  have notTwo := above_range 0xC2 0xDF a (Nat.lt_of_lt_of_le (by decide) lead.1)
  rw [unit, if_neg (not_ascii a (by omega)), if_neg notTwo, if_pos ((in_range_iff 0xE0 0xEF a).2 lead)]
  simp [second, third]

theorem unit_four (a b c d : UInt8) (rest : Bytes) (lead : 0xF0 ≤ a.toNat ∧ a.toNat ≤ 0xF4)
    (second : isSecondOfFour a b = true) (third : isContinuation c = true) (fourth : isContinuation d = true) :
    unit a (b :: c :: d :: rest) = (some (four a b c d), 3) := by
  have notTwo := above_range 0xC2 0xDF a (Nat.lt_of_lt_of_le (by decide) lead.1)
  have notThree := above_range 0xE0 0xEF a (Nat.lt_of_lt_of_le (by decide) lead.1)
  rw [unit, if_neg (not_ascii a (by omega)), if_neg notTwo, if_neg notThree, if_pos ((in_range_iff 0xF0 0xF4 a).2 lead)]
  simp [second, third, fourth]

theorem byte_of_small (n : Nat) (small : n < 256) : (UInt8.ofNat n).toNat = n := by
  simp [Nat.mod_eq_of_lt small]

theorem tail_byte (n : Nat) : (UInt8.ofNat (n % 0x40 + 0x80)).toNat = n % 0x40 + 0x80 := byte_of_small _ (by omega)

theorem tail_range (n : Nat) :
    0x80 ≤ (UInt8.ofNat (n % 0x40 + 0x80)).toNat ∧ (UInt8.ofNat (n % 0x40 + 0x80)).toNat ≤ 0xBF := by
  rw [tail_byte]
  omega

theorem tail_is_continuation (n : Nat) : isContinuation (UInt8.ofNat (n % 0x40 + 0x80)) = true :=
  (is_continuation_iff _).2 (tail_range n)

theorem tail_low (n : Nat) : low (UInt8.ofNat (n % 0x40 + 0x80)) = n % 0x40 := by
  rw [low, tail_byte]
  omega

theorem unit_two_encoded (n : Nat) (rest : Bytes) (above : 0x7F < n) (upTo : n ≤ 0x7FF) :
    unit (UInt8.ofNat (n / 64 % 0x20 + 0xc0)) (UInt8.ofNat (n % 0x40 + 0x80) :: rest) = (some (Char.ofNat n), 1) := by
  have lead := byte_of_small (n / 64 % 0x20 + 0xc0) (by omega)
  have value : two (UInt8.ofNat (n / 64 % 0x20 + 0xc0)) (UInt8.ofNat (n % 0x40 + 0x80)) = Char.ofNat n := by
    rw [two, lead, tail_low]
    congr 1
    omega
  rw [unit_two _ _ _ (by omega) (tail_is_continuation _), value]

theorem unit_three_encoded (n : Nat) (rest : Bytes) (above : 0x7FF < n) (upTo : n ≤ 0xFFFF)
    (valid : n < 0xD800 ∨ 0xDFFF < n) :
    unit (UInt8.ofNat (n / 4096 % 0x10 + 0xe0))
        (UInt8.ofNat (n / 64 % 0x40 + 0x80) :: UInt8.ofNat (n % 0x40 + 0x80) :: rest) = (some (Char.ofNat n), 2) := by
  have lead := byte_of_small (n / 4096 % 0x10 + 0xe0) (by omega)
  have second := tail_byte (n / 64)
  have value : three (UInt8.ofNat (n / 4096 % 0x10 + 0xe0)) (UInt8.ofNat (n / 64 % 0x40 + 0x80))
      (UInt8.ofNat (n % 0x40 + 0x80)) = Char.ofNat n := by
    rw [three, lead, tail_low, tail_low]
    congr 1
    omega
  have follows := is_second_of_three (UInt8.ofNat (n / 4096 % 0x10 + 0xe0)) _ (tail_range (n / 64)) (by omega) (by omega)
  rw [unit_three _ _ _ _ (by omega) follows (tail_is_continuation _), value]

theorem unit_four_encoded (n : Nat) (rest : Bytes) (above : 0xFFFF < n) (below : n < 0x110000) :
    unit (UInt8.ofNat (n / 262144 % 0x08 + 0xf0))
        (UInt8.ofNat (n / 4096 % 0x40 + 0x80) :: UInt8.ofNat (n / 64 % 0x40 + 0x80) :: UInt8.ofNat (n % 0x40 + 0x80) ::
          rest) = (some (Char.ofNat n), 3) := by
  have lead := byte_of_small (n / 262144 % 0x08 + 0xf0) (by omega)
  have second := tail_byte (n / 4096)
  have value : four (UInt8.ofNat (n / 262144 % 0x08 + 0xf0)) (UInt8.ofNat (n / 4096 % 0x40 + 0x80))
      (UInt8.ofNat (n / 64 % 0x40 + 0x80)) (UInt8.ofNat (n % 0x40 + 0x80)) = Char.ofNat n := by
    rw [four, lead, tail_low, tail_low, tail_low]
    congr 1
    omega
  have follows := is_second_of_four (UInt8.ofNat (n / 262144 % 0x08 + 0xf0)) _ (tail_range (n / 4096)) (by omega) (by omega)
  rw [unit_four _ _ _ _ _ (by omega) follows (tail_is_continuation _) (tail_is_continuation _), value]

-- A character's bytes: the first one leads a unit that is the character, and the others belong to it.
theorem unit_encoded (c : Char) (rest : Bytes) :
    ∃ lead tail, String.utf8EncodeChar c = lead :: tail ∧ unit lead (tail ++ rest) = (some c, tail.length) := by
  have valid : c.val.toNat < 0xD800 ∨ 0xDFFF < c.val.toNat ∧ c.val.toNat < 0x110000 := c.valid
  have same : Char.ofNat c.val.toNat = c := Char.ofNat_toNat c
  rw [String.utf8EncodeChar]
  by_cases oneByte : c.val.toNat ≤ 0x7F
  · have lead := byte_of_small c.val.toNat (by omega)
    refine ⟨_, [], if_pos oneByte, ?_⟩
    rw [unit_one _ _ (by omega), lead, same]
    rfl
  · rw [if_neg oneByte]
    by_cases twoBytes : c.val.toNat ≤ 0x7FF
    · have decoded := unit_two_encoded c.val.toNat rest (by omega) twoBytes
      exact ⟨_, [_], if_pos twoBytes, by rw [same] at decoded; exact decoded⟩
    · rw [if_neg twoBytes]
      by_cases threeBytes : c.val.toNat ≤ 0xFFFF
      · have decoded := unit_three_encoded c.val.toNat rest (by omega) threeBytes (by omega)
        exact ⟨_, [_, _], if_pos threeBytes, by rw [same] at decoded; exact decoded⟩
      · have decoded := unit_four_encoded c.val.toNat rest (by omega) (by omega)
        exact ⟨_, [_, _, _], if_neg threeBytes, by rw [same] at decoded; exact decoded⟩

theorem units_from_skip (skipped rest : Bytes) : unitsFrom skipped.length (skipped ++ rest) = unitsFrom 0 rest := by
  induction skipped with
  | nil => rfl
  | cons a more ih => simpa [unitsFrom] using ih

theorem units_utf8_append (t : Text) (rest : Bytes) : units (Text.utf8 t ++ rest) = t.map some ++ units rest := by
  induction t with
  | nil => rfl
  | cons c more ih =>
      obtain ⟨lead, tail, encoded, decoded⟩ := unit_encoded c (Text.utf8 more ++ rest)
      have bytes : Text.utf8 (c :: more) ++ rest = lead :: (tail ++ (Text.utf8 more ++ rest)) := by
        rw [Text.utf8, List.flatMap_cons, encoded]
        simp [Text.utf8]
      rw [units, bytes, unitsFrom, decoded, units_from_skip]
      exact congrArg _ ih

theorem units_utf8 (t : Text) : units (Text.utf8 t) = t.map some := by
  have whole := units_utf8_append t []
  rw [List.append_nil] at whole
  simpa [units, unitsFrom] using whole

end Utf8

theorem Text.utf8_eq_nil_iff (t : Text) : Text.utf8 t = [] ↔ t = [] := by
  cases t with
  | nil => simp [Text.utf8]
  | cons c rest =>
      obtain ⟨lead, tail, encoded, _⟩ := Utf8.unit_encoded c []
      simp [Text.utf8, encoded]

theorem Text.length_utf8 (t : Text) : (Text.utf8 t).length = Text.byteLength t := by
  induction t with
  | nil => rfl
  | cons c rest ih =>
      rw [Text.utf8, List.flatMap_cons, List.length_append, String.length_utf8EncodeChar]
      exact congrArg _ ih

theorem Text.starts_of_utf8 (t u : Text) (rest : Bytes) (same : Text.utf8 u = Text.utf8 t ++ rest) :
    ∃ more, u = t ++ more := by
  have units := Utf8.units_utf8 u
  rw [same, Utf8.units_utf8_append] at units
  obtain ⟨front, more, rfl, frontSame, _⟩ := List.map_eq_append_iff.1 units.symm
  obtain rfl : front = t := (List.map_inj_right fun _ _ => Option.some.inj).1 frontSame
  exact ⟨more, rfl⟩

theorem Bytes.lossy_utf8 (t : Text) : Bytes.lossyText (Text.utf8 t) = t := by
  rw [Bytes.lossyText, Utf8.units_utf8]
  simp [Function.comp_def]

theorem Bytes.text_utf8 (t : Text) : Bytes.text? (Text.utf8 t) = some t := by
  rw [Bytes.text?, Utf8.units_utf8]
  induction t with
  | nil => rfl
  | cons c rest ih => simp [ih]

-- An absent text and an empty one leave the same bytes, so both are read back as absent.
theorem Bytes.written_utf8 (text : Option Text) :
    Bytes.written? (Text.utf8 (text.getD [])) = text.filter fun t => !t.isEmpty := by
  cases text with
  | none => rfl
  | some t =>
      by_cases empty : t = []
      · rw [empty]
        rfl
      · have bytes : Text.utf8 t ≠ [] := mt (Text.utf8_eq_nil_iff t).1 empty
        simp [Bytes.written?, Bytes.lossy_utf8, Option.filter_some, empty, bytes]

def Bytes.IsText (data : Bytes) : Prop := ∃ t, data = Text.utf8 t

namespace Bytes.IsText

theorem nil : IsText [] := ⟨[], rfl⟩

theorem utf8 (t : Text) : IsText (Text.utf8 t) := ⟨t, rfl⟩

theorem append (a b : Bytes) (front : IsText a) (back : IsText b) : IsText (a ++ b) := by
  obtain ⟨t, rfl⟩ := front
  obtain ⟨u, rfl⟩ := back
  exact ⟨t ++ u, by rw [Text.utf8, Text.utf8, Text.utf8, List.flatMap_append]⟩

theorem written (data : Bytes) (text : IsText data) : Text.utf8 ((Bytes.written? data).getD []) = data := by
  obtain ⟨t, rfl⟩ := text
  have back := Bytes.written_utf8 (some t)
  rw [Option.getD_some] at back
  rw [back]
  by_cases empty : t = [] <;> simp [Option.filter_some, empty, Text.utf8]

end Bytes.IsText

end CommandShell
