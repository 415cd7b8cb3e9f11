import CommandShell.Proofs.Text.Offsets
import CommandShell.Syntax.Word
import Mathlib.Data.List.Chain

set_option autoImplicit false

namespace CommandShell

open Text

def Span.textIn (span : Span) (t : Text) : Text :=
  (splitBytes (span.stop - span.start) (splitBytes span.start t).2).1

-- What a region must be by itself. A boundary is no further than the end of the text.
structure Span.Delimits (span : Span) (t : Text) : Prop where
  start : t.IsBoundary span.start
  stop : t.IsBoundary span.stop
  ordered : span.start ≤ span.stop
  noBacktick : '`' ∉ span.textIn t

structure Regions (t : Text) (spans : List Span) : Prop where
  each : ∀ span ∈ spans, span.Delimits t
  apart : spans.IsChain fun a b => a.stop ≤ b.start

theorem text_in_split (before line after : Text) :
    (⟨byteLength before, byteLength (before ++ line)⟩ : Span).textIn (before ++ line ++ after) = line := by
  rw [Span.textIn, List.append_assoc, split_bytes_append, split_bytes_after]

theorem delimits_iff_split (span : Span) (t : Text) :
    span.Delimits t ↔ ∃ before line after, t = before ++ line ++ after ∧
      span = ⟨byteLength before, byteLength (before ++ line)⟩ ∧ '`' ∉ line := by
  constructor
  · rintro ⟨⟨before, rest, startSplit, startEq⟩, ⟨front, after, stopSplit, stopEq⟩, ordered, noBacktick⟩
    obtain ⟨line, frontEq, restEq⟩ := append_left_unique before rest front after
      (startSplit.symm.trans stopSplit) (by omega)
    have whole : t = before ++ line ++ after := by rw [startSplit, restEq, List.append_assoc]
    have spanEq : span = ⟨byteLength before, byteLength (before ++ line)⟩ := by
      rw [← frontEq, startEq, stopEq]
    refine ⟨before, line, after, whole, spanEq, ?_⟩
    rwa [spanEq, whole, text_in_split] at noBacktick
  · rintro ⟨before, line, after, rfl, rfl, noBacktick⟩
    refine ⟨⟨before, line ++ after, by simp, rfl⟩, ⟨before ++ line, after, rfl, rfl⟩, ?_, ?_⟩
    · simp only [byte_length_append]
      omega
    · rwa [text_in_split]

theorem delimits_append (span : Span) (t more : Text) (delimits : span.Delimits t) :
    span.Delimits (t ++ more) := by
  obtain ⟨before, line, after, whole, spanEq, noBacktick⟩ := (delimits_iff_split span t).1 delimits
  exact (delimits_iff_split span _).2 ⟨before, line, after ++ more, by simp [whole], spanEq, noBacktick⟩

theorem regions_nil (t : Text) : Regions t [] := ⟨by simp, .nil⟩

theorem regions_append (t more : Text) (spans : List Span) (regions : Regions t spans) :
    Regions (t ++ more) spans :=
  ⟨fun span member => delimits_append span t more (regions.each span member), regions.apart⟩

theorem regions_snoc (t line : Text) (spans : List Span) (regions : Regions t spans)
    (noBacktick : '`' ∉ line) :
    Regions (t ++ line) (spans ++ [⟨byteLength t, byteLength (t ++ line)⟩]) := by
  constructor
  · intro span member
    rcases List.mem_append.1 member with old | new
    · exact delimits_append span t line (regions.each span old)
    · rw [List.mem_singleton.1 new]
      exact (delimits_iff_split _ _).2 ⟨t, line, [], by simp, rfl, noBacktick⟩
  · refine List.isChain_append.2 ⟨regions.apart, .singleton _, ?_⟩
    intro last lastMember next nextMember
    obtain rfl : ⟨byteLength t, byteLength (t ++ line)⟩ = next := by simpa using nextMember
    exact boundary_le t last.stop (regions.each last (List.mem_of_mem_getLast? lastMember)).stop

-- The induction over regions runs from the left, so what lies before the next one is carried along.
theorem regions_cons (before rest : Text) (span : Span) (more : List Span)
    (regions : Regions (before ++ rest) (span :: more)) (later : byteLength before ≤ span.start) :
    ∃ plain line after, rest = plain ++ line ++ after ∧
      span = ⟨byteLength (before ++ plain), byteLength (before ++ plain ++ line)⟩ ∧ '`' ∉ line ∧
      Regions (before ++ plain ++ line ++ after) more ∧
      ∀ next ∈ more.head?, byteLength (before ++ plain ++ line) ≤ next.start := by
  obtain ⟨front, line, after, whole, spanEq, noBacktick⟩ :=
    (delimits_iff_split span _).1 (regions.each span List.mem_cons_self)
  subst spanEq
  obtain ⟨plain, frontEq, restEq⟩ := append_left_unique before rest front (line ++ after)
    (by rw [whole, List.append_assoc]) later
  subst frontEq
  obtain ⟨following, apart⟩ := List.isChain_cons.1 regions.apart
  refine ⟨plain, line, after, by rw [restEq, List.append_assoc], rfl, noBacktick, ⟨?_, apart⟩, following⟩
  intro other member
  rw [← whole]
  exact regions.each other (List.mem_cons_of_mem _ member)

namespace Piece

def joined (pieces : List Piece) : Text := pieces.flatMap Piece.text

def spansFrom (offset : Nat) : List Piece → List Span
  | [] => []
  | .plain t :: rest => spansFrom (offset + byteLength t) rest
  | .command line :: rest =>
    ⟨offset, offset + byteLength line⟩ :: spansFrom (offset + byteLength line) rest

def Clean : Piece → Prop
  | .plain _ => True
  | .command line => '`' ∉ line

end Piece

theorem cut_at (before plain line after : Text) (more : List Span) :
    Word.cut (byteLength before) (plain ++ line ++ after)
        (⟨byteLength (before ++ plain), byteLength (before ++ plain ++ line)⟩ :: more) =
      .plain plain :: .command line :: Word.cut (byteLength (before ++ plain ++ line)) after more := by
  rw [Word.cut, List.append_assoc plain, split_bytes_after before plain]
  simp only [split_bytes_after (before ++ plain) line]

theorem cut_regions (spans : List Span) (before rest : Text) (regions : Regions (before ++ rest) spans)
    (later : ∀ next ∈ spans.head?, byteLength before ≤ next.start) :
    Piece.joined (Word.cut (byteLength before) rest spans) = rest ∧
      Piece.spansFrom (byteLength before) (Word.cut (byteLength before) rest spans) = spans ∧
      ∀ piece ∈ Word.cut (byteLength before) rest spans, piece.Clean := by
  induction spans generalizing before rest with
  | nil => simp [Word.cut, Piece.joined, Piece.spansFrom, Piece.text, Piece.Clean]
  | cons span more ih =>
      obtain ⟨plain, line, after, restEq, spanEq, noBacktick, restRegions, following⟩ :=
        regions_cons before rest span more regions (later span rfl)
      subst restEq spanEq
      obtain ⟨joined, placed, clean⟩ := ih (before ++ plain ++ line) after restRegions following
      rw [cut_at]
      refine ⟨?_, ?_, ?_⟩
      · simpa [Piece.joined, Piece.text] using joined
      · simpa [Piece.spansFrom, Nat.add_assoc] using placed
      · simpa [Piece.Clean, noBacktick] using clean

theorem cut_lines (spans : List Span) (before rest : Text) (regions : Regions (before ++ rest) spans)
    (later : ∀ next ∈ spans.head?, byteLength before ≤ next.start) :
    (Word.cut (byteLength before) rest spans).filterMap Piece.command? =
      spans.map fun span => span.textIn (before ++ rest) := by
  induction spans generalizing before rest with
  | nil => rfl
  | cons span more ih =>
      obtain ⟨plain, line, after, restEq, spanEq, _, restRegions, following⟩ :=
        regions_cons before rest span more regions (later span rfl)
      subst restEq spanEq
      have whole : before ++ (plain ++ line ++ after) = before ++ plain ++ line ++ after := by simp
      have others := ih (before ++ plain ++ line) after restRegions following
      rw [cut_at, whole, List.map_cons, text_in_split, ← others]
      rfl

theorem word_lines (w : Word) (regions : Regions w.text w.commands) :
    w.lines = w.commands.map fun span => span.textIn w.text :=
  cut_lines w.commands [] w.text regions fun _ _ => Nat.zero_le _

theorem text_in_append (span : Span) (t more : Text) (delimits : span.Delimits t) :
    span.textIn (t ++ more) = span.textIn t := by
  obtain ⟨before, line, after, rfl, rfl, _⟩ := (delimits_iff_split span t).1 delimits
  rw [List.append_assoc, text_in_split, text_in_split]

end CommandShell
