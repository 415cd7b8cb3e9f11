import CommandShell.Proofs.Syntax.Stretches

set_option autoImplicit false

namespace CommandShell

open Text

def Token.shown : Token → Text
  | .word w => w.text
  | t => t.render

def Word.regionTexts (w : Word) : List Text := w.commands.map fun span => span.textIn w.text

def Token.regionTexts : Token → List Text
  | .word w => w.regionTexts
  | _ => []

namespace Stretch

-- A blank goes, and so do the two quotes of a quoted part.
def kept : Stretch → Text
  | blank _ => []
  | quoted _ t => t
  | s => s.typed

def command? : Stretch → Option Text
  | quoted .backtick t => some t
  | _ => none

theorem yields_shown (w : Option Word) (s : Stretch) (inWord : Bool) (fits : s.Fits inWord) :
    (s.yields w).flatMap Token.shown ++ ((s.next w).getD (.bare [])).text = (w.getD (.bare [])).text ++ s.kept := by
  have whole : (Token.ending w).flatMap Token.shown = (w.getD (.bare [])).text := by
    cases w <;> simp [Token.ending, Token.shown, Word.bare]
  cases s with
  | blank c => simp [yields, next, kept, whole, Word.bare]
  | operator c t =>
      have sign : t.shown = [c] := by
        have operators : c = '|' ∨ c = '&' ∨ c = ';' := by grind [Token.operator?, Fits]
        rcases operators with rfl | rfl | rfl <;> cases fits <;> rfl
      simp [yields, next, kept, typed, whole, sign, Word.bare]
  | block body => simp [yields, next, kept, typed, whole, Token.shown, Token.render, Word.bare]
  | bare c => rfl
  | quoted q t => rfl

theorem region_texts_append (w : Word) (more : Text) (quote : Option Quote) (regions : Regions w.text w.commands) :
    Word.regionTexts ⟨w.text ++ more, quote, w.commands⟩ = w.regionTexts :=
  List.map_congr_left fun span member => text_in_append span w.text more (regions.each span member)

theorem region_texts_quoted (w : Word) (q : Quote) (t : Text) (inside : q.char ∉ t)
    (regions : Regions w.text w.commands) :
    Regions (w.addQuoted q t).text (w.addQuoted q t).commands ∧
      (w.addQuoted q t).regionTexts = w.regionTexts ++ (quoted q t).command?.toList := by
  by_cases backtick : q = .backtick
  · subst backtick
    have older := region_texts_append w t none regions
    have newest := text_in_split w.text t []
    rw [List.append_nil, byte_length_append] at newest
    refine ⟨by simpa [Word.addQuoted] using regions_snoc w.text t w.commands regions inside, ?_⟩
    simp only [Word.regionTexts] at older
    simp [Word.addQuoted, Word.regionTexts, older, newest, command?]
  · have none : (quoted q t).command? = none := by cases q <;> simp_all [command?]
    have older := region_texts_append w t (w.quote.or (some q)) regions
    simp only [Word.addQuoted, if_neg backtick, none]
    exact ⟨regions_append w.text t w.commands regions, by simpa using older⟩

theorem yields_regions (w : Option Word) (s : Stretch) (inWord : Bool) (fits : s.Fits inWord)
    (regions : Regions (w.getD (.bare [])).text (w.getD (.bare [])).commands) :
    Regions ((s.next w).getD (.bare [])).text ((s.next w).getD (.bare [])).commands ∧
      (s.yields w).flatMap Token.regionTexts ++ ((s.next w).getD (.bare [])).regionTexts =
        (w.getD (.bare [])).regionTexts ++ s.command?.toList := by
  have whole : (Token.ending w).flatMap Token.regionTexts = (w.getD (.bare [])).regionTexts := by
    cases w <;> simp [Token.ending, Token.regionTexts, Word.regionTexts, Word.bare]
  have nothing : Regions (Word.bare []).text (Word.bare []).commands ∧ (Word.bare []).regionTexts = [] :=
    ⟨regions_nil _, rfl⟩
  cases s with
  | blank c => exact ⟨nothing.1, by simp [yields, next, command?, whole, nothing.2]⟩
  | operator c t =>
      have sign : t.regionTexts = [] := by
        have operators : t = .pipe ∨ t = .ampersand ∨ t = .semicolon := by grind [Token.operator?, Fits]
        rcases operators with rfl | rfl | rfl <;> rfl
      exact ⟨nothing.1, by simp [yields, next, command?, whole, nothing.2, sign]⟩
  | block body => exact ⟨nothing.1, by simp [yields, next, command?, whole, nothing.2, Token.regionTexts]⟩
  | bare c =>
      refine ⟨regions_append _ [c] _ regions, ?_⟩
      simpa [yields, next, command?] using region_texts_append _ [c] _ regions
  | quoted q t => exact region_texts_quoted _ q t fits regions

end Stretch

namespace Row

theorem tokens_shown (w : Option Word) (row : List Stretch) (fits : Fits w.isSome row) :
    (tokens w row).flatMap Token.shown = (w.getD (.bare [])).text ++ row.flatMap Stretch.kept := by
  induction row generalizing w with
  | nil => cases w <;> simp [tokens, Token.ending, Token.shown, Word.bare]
  | cons s rest ih =>
      have others := ih (s.next w) (Mode.next_in_word w s ▸ fits.2)
      rw [tokens, List.flatMap_append, others, ← List.append_assoc, s.yields_shown w _ fits.1, List.append_assoc,
        List.flatMap_cons]

theorem tokens_regions (w : Option Word) (row : List Stretch) (fits : Fits w.isSome row)
    (regions : Regions (w.getD (.bare [])).text (w.getD (.bare [])).commands) :
    (tokens w row).flatMap Token.regionTexts = (w.getD (.bare [])).regionTexts ++ row.filterMap Stretch.command? := by
  induction row generalizing w with
  | nil => cases w <;> simp [tokens, Token.ending, Token.regionTexts, Word.regionTexts, Word.bare]
  | cons s rest ih =>
      obtain ⟨kept, same⟩ := s.yields_regions w _ fits.1 regions
      have others := ih (s.next w) (Mode.next_in_word w s ▸ fits.2) kept
      rw [tokens, List.flatMap_append, others, ← List.append_assoc, same, List.append_assoc, List.filterMap_cons]
      cases s.command? <;> rfl

end Row

theorem characters_accounted (line : Text) (tokens : List Token) (scanned : scan line = .ok tokens) :
    ∃ row, Row.Fits false row ∧ line = Row.typed row ∧
      (∀ other, Row.Fits false other → line = Row.typed other → other = row) ∧
      tokens.flatMap Token.shown = row.flatMap Stretch.kept ∧
      tokens.flatMap Token.regionTexts = row.filterMap Stretch.command? := by
  obtain ⟨row, rfl, fits, rfl⟩ := (Row.scan_ok_iff_row line tokens).1 scanned
  refine ⟨row, fits, rfl, fun other otherFits same => ?_, Row.tokens_shown none row fits, ?_⟩
  · exact Row.row_unique false other row otherFits fits same.symm
  · exact Row.tokens_regions none row fits (regions_nil _)

theorem characters_accounted_mixed :
    let line := "\"x\"`a`' b`'`c`| (d ')')".toList
    let tokens : List Token :=
      [.word ⟨"xa b`c".toList, some .double, [⟨1, 2⟩, ⟨5, 6⟩]⟩, .pipe, .subshell "d ')'".toList]
    let row : List Stretch := [.quoted .double ['x'], .quoted .backtick ['a'], .quoted .single [' ', 'b', '`'],
      .quoted .backtick ['c'], .operator '|' .pipe, .blank ' ', .block "d ')'".toList]
    scan line = .ok tokens ∧ Row.Fits false row ∧ line = Row.typed row ∧
      (∀ other, Row.Fits false other → line = Row.typed other → other = row) ∧
      tokens.flatMap Token.shown = row.flatMap Stretch.kept ∧
      tokens.flatMap Token.regionTexts = row.filterMap Stretch.command? := by
  intro line tokens row
  have scanned : scan line = .ok tokens := rfl
  have fits : Row.Fits false row := ⟨(by decide : '"' ∉ ['x']), (by decide : '`' ∉ ['a']),
    (by decide : '\'' ∉ [' ', 'b', '`']), (by decide : '`' ∉ ['c']), rfl, rfl, ⟨rfl, rfl⟩, trivial⟩
  obtain ⟨found, foundFits, whole, only, shown, regions⟩ := characters_accounted line tokens scanned
  obtain rfl := only row fits rfl
  exact ⟨scanned, foundFits, whole, only, shown, regions⟩

end CommandShell
