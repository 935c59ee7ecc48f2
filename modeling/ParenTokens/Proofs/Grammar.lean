import ParenTokens.Proofs.Scanning
import Mathlib.Logic.Basic

namespace ParenTokens

open Cursor (stringMark)

/-!
# The tokens of a text

The scanner against the grammar, for texts that UTF-8 can carry.

* `tokenizeText_eq_ok_iff_layout` — a text is accepted iff it can be laid out, it can be so in one way only, and the
  tokens are those of the layout.
* `tokenizeText_fault` — a refused text is laid out up to one place, where either an unexpected code point or a string
  without its closing mark stands; the fault names that place.
-/

/-- A text can be read as its layout and residue. -/
theorem exists_reads_text {s : Text} (hs : s.IsScalar) :
    ∃ (l : Layout) (z : Residue), s = l.text ++ z.text ∧ l.Munched z.text ∧ Reads s.utf8.toArray l z [] := by
  obtain ⟨l, z, hsplit, hl⟩ := exists_layout s
  exact ⟨l, z, hsplit, hl, reads_text hs hsplit hl⟩

theorem reads_layout {s : Text} (hs : s.IsScalar) {l : Layout} (htext : l.text = s) (hl : l.Munched []) :
    Reads s.utf8.toArray l .nothing [] :=
  reads_text (z := .nothing) hs (by rw [htext]; simp [Residue.text]) hl

theorem tokenizeText_of_layout {s : Text} (hs : s.IsScalar) {l : Layout} (htext : l.text = s)
    (hl : l.Munched []) : tokenizeText s = .ok (l.tokens 0 ++ [.endAt s.length]) := by
  have hbytes : tokenizeText s = tokenize s.utf8.toArray := rfl
  rw [hbytes, (reads_layout hs htext hl).tokenize_eq_ok_iff]
  exact ⟨rfl, rfl, by rw [htext]⟩

/-- **Accepted texts.** A text of scalars, or the bytes of one, is accepted iff it is a layout all of whose identifiers
    are read to their ends.  There is one such layout; its tokens come in order, and the end token behind them. -/
theorem tokenizeText_eq_ok_iff_layout (s : Text) (hs : s.IsScalar) :
    tokenize s.utf8.toArray = tokenizeText s ∧
      ((∃ ts, tokenizeText s = .ok ts) ↔ ∃ l : Layout, l.text = s ∧ l.Munched []) ∧
      ∀ l : Layout, l.text = s → l.Munched [] →
        tokenizeText s = .ok (l.tokens 0 ++ [.endAt s.length]) ∧
          ∀ l' : Layout, l'.text = s → l'.Munched [] → l' = l := by
  have hbytes : tokenize s.utf8.toArray = tokenizeText s := rfl
  refine ⟨hbytes, ⟨?_, ?_⟩, fun l htext hl => ⟨tokenizeText_of_layout hs htext hl, ?_⟩⟩
  · rintro ⟨ts, hts⟩
    obtain ⟨l, z, hsplit, hl, hreads⟩ := exists_reads_text hs
    obtain ⟨rfl, -, -⟩ := hreads.tokenize_eq_ok_iff.1 (hbytes.trans hts)
    exact ⟨l, by rw [hsplit]; simp [Residue.text], hl⟩
  · rintro ⟨l, htext, hl⟩
    exact ⟨_, tokenizeText_of_layout hs htext hl⟩
  · intro l' htext' hl'
    exact layout_unique_of_text hl' hl (htext'.trans htext.symm)

/-- Identifiers of one and two code points about a string, and a blank that is no space at the end. -/
theorem tokenizeText_eq_ok_iff_layout_adjacent :
    Text.IsScalar ("é\"(\"x1\u3000" : Text) ∧
      tokenizeText ("é\"(\"x1\u3000" : Text) =
        .ok [⟨.identifier, 0, ("é" : Text)⟩, ⟨.string, 1, ("(" : Text)⟩, ⟨.identifier, 4, ("x1" : Text)⟩,
          ⟨.endOfInput, 7, []⟩] ∧
      ∃ l : Layout, l.text = ("é\"(\"x1\u3000" : Text) ∧ l.Munched [] := by
  have hs : Text.IsScalar ("é\"(\"x1\u3000" : Text) := by decide +kernel
  have hok : tokenizeText ("é\"(\"x1\u3000" : Text) =
      .ok [⟨.identifier, 0, ("é" : Text)⟩, ⟨.string, 1, ("(" : Text)⟩, ⟨.identifier, 4, ("x1" : Text)⟩,
        ⟨.endOfInput, 7, []⟩] := by decide +kernel
  have hiff := (tokenizeText_eq_ok_iff_layout _ hs).2.1
  exact ⟨hs, hok, hiff.1 ⟨_, hok⟩⟩

/-! ### Refused texts -/

/-- **Refused texts.** A text of scalars that is not accepted is laid out up to the place `start`, whose tokens are
    given.  There stands either a code point that starts nothing, or the last string mark of the text; the fault is
    found there or at the end of the text. -/
theorem tokenizeText_fault (s : Text) (hs : s.IsScalar) (href : ∀ ts, tokenizeText s ≠ .ok ts) :
    ∃ (l : Layout) (f : Fault) (start : Nat),
      tokenizeText s = .error (.fault f) ∧
      (Scanner.ofText s).given = l.tokens 0 ∧ (Scanner.ofText s).stop = some (.fault f) ∧
      l.text = s.take start ∧ l.Munched (s.drop start) ∧
      tokenizeText (s.take start) = .ok (l.tokens 0 ++ [.endAt start]) ∧
      f.kind ≠ .invalidEncoding ∧
      Xor (∃ c, f = .unexpectedCharacter start [c] ∧ s[start]? = some c ∧ c.StartsNothing)
        (f = .unterminatedString s.length [stringMark] start ∧ s[start]? = some stringMark ∧
          ∀ i, start < i → s[i]? ≠ some stringMark) := by
  obtain ⟨l, z, hsplit, hl, hreads⟩ := exists_reads_text hs
  have htake : l.text = s.take l.text.length := by rw [hsplit, List.take_left]
  have hmunched : l.Munched (s.drop l.text.length) := by rwa [hsplit, List.drop_left]
  have hget : ∀ i, s[l.text.length + i]? = z.text[i]? := by
    intro i
    rw [hsplit, List.getElem?_append_right (by omega), Nat.add_sub_cancel_left]
  have hlength : s.length = l.text.length + z.text.length := by
    conv_lhs => rw [hsplit]
    exact List.length_append
  have hscalar : l.text.IsScalar := (Text.isScalar_append.1 (hsplit ▸ hs)).1
  have hbefore : tokenizeText (s.take l.text.length) = .ok (l.tokens 0 ++ [.endAt l.text.length]) := by
    rw [← htake]
    exact tokenizeText_of_layout hscalar rfl hl.nil
  have hgiven : (Scanner.ofText s).given = l.delivered z false 0 := hreads.given_eq
  have hstop : (Scanner.ofText s).stop = (z.fault false l.text.length l.text.utf8.length).map .fault :=
    hreads.stop_eq
  cases z with
  | nothing =>
    have htokens : tokenizeText s = .ok (l.delivered .nothing false 0) := hreads.tokenize_eq
    exact absurd htokens (href _)
  | unexpected c more hc =>
    have htokens : tokenizeText s = .error (.fault (.unexpectedCharacter l.text.length [c])) := hreads.tokenize_eq
    refine ⟨l, _, l.text.length, htokens, hgiven, hstop, htake, hmunched, hbefore, by simp [Fault.kind],
      .inl ⟨?_, ?_⟩⟩
    · exact ⟨c, rfl, hget 0, hc⟩
    · rintro ⟨hfault, -⟩
      cases hfault
  | openString body hb =>
    have htokens : tokenizeText s = .error (.fault (.unterminatedString
        (l.text.length + (Residue.openString body hb).text.length : Nat) [stringMark] l.text.length)) :=
      hreads.tokenize_eq
    refine ⟨l, _, l.text.length, htokens, hgiven, hstop, htake, hmunched, hbefore, by simp [Fault.kind],
      .inr ⟨⟨?_, ?_, ?_⟩, ?_⟩⟩
    · rw [hlength]
    · exact hget 0
    · intro i hi
      -- Behind its opening mark the residue holds no further mark.
      obtain ⟨k, rfl⟩ : ∃ k, i = l.text.length + (k + 1) := ⟨i - l.text.length - 1, by omega⟩
      rw [hget]
      intro hmark
      exact hb (List.mem_of_getElem? (i := k) hmark)
    · rintro ⟨c, hfault, -⟩
      cases hfault

/-- A string that is closed and one that is not; the second mark opens nothing. -/
theorem tokenizeText_fault_open_string :
    Text.IsScalar ("é\"a\"\"(" : Text) ∧ (∀ ts, tokenizeText ("é\"a\"\"(" : Text) ≠ .ok ts) ∧
      tokenizeText ("é\"a\"\"(" : Text) = .error (.fault (.unterminatedString 6 [stringMark] 4)) ∧
      ∃ l : Layout, l.text = ("é\"a\"" : Text) ∧ (Scanner.ofText ("é\"a\"\"(" : Text)).given = l.tokens 0 := by
  have hs : Text.IsScalar ("é\"a\"\"(" : Text) := by decide +kernel
  have herror : tokenizeText ("é\"a\"\"(" : Text) = .error (.fault (.unterminatedString 6 [stringMark] 4)) := by
    decide +kernel
  have href : ∀ ts, tokenizeText ("é\"a\"\"(" : Text) ≠ .ok ts := by
    intro ts
    rw [herror]
    nofun
  obtain ⟨l, f, start, hf, hgiven, -, htext, -, -, -, hcases⟩ := tokenizeText_fault _ hs href
  have hfault : f = .unterminatedString 6 [stringMark] 4 :=
    Refusal.fault.inj (Except.error.inj (hf.symm.trans herror))
  subst hfault
  rcases hcases with ⟨⟨c, hc, -⟩, -⟩ | ⟨⟨hc, -, -⟩, -⟩
  · cases hc
  · rw [Fault.unterminatedString.injEq] at hc
    obtain rfl : start = 4 := by omega
    exact ⟨hs, href, herror, l, htext.trans (by decide +kernel), hgiven⟩

end ParenTokens
