import ExprScan.Proofs.Run
import Mathlib.Data.List.Basic

/-!
# Tokens tile the text

Between two tokens there are only blanks, each token is the piece of the text at its offset, and
the last one stands at the end of the text. Offsets count bytes while rules count characters, so
this is where the two are tied together for a whole scan.

Main statement: `tokenize_tiles`.
-/

namespace ExprScan

/-! ### Tilings -/

/-- The blanks: tab, line feed, vertical tab, form feed, carriage return and space. -/
def blankChars : List Char := ['\t', '\n', '\x0B', '\x0C', '\r', ' ']

theorem isSpace_iff_mem {c : Char} : Text.isSpace c = true ↔ c ∈ blankChars := by
  have hcode : blankChars.map Char.toNat = [9, 10, 11, 12, 13, 32] := by decide
  rw [Text.isSpace_iff, ← List.mem_map_of_injective fun _ _ => Char.toNat_inj.1, hcode]
  simp only [List.mem_cons, List.not_mem_nil, or_false]
  omega

/-- A token in its place, if the token before it ends at byte `position`. -/
structure Placed (source : String) (position : Nat) (t : Token) : Prop where
  /-- The token does not start before the end of the one before it. -/
  le_offset : position ≤ t.offset
  /-- The text in between has only blanks. -/
  gap : ∃ gap, Text.slice? source position t.offset = some gap ∧ ∀ c ∈ gap.toList, c ∈ blankChars
  /-- The token starts at a boundary. -/
  starts : Text.isBoundary source t.offset = true
  /-- The token ends at a boundary. -/
  stops : Text.isBoundary source (t.offset + t.size) = true
  /-- The text of the token is what stands there. -/
  text : Text.slice? source t.offset (t.offset + t.size) = some t.text

/-- Tokens that stand one after the other from byte `position` to the end of the text. -/
def Tiles (source : String) : Nat → List Token → Prop
  | position, [] => position = Text.size source
  | position, t :: ts => Placed source position t ∧ Tiles source (t.offset + t.size) ts

theorem Placed.of_toList {source : String} {before blanks text after : List Char} {t : Token}
    (hs : source.toList = before ++ (blanks ++ (text ++ after)))
    (hb : ∀ c ∈ blanks, Text.isSpace c = true) (ht : t.text = String.ofList text)
    (ho : t.offset = Text.byteLength before + Text.byteLength blanks) :
    Placed source (Text.byteLength before) t := by
  have hstart : source.toList = (before ++ blanks) ++ (text ++ after) := by
    rw [hs, List.append_assoc]
  have hstop : source.toList = (before ++ blanks ++ text) ++ after := by
    rw [hstart, List.append_assoc _ text]
  have hsize : t.size = Text.byteLength text := by rw [Token.size, ht, Text.size_ofList]
  rw [← Text.byteLength_append] at ho
  refine ⟨?_, ⟨String.ofList blanks, ?_, fun c hc => ?_⟩, ?_, ?_, ?_⟩
  · rw [ho, Text.byteLength_append]
    exact Nat.le_add_right _ _
  · rw [ho, Text.byteLength_append]
    exact Text.slice?_of_toList hs
  · exact isSpace_iff_mem.1 (hb c (by simpa using hc))
  · rw [ho]
    exact Text.isBoundary_of_toList hstart
  · rw [ho, hsize, ← Text.byteLength_append]
    exact Text.isBoundary_of_toList hstop
  · rw [ho, hsize, ht]
    exact Text.slice?_of_toList hstart

/-! ### Tokens of a run -/

/-- The tokens of a run over the end of a text tile that end. -/
theorem Run.tiles {functions : NameSet} {source : String} {offset : Nat} {cs : List Char}
    {ls : List Lexeme} (h : Run functions offset cs ls) :
    ∀ before, source.toList = before ++ cs → Text.byteLength before = offset →
      Tiles source offset (ls.map (·.token)) := by
  induction h with
  | @finish offset blanks hb =>
    rintro before hs rfl
    have hs' : source.toList = before ++ (blanks ++ ([] ++ [])) := by simpa using hs
    refine ⟨.of_toList hs' hb rfl rfl, ?_⟩
    show Text.byteLength before + Text.byteLength blanks + 0 = Text.size source
    rw [← Text.byteLength_toList, hs, Text.byteLength_append, Nat.add_zero]
  | @token offset blanks cs c m ls hb hc hm next ih =>
    rintro before hs rfl
    have hcut := Munch.eq_taken_append hm
    rw [hcut] at hs
    refine ⟨.of_toList hs hb rfl rfl, ?_⟩
    have hrest := ih (before ++ blanks ++ m.taken) (by rw [hs]; simp) (by
      rw [Text.byteLength_append, Text.byteLength_append])
    rw [← Text.size_ofList m.taken] at hrest
    exact hrest

/-- **Tokens tile the text**: from the start of the text on, each token follows the one before it
with only blanks in between and is the piece of the text at its offset. The last one, and no other,
marks the end, is empty and stands at the end of the text; every other token has a text, which
starts with a character that is no blank. -/
theorem tokenize_tiles (settings : Settings) (source : String) :
    Tiles source 0 (tokenize settings source).tokens ∧
      ∃ ts last, (tokenize settings source).tokens = ts ++ [last] ∧
        (∀ t ∈ ts, t.isEnd = false ∧ ∃ c more, t.text.toList = c :: more ∧ c ∉ blankChars) ∧
        last.isEnd = true ∧ last.size = 0 ∧ last.offset = Text.size source := by
  have hrun := run_lexemesFrom settings.functions 0 source.toList
  obtain ⟨early, hearly, hall, -⟩ := hrun.exists_eq_concat
  rw [Nat.zero_add, Text.byteLength_toList] at hearly
  have htokens : (tokenize settings source).tokens =
      early.map (·.token) ++ [.finish (Text.size source)] := by
    rw [tokenize, lexemes, hearly, List.map_append]
    rfl
  refine ⟨hrun.tiles [] rfl rfl, early.map (·.token), _, htokens, fun t ht => ?_, rfl, rfl, rfl⟩
  obtain ⟨l, hl, rfl⟩ := List.mem_map.1 ht
  obtain ⟨hend, c, more, htext, hc⟩ := hall l hl
  refine ⟨hend, c, more, htext, fun hmem => ?_⟩
  rw [isSpace_iff_mem.2 hmem] at hc
  cases hc

end ExprScan
