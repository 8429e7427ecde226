import ExprScan.Proofs.Lookahead
import ExprScan.Proofs.Restart

/-!
# Scanning texts in parts

A blank between two texts keeps their tokens apart: the first text has the tokens that it has on its
own, and so has the second. The one exception is a literal at the end of the first text that is not
closed, for it goes on into the second.

Main statement: `tokenize_append_blank`.
-/

namespace ExprScan

variable {functions : NameSet} {offset : Nat} {cs : List Char} {ls : List Lexeme} {c : Char}
  {m : Munch}

/-! ### Scans and runs -/

/-- The tokens of a scan without the mark of the end. -/
def Scan.pieces (s : Scan) : List Token := s.tokens.filter fun t => !t.isEnd

theorem Run.tokenize_eq {settings : Settings} {source : String}
    (h : Run settings.functions 0 source.toList ls) :
    tokenize settings source =
      ⟨ls.map (·.token), if settings.validate then ls.flatMap (·.diagnostics) else []⟩ := by
  rw [tokenize, lexemes, ← h.eq_lexemesFrom]

theorem Run.flatMap_filter (h : Run functions offset cs ls) :
    (ls.filter fun l => !l.token.isEnd).flatMap (·.diagnostics) = ls.flatMap (·.diagnostics) := by
  obtain ⟨early, rfl, hall, -⟩ := h.exists_eq_concat
  have hkept : early.filter (fun l => !l.token.isEnd) = early := by
    rw [List.filter_eq_self]
    intro l hl
    rw [(hall l hl).1]
    rfl
  rw [List.filter_append, hkept, List.flatMap_append, List.flatMap_append]
  rfl

/-! ### Blanks -/

theorem Run.append_left {blanks : List Char} (hb : ∀ c ∈ blanks, Text.isSpace c = true)
    (h : Run functions (offset + Text.byteLength blanks) cs ls) :
    Run functions offset (blanks ++ cs) ls := by
  generalize hstart : offset + Text.byteLength blanks = start at h
  cases h with
  | finish hm =>
    have hall : ∀ c ∈ blanks ++ cs, Text.isSpace c = true := List.forall_mem_append.2 ⟨hb, hm⟩
    have hrun : Run functions offset (blanks ++ cs) _ := .finish hall
    rw [Text.byteLength_append, ← Nat.add_assoc, hstart] at hrun
    exact hrun
  | @token _ more cs c m ls hm hc hmunch next =>
    have hall : ∀ c ∈ blanks ++ more, Text.isSpace c = true := List.forall_mem_append.2 ⟨hb, hm⟩
    have hsum : start + Text.byteLength more = offset + Text.byteLength (blanks ++ more) := by
      rw [Text.byteLength_append, ← Nat.add_assoc, hstart]
    rw [hsum] at next ⊢
    rw [← List.append_assoc]
    exact .token hall hc hmunch next

/-- A closed piece stops where it stopped if a blank and more is put behind what was left. -/
theorem Munch.StopsAt.append_blank (hm : m.isOpen = false) {w : Char}
    (hw : Text.isSpace w = true) (bs : List Char) : m.StopsAt (m.rest ++ w :: bs) := by
  cases hrest : m.rest with
  | nil => exact .of_isSpace hm hw bs
  | cons d rest => exact .of_head?_eq (by rw [hrest]; rfl)

/-! ### Two texts -/

/-- A run over a text whose literals are closed, followed by a run over another text with a blank
before it, make up a run over both. -/
theorem Run.append_blank {as bs : List Char} {w : Char} {ls' : List Lexeme}
    (h : Run functions offset as ls)
    (hclosed : ∀ l ∈ ls, .openBracket ∉ l.flaws ∧ .openString ∉ l.flaws)
    (hw : Text.isSpace w = true)
    (h' : Run functions (offset + Text.byteLength as + w.utf8Size) bs ls') :
    Run functions offset (as ++ w :: bs) (ls.filter (fun l => !l.token.isEnd) ++ ls') := by
  induction h with
  | @finish offset blanks hb =>
    have hone : Run functions (offset + Text.byteLength blanks) ([w] ++ bs) ls' :=
      .append_left (by simpa using hw) h'
    exact hone.append_left hb
  | @token offset blanks cs c m ls hb hc hm next ih =>
    have hopen : m.isOpen = false := by
      obtain ⟨h₁, h₂⟩ := hclosed _ List.mem_cons_self
      simpa [Munch.isOpen] using ⟨h₁, h₂⟩
    have hcut := Munch.eq_taken_append hm
    rw [hcut, Text.byteLength_append, Text.byteLength_append, ← Nat.add_assoc,
      ← Nat.add_assoc] at h'
    have hrest := ih (fun l hl => hclosed l (List.mem_cons_of_mem _ hl)) h'
    have hrun := Run.token_of_stopsAt hb hc hm (.append_blank hopen hw bs) hrest
    rw [hcut, List.append_assoc, List.append_assoc,
      List.filter_cons_of_pos (by simp [isEnd_lexeme hm])]
    exact hrun

/-- **A blank keeps two texts apart**: if the first has no literal reported that is not closed, the
tokens of both texts together are those of the first, without its mark of the end, and then those
of the second, moved behind the first text and the blank; and so are the reports. -/
theorem tokenize_append_blank {settings : Settings} (hv : settings.validate = true)
    (a b : String) {w : Char} (hw : w ∈ blankChars)
    (hclosed : ∀ d ∈ (tokenize settings a).diagnostics,
      d.code ≠ some .unclosedBracket ∧ d.code ≠ some .unterminatedString) :
    (tokenize settings (a ++ String.singleton w ++ b)).tokens =
        (tokenize settings a).pieces ++
          (tokenize settings b).tokens.map (·.shift (Text.size a + w.utf8Size)) ∧
      (tokenize settings (a ++ String.singleton w ++ b)).diagnostics =
        (tokenize settings a).diagnostics ++
          (tokenize settings b).diagnostics.map (·.shift (Text.size a + w.utf8Size)) := by
  have ha := run_lexemesFrom settings.functions 0 a.toList
  have hb := run_lexemesFrom settings.functions (Text.size a + w.utf8Size) b.toList
  have hreported : ∀ l ∈ lexemes settings.functions a, ∀ f ∈ l.flaws,
      f.code ≠ .unclosedBracket ∧ f.code ≠ .unterminatedString := by
    intro l hl f hf
    have hd : f.diagnostic l.token.offset l.token.text ∈ (tokenize settings a).diagnostics := by
      rw [tokenize, hv]
      exact List.mem_flatMap.2 ⟨l, hl, List.mem_map_of_mem hf⟩
    obtain ⟨h₁, h₂⟩ := hclosed _ hd
    exact ⟨fun h => h₁ (congrArg some h), fun h => h₂ (congrArg some h)⟩
  have hrun := ha.append_blank
    (fun l hl => ⟨fun hf => (hreported l hl _ hf).1 rfl, fun hf => (hreported l hl _ hf).2 rfl⟩)
    (isSpace_iff_mem.2 hw) (by rw [Nat.zero_add, Text.byteLength_toList]; exact hb)
  have hsource : (a ++ String.singleton w ++ b).toList = a.toList ++ w :: b.toList := by simp
  rw [← hsource] at hrun
  obtain ⟨htokens, hdiagnostics⟩ := hb.eq_map_shift
  rw [if_pos hv] at hdiagnostics
  rw [hrun.tokenize_eq, ← htokens, ← hdiagnostics, ha.tokenize_eq, if_pos hv, if_pos hv,
    List.map_append, List.flatMap_append, ha.flatMap_filter, Scan.pieces, List.filter_map]
  exact ⟨rfl, rfl⟩

/-- For instance with a tab between a bare `0x` and an accessor, and with a string that is open in
the second text only. -/
theorem tokenize_append_blank_tab :
    '\t' ∈ blankChars ∧
      (∀ d ∈ (tokenize {} "0x").diagnostics,
        d.code ≠ some .unclosedBracket ∧ d.code ≠ some .unterminatedString) ∧
      (tokenize {} ("0x" ++ String.singleton '\t' ++ "a.b 'c")).tokens =
        (tokenize {} "0x").pieces ++ (tokenize {} "a.b 'c").tokens.map (·.shift (2 + 1)) ∧
      (tokenize {} ("0x" ++ String.singleton '\t' ++ "a.b 'c")).diagnostics =
        (tokenize {} "0x").diagnostics ++
          (tokenize {} "a.b 'c").diagnostics.map (·.shift (2 + 1)) := by
  have hw : '\t' ∈ blankChars := by decide
  have hclosed : ∀ d ∈ (tokenize {} "0x").diagnostics,
      d.code ≠ some .unclosedBracket ∧ d.code ≠ some .unterminatedString := by decide +kernel
  exact ⟨hw, hclosed, tokenize_append_blank rfl "0x" "a.b 'c" hw hclosed⟩

end ExprScan
