import ExprScan.Proofs.FlawSpan
import ExprScan.Proofs.Tiling

/-!
# What a rule sees

A rule looks at what it takes and at one character more. So a piece stays what it is when another
text follows it, as long as that text starts with the same character. At the end of the text there
is no such character; a blank in its place changes nothing either, unless the piece is a literal
that is not closed, which would take the blank and go on.

Main statements: a rule takes the same piece from another text (`Rule.munch_taken_append`), and a
run takes the same first token (`Run.token_of_stopsAt`).
-/

namespace ExprScan

variable {functions : NameSet} {before cs rest : List Char} {r : Rule} {c : Char} {m : Munch}

/-! ### Pieces that end where they ended -/

/-- Whether the piece is a literal that is not closed. -/
def Munch.isOpen (m : Munch) : Bool :=
  m.flaws.contains .openBracket || m.flaws.contains .openString

/-- The piece does not reach into the text `rest`: that is empty, or starts with the character that
followed the piece when it was taken, or starts with a blank while the piece is closed. -/
def Munch.StopsAt (m : Munch) (rest : List Char) : Prop :=
  ∀ d, rest.head? = some d → m.rest.head? = some d ∨ Text.isSpace d = true ∧ m.isOpen = false

theorem Munch.StopsAt.nil (m : Munch) : m.StopsAt [] := by
  intro d hd
  cases hd

theorem Munch.StopsAt.of_isSpace (hm : m.isOpen = false) {d : Char}
    (hd : Text.isSpace d = true) (rest : List Char) : m.StopsAt (d :: rest) := by
  intro e he
  obtain rfl := Option.some.inj he
  exact .inr ⟨hd, hm⟩

/-- A piece does not reach into what was left, nor into what starts in the same way. -/
theorem Munch.StopsAt.of_head?_eq (h : m.rest.head? = rest.head?) : m.StopsAt rest := by
  intro d hd
  exact .inl (h.trans hd)

theorem Munch.StopsAt.head? (h : m.StopsAt rest) (d : Char) (hd : rest.head? = some d) :
    m.rest.head? = some d ∨ Text.isSpace d = true :=
  (h d hd).imp id And.left

/-- A literal that took all there was and is not closed stops at nothing but the end. -/
theorem Munch.StopsAt.eq_nil (h : m.StopsAt rest) (hrest : m.rest = [])
    (hopen : m.isOpen = true) : rest = [] := by
  cases rest with
  | nil => rfl
  | cons d rest =>
    rcases h d rfl with h' | ⟨-, h'⟩
    · rw [hrest] at h'
      cases h'
    · rw [hopen] at h'
      cases h'

/-! ### Classes of characters -/

theorem Text.not_isClass_of_isSpace (h : Text.isSpace c = true) :
    Text.isDigit c = false ∧ Text.isHexDigit c = false ∧ Text.isWordChar c = false := by
  have htable : ∀ c ∈ blankChars, Text.isDigit c = false ∧ Text.isHexDigit c = false ∧
      Text.isWordChar c = false := by
    simp only [blankChars, List.forall_mem_cons]
    exact ⟨by decide, by decide, by decide, by decide, by decide, by decide, List.forall_mem_nil _⟩
  exact htable c (isSpace_iff_mem.1 h)

/-- The characters of a class that a text starts with are the same ones when another text follows
them, if that text does not start with the class. -/
theorem takeWhile_dropWhile_append {p : Char → Bool}
    (hp : ∀ d, Text.isSpace d = true → p d = false)
    (h : ∀ d, rest.head? = some d → (cs.dropWhile p).head? = some d ∨ Text.isSpace d = true) :
    (cs.takeWhile p ++ rest).takeWhile p = cs.takeWhile p ∧
      (cs.takeWhile p ++ rest).dropWhile p = rest := by
  have hall : ∀ a ∈ cs.takeWhile p, p a = true := fun _ => List.mem_takeWhile_imp
  rw [List.takeWhile_append_of_pos hall, List.dropWhile_append_of_pos hall]
  cases rest with
  | nil => exact ⟨List.append_nil _, rfl⟩
  | cons d rest =>
    have hd : p d = false := by
      rcases h d rfl with hd | hd
      · obtain ⟨tail, htail⟩ := List.head?_eq_some_iff.1 hd
        exact eq_false_of_dropWhile_eq_cons htail
      · exact hp d hd
    rw [List.takeWhile_cons_of_neg (by simp [hd]), List.dropWhile_cons_of_neg (by simp [hd])]
    exact ⟨List.append_nil _, rfl⟩

/-- Where such a class ends with another character in the new text, it ended with it before. -/
theorem exists_eq_append_of_takeWhile_append {p : Char → Bool} {more : List Char}
    (front : List Char) {e : Char} (hp : ∀ d, Text.isSpace d = true → p d = false)
    (h : ∀ d, rest.head? = some d → (cs.dropWhile p).head? = some d ∨ Text.isSpace d = true)
    (hfront : ∀ a ∈ front, p a = true) (he : p e = false) (hs : Text.isSpace e = false)
    (heq : cs.takeWhile p ++ rest = front ++ e :: more) : ∃ tail, cs = front ++ e :: tail := by
  obtain ⟨ht, hd⟩ := takeWhile_dropWhile_append hp h
  rw [heq, List.takeWhile_append_of_pos hfront, List.takeWhile_cons_of_neg (by simp [he]),
    List.append_nil] at ht
  rw [heq, List.dropWhile_append_of_pos hfront, List.dropWhile_cons_of_neg (by simp [he])] at hd
  rcases h e (by rw [← hd]; rfl) with h' | h'
  · obtain ⟨tail, htail⟩ := List.head?_eq_some_iff.1 h'
    exact ⟨tail, by rw [ht, ← htail, List.takeWhile_append_dropWhile]⟩
  · rw [hs] at h'
    cases h'

/-! ### Rules on another text -/

theorem munchNumber_of_ne (hx : ∀ more, cs ≠ '0' :: 'x' :: more)
    (hdot : ∀ more, cs ≠ '.' :: more) :
    munchNumber cs =
      ⟨.literal .numeric, cs.takeWhile Text.isDigit, cs.dropWhile Text.isDigit, []⟩ := by
  unfold munchNumber
  split
  · exact absurd rfl (hx _)
  · exact absurd rfl (hdot _)
  · rfl

theorem munchNumber_taken_append (h : (munchNumber cs).StopsAt rest) :
    munchNumber ((munchNumber cs).taken ++ rest) = { munchNumber cs with rest } := by
  have hdigit : ∀ d, Text.isSpace d = true → Text.isDigit d = false :=
    fun d hd => (Text.not_isClass_of_isSpace hd).1
  have hhex : ∀ d, Text.isSpace d = true → Text.isHexDigit d = false :=
    fun d hd => (Text.not_isClass_of_isSpace hd).2.1
  have hhead := h.head?
  by_cases hx : ∃ more, cs = '0' :: 'x' :: more
  · obtain ⟨more, rfl⟩ := hx
    obtain ⟨ht, hd⟩ := takeWhile_dropWhile_append hhex hhead
    simp only [munchNumber, List.cons_append, ht, hd]
  by_cases hdot : ∃ more, cs = '.' :: more
  · obtain ⟨more, rfl⟩ := hdot
    obtain ⟨ht, hd⟩ := takeWhile_dropWhile_append hdigit hhead
    simp only [munchNumber, List.cons_append, ht, hd]
  rw [munchNumber_of_ne (not_exists.1 hx) (not_exists.1 hdot)] at hhead ⊢
  obtain ⟨ht, hd⟩ := takeWhile_dropWhile_append hdigit hhead
  rw [munchNumber_of_ne, ht, hd]
  · intro more heq
    exact hx (exists_eq_append_of_takeWhile_append ['0'] hdigit hhead
      (List.forall_mem_singleton.2 (by decide)) (by decide) (by decide) heq)
  · intro more heq
    exact hdot (exists_eq_append_of_takeWhile_append [] hdigit hhead (List.forall_mem_nil _)
      (by decide) (by decide) heq)

theorem munchEnclosed_of_not_mem (flaw : Flaw) (opening : Char) {closing : Char}
    (h : closing ∉ cs) :
    munchEnclosed flaw opening closing cs = ⟨.literal .string, opening :: cs, [], [flaw]⟩ := by
  have hall : ∀ a ∈ cs, (a != closing) = true :=
    fun a ha => bne_iff_ne.2 fun heq => h (heq ▸ ha)
  rw [munchEnclosed, List.dropWhile_eq_nil_iff.2 hall, List.takeWhile_eq_self_iff.2 hall]

/-- The first closing character ends an enclosed piece, whatever follows. -/
theorem munchEnclosed_append_cons (flaw : Flaw) (opening : Char) {closing : Char}
    {body : List Char} (h : closing ∉ body) (rest : List Char) :
    munchEnclosed flaw opening closing (body ++ closing :: rest) =
      ⟨.literal .string, opening :: (body ++ [closing]), rest, []⟩ := by
  have hall : ∀ a ∈ body, (a != closing) = true :=
    fun a ha => bne_iff_ne.2 fun heq => h (heq ▸ ha)
  have hd : (body ++ closing :: rest).dropWhile (· != closing) = closing :: rest := by
    rw [List.dropWhile_append_of_pos hall, List.dropWhile_cons_of_neg (by simp)]
  have ht : (body ++ closing :: rest).takeWhile (· != closing) = body := by
    rw [List.takeWhile_append_of_pos hall, List.takeWhile_cons_of_neg (by simp), List.append_nil]
  rw [munchEnclosed, hd, ht]

theorem munchEnclosed_taken_append {flaw : Flaw} {opening closing : Char}
    (hf : flaw = .openBracket ∨ flaw = .openString)
    (h : (munchEnclosed flaw opening closing cs).StopsAt rest) :
    ∃ body, (munchEnclosed flaw opening closing cs).taken = opening :: body ∧
      munchEnclosed flaw opening closing (body ++ rest) =
        { munchEnclosed flaw opening closing cs with rest } := by
  by_cases hmem : closing ∈ cs
  · obtain ⟨body, more, rfl, hbody⟩ := List.eq_append_cons_of_mem hmem
    rw [munchEnclosed_append_cons flaw opening hbody]
    refine ⟨body ++ [closing], rfl, ?_⟩
    rw [List.append_assoc]
    exact munchEnclosed_append_cons flaw opening hbody rest
  · rw [munchEnclosed_of_not_mem flaw opening hmem] at h ⊢
    have hrest : rest = [] := h.eq_nil rfl (by rcases hf with rfl | rfl <;> rfl)
    refine ⟨cs, rfl, ?_⟩
    rw [hrest, List.append_nil]
    exact munchEnclosed_of_not_mem flaw opening hmem

theorem munchEnclosed_rest_eq_nil {flaw : Flaw} {opening closing : Char}
    (h : (munchEnclosed flaw opening closing cs).isOpen = true) :
    (munchEnclosed flaw opening closing cs).rest = [] := by
  by_cases hmem : closing ∈ cs
  · obtain ⟨body, more, rfl, hbody⟩ := List.eq_append_cons_of_mem hmem
    rw [munchEnclosed_append_cons flaw opening hbody] at h
    cases h
  · rw [munchEnclosed_of_not_mem flaw opening hmem]

theorem pair?_eq_none_of_isSpace (c : Char) {d : Char} (h : Text.isSpace d = true) :
    pair? c d = none := by
  have htable : ∀ p ∈ pairs, Text.isSpace p.2.1 = false := by decide
  rw [pair?, Option.map_eq_none_iff, List.find?_eq_none]
  intro p hp hcd
  rw [Bool.and_eq_true, beq_iff_eq, beq_iff_eq] at hcd
  rw [← hcd.2, htable p hp] at h
  cases h

theorem munchOperator_of_pair?_eq_none
    (h : ∀ d, rest.head? = some d → pair? c d = none) :
    munchOperator (c :: rest) = ⟨singleKind c, [c], rest, []⟩ := by
  cases rest with
  | nil => rfl
  | cons d rest => rw [munchOperator, h d rfl]

theorem munchOperator_taken_append (h : (munchOperator (c :: cs)).StopsAt rest) :
    munchOperator ((munchOperator (c :: cs)).taken ++ rest) =
      { munchOperator (c :: cs) with rest } := by
  have hhead := h.head?
  by_cases hpair : ∀ d, cs.head? = some d → pair? c d = none
  · rw [munchOperator_of_pair?_eq_none hpair] at hhead ⊢
    refine munchOperator_of_pair?_eq_none fun d hd => ?_
    rcases hhead d hd with h' | h'
    · exact hpair d h'
    · exact pair?_eq_none_of_isSpace c h'
  · cases cs with
    | nil => exact absurd (fun d hd => by cases hd) hpair
    | cons d cs =>
      cases hop : pair? c d with
      | none => exact absurd (fun e he => by rw [← Option.some.inj he, hop]) hpair
      | some op => simp only [munchOperator, hop, List.cons_append, List.nil_append]

/-- **A rule looks one character ahead**: from any text that starts with the piece that it took and
goes on where the piece stops, it takes the same piece. -/
theorem Rule.munch_taken_append (hm : m = r.munch functions before (c :: cs))
    (h : m.StopsAt rest) : r.munch functions before (m.taken ++ rest) = { m with rest } := by
  subst hm
  cases r with
  | number => exact munchNumber_taken_append h
  | comma => rfl
  | bracket =>
    obtain ⟨body, ht, heq⟩ := munchEnclosed_taken_append (.inl rfl) h
    simp only [Rule.munch, munchBracket, ht, List.cons_append, heq]
  | word =>
    obtain ⟨ht, hd⟩ := takeWhile_dropWhile_append
      (fun d hd => (Text.not_isClass_of_isSpace hd).2.2) h.head?
    simp only [Rule.munch, munchWord, ht, hd]
  | string =>
    obtain ⟨body, ht, heq⟩ := munchEnclosed_taken_append (.inr rfl) h
    simp only [Rule.munch, munchString, ht, List.cons_append, heq]
  | operator => exact munchOperator_taken_append h

/-- A literal that is not closed takes all there is. -/
theorem Rule.rest_eq_nil_of_isOpen (hm : m = r.munch functions before (c :: cs))
    (h : m.isOpen = true) : m.rest = [] := by
  subst hm
  have hflaw : .openBracket ∈ (r.munch functions before (c :: cs)).flaws ∨
      .openString ∈ (r.munch functions before (c :: cs)).flaws := by
    simpa [Munch.isOpen] using h
  -- only the rules for enclosed pieces find this flaw
  cases r with
  | number =>
    rcases hflaw with hf | hf <;> rcases mem_munchNumber_flaws hf with h' | h' <;> cases h'
  | comma => rcases hflaw with hf | hf <;> cases hf
  | bracket => exact munchEnclosed_rest_eq_nil h
  | word =>
    simp only [Rule.munch, munchWord, wordFlaws] at hflaw
    split at hflaw
    · rcases hflaw with hf | hf <;>
        rcases mem_accessorFlaws hf with ⟨h', -⟩ | ⟨_, _, h', -⟩ <;> cases h'
    · simp at hflaw
  | string => exact munchEnclosed_rest_eq_nil h
  | operator =>
    rcases cs with _ | ⟨d, cs⟩
    · rcases hflaw with hf | hf <;> cases hf
    · simp only [Rule.munch, munchOperator] at hflaw
      split at hflaw <;> simp at hflaw

/-! ### Runs -/

/-- A run over a text that starts with a token and goes on where the token stops has that token
first. -/
theorem Run.token_of_stopsAt {offset : Nat} {blanks : List Char} {ls : List Lexeme}
    (hb : ∀ c ∈ blanks, Text.isSpace c = true)
    (hc : Text.isSpace c = false) (hm : m = (Rule.ofChar c).munch functions [] (c :: cs))
    (hrest : m.StopsAt rest)
    (next : Run functions (offset + Text.byteLength blanks + Text.byteLength m.taken) rest ls) :
    Run functions offset (blanks ++ (m.taken ++ rest))
      (m.lexeme (offset + Text.byteLength blanks) :: ls) := by
  have hmunch := Rule.munch_taken_append hm hrest
  obtain ⟨more, hmore⟩ := Munch.exists_taken_eq hm
  have hcons : m.taken ++ rest = c :: (more ++ rest) := by rw [hmore, List.cons_append]
  rw [hcons] at hmunch ⊢
  exact .token (m := { m with rest }) hb hc hmunch.symm next

end ExprScan
