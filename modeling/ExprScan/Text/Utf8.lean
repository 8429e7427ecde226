/-!
# Text measured in bytes

Offsets count bytes of UTF-8, while scanning goes character by character. This module ties the
two together: the number of bytes that characters take, and the slice of a text between two byte
offsets, which exists only where both offsets are character boundaries.

Main statements: byte `n` is a boundary if the text falls into two parts of which the first takes
`n` bytes (`isBoundary_iff`), and a slice is the middle part of a decomposition in three
(`slice?_eq_some_iff`).
-/

namespace ExprScan.Text

/-! ### Length -/

/-- The number of bytes that characters take in UTF-8. -/
def byteLength : List Char → Nat
  | [] => 0
  | c :: cs => c.utf8Size + byteLength cs

@[simp] theorem byteLength_nil : byteLength [] = 0 := rfl

@[simp] theorem byteLength_cons (c : Char) (cs : List Char) :
    byteLength (c :: cs) = c.utf8Size + byteLength cs := rfl

@[simp] theorem byteLength_append (as bs : List Char) :
    byteLength (as ++ bs) = byteLength as + byteLength bs := by
  induction as with
  | nil => simp
  | cons c cs ih => simp [ih, Nat.add_assoc]

@[simp] theorem byteLength_reverse (cs : List Char) : byteLength cs.reverse = byteLength cs := by
  induction cs with
  | nil => rfl
  | cons c cs ih => simp [ih, Nat.add_comm]

theorem byteLength_eq_zero_iff {cs : List Char} : byteLength cs = 0 ↔ cs = [] := by
  cases cs with
  | nil => simp
  | cons c cs => have := c.utf8Size_pos; simp; omega

/-- The number of bytes of a string. -/
def size (s : String) : Nat := s.utf8ByteSize

theorem size_append (s t : String) : size (s ++ t) = size s + size t :=
  String.utf8ByteSize_append

@[simp] theorem size_ofList (cs : List Char) : size (String.ofList cs) = byteLength cs := by
  induction cs with
  | nil => rfl
  | cons c cs ih =>
    have h : String.ofList (c :: cs) = String.singleton c ++ String.ofList cs := by
      rw [← String.toList_inj]
      simp
    rw [h, size_append, ih, byteLength_cons]
    exact congrArg (· + byteLength cs) (String.utf8ByteSize_singleton ..)

theorem byteLength_toList (s : String) : byteLength s.toList = size s := by
  rw [← size_ofList, String.ofList_toList]

/-! ### Cutting -/

/-- Whether byte `n` is a character boundary of a text, its two ends included. -/
def isBoundary (s : String) (n : Nat) : Bool := String.Pos.Raw.isValid s ⟨n⟩

/-- A boundary cuts the text into two parts, of which the first takes the given number of bytes. -/
theorem isBoundary_iff {s : String} {n : Nat} :
    isBoundary s n = true ↔ ∃ before after, s = before ++ after ∧ size before = n := by
  rw [isBoundary, String.Pos.Raw.isValid_eq_true_iff, String.Pos.Raw.isValid_iff_exists_append]
  simp only [String.Pos.Raw.ext_iff, size, eq_comm, String.byteIdx_rawEndPos]

/-- A boundary as a position in the text. -/
def boundary (s : String) (n : Nat) (h : isBoundary s n = true) : s.Pos :=
  ⟨⟨n⟩, String.Pos.Raw.isValid_eq_true_iff.1 h⟩

/-- The text between two byte offsets, if `start ≤ stop` and both are boundaries. -/
def slice? (s : String) (start stop : Nat) : Option String :=
  if h : start ≤ stop ∧ isBoundary s start ∧ isBoundary s stop then
    some (s.extract (boundary s start h.2.1) (boundary s stop h.2.2))
  else
    none

/-- The middle one of three parts is the slice between its ends. -/
theorem slice?_append (before piece after : String) :
    slice? (before ++ (piece ++ after)) (size before) (size before + size piece) = some piece := by
  have h₁ : isBoundary (before ++ (piece ++ after)) (size before) :=
    isBoundary_iff.2 ⟨before, piece ++ after, rfl, rfl⟩
  have h₂ : isBoundary (before ++ (piece ++ after)) (size before + size piece) :=
    isBoundary_iff.2 ⟨before ++ piece, after, by rw [String.append_assoc], size_append _ _⟩
  rw [slice?, dif_pos ⟨Nat.le_add_right _ _, h₁, h₂⟩]
  congr 1
  rw [← String.toByteArray_inj, String.toByteArray_extract, String.toByteArray_append,
    String.toByteArray_append]
  have h := ByteArray.extract_append_size_add (a := before.toByteArray)
    (b := piece.toByteArray ++ after.toByteArray) (i := 0) (j := piece.toByteArray.size)
  exact h.trans (ByteArray.extract_append_eq_left rfl)

/-- A slice is the middle part of a decomposition of the text. -/
theorem slice?_eq_some_iff {s piece : String} {start stop : Nat} :
    slice? s start stop = some piece ↔
      ∃ before after, s = before ++ (piece ++ after) ∧ size before = start ∧
        start + size piece = stop := by
  constructor
  · intro h
    have hs : start ≤ stop ∧ isBoundary s start ∧ isBoundary s stop := by
      rw [slice?] at h
      split at h
      · assumption
      · cases h
    obtain ⟨hle, h₁, h₂⟩ := hs
    obtain ⟨before, rest, rfl, rfl⟩ := isBoundary_iff.1 h₁
    obtain ⟨upTo, after, he, rfl⟩ := isBoundary_iff.1 h₂
    have hp : (boundary _ _ h₁).Splits before rest := ⟨rfl, rfl⟩
    have hq : (boundary _ _ h₂).Splits upTo after := ⟨he, rfl⟩
    obtain ⟨middle, rfl, rfl⟩ := (hp.le_iff_exists_eq_append hq).1 hle
    rw [size_append, slice?_append] at h
    cases h
    exact ⟨before, after, rfl, rfl, (size_append _ _).symm⟩
  · rintro ⟨before, after, rfl, rfl, rfl⟩
    exact slice?_append before piece after

/-- There is no slice if the offsets are not in order, or if one of them is no boundary. -/
theorem slice?_eq_none_iff {s : String} {start stop : Nat} :
    slice? s start stop = none ↔
      ¬ (start ≤ stop ∧ isBoundary s start = true ∧ isBoundary s stop = true) := by
  rw [slice?]
  split
  · rename_i h
    simp [h]
  · rename_i h
    exact iff_of_true rfl h

/-- A slice lies within the text and between two boundaries. -/
theorem bounds_of_slice? {s piece : String} {start stop : Nat}
    (h : slice? s start stop = some piece) :
    start + size piece = stop ∧ stop ≤ size s ∧ isBoundary s start = true ∧
      isBoundary s stop = true := by
  obtain ⟨before, after, rfl, rfl, rfl⟩ := slice?_eq_some_iff.1 h
  refine ⟨rfl, ?_, isBoundary_iff.2 ⟨before, piece ++ after, rfl, rfl⟩,
    isBoundary_iff.2 ⟨before ++ piece, after, ?_, size_append _ _⟩⟩
  · rw [size_append, size_append]
    omega
  · rw [String.append_assoc]

/-! ### Cutting by characters -/

theorem isBoundary_of_toList {s : String} {before after : List Char}
    (h : s.toList = before ++ after) : isBoundary s (byteLength before) = true := by
  refine isBoundary_iff.2 ⟨String.ofList before, String.ofList after, ?_, size_ofList before⟩
  rw [← String.toList_inj, h]
  simp

theorem exists_toList_eq_of_isBoundary {s : String} {n : Nat} (h : isBoundary s n = true) :
    ∃ before after, s.toList = before ++ after ∧ byteLength before = n := by
  obtain ⟨before, after, rfl, rfl⟩ := isBoundary_iff.1 h
  exact ⟨before.toList, after.toList, String.toList_append, byteLength_toList before⟩

theorem slice?_of_toList {s : String} {before piece after : List Char}
    (h : s.toList = before ++ (piece ++ after)) :
    slice? s (byteLength before) (byteLength before + byteLength piece) =
      some (String.ofList piece) := by
  refine slice?_eq_some_iff.2 ⟨String.ofList before, String.ofList after, ?_, size_ofList before, ?_⟩
  · rw [← String.toList_inj, h]
    simp
  · rw [size_ofList]

/-- Of two fronts of a text, the one with fewer bytes is a front of the other. -/
theorem exists_eq_append_of_byteLength_le {front rest front' rest' : List Char}
    (h : front ++ rest = front' ++ rest') (hle : byteLength front ≤ byteLength front') :
    ∃ more, front' = front ++ more ∧ rest = more ++ rest' := by
  rcases List.append_eq_append_iff.1 h with ⟨more, hfront, hrest⟩ | ⟨more, rfl, rfl⟩
  · exact ⟨more, hfront, hrest⟩
  · rw [byteLength_append] at hle
    obtain rfl : more = [] := byteLength_eq_zero_iff.1 (by omega)
    exact ⟨[], by simp, by simp⟩

end ExprScan.Text
