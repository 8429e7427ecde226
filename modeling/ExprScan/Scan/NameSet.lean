/-!
# Sets of names

The names of functions form a finite set. A set is kept as the list of its members in increasing
order, each once.

Main statement: sets with the same members are equal (`NameSet.ext_mem`).
-/

namespace ExprScan

/-- Puts a name into an increasing list, unless it is there already. -/
def insertName (n : String) : List String → List String
  | [] => [n]
  | m :: ms =>
    if n < m then n :: m :: ms
    else if n = m then m :: ms
    else m :: insertName n ms

theorem mem_insertName {n x : String} {ms : List String} :
    x ∈ insertName n ms ↔ x = n ∨ x ∈ ms := by
  induction ms with
  | nil => simp [insertName]
  | cons m ms ih =>
    rw [insertName]
    split
    · simp
    · split
      · rename_i h; subst h; simp
      · simp only [List.mem_cons, ih]; grind

theorem pairwise_insertName {n : String} {ms : List String} (h : ms.Pairwise (· < ·)) :
    (insertName n ms).Pairwise (· < ·) := by
  induction ms with
  | nil => simp [insertName]
  | cons m ms ih =>
    obtain ⟨hm, hms⟩ := List.pairwise_cons.1 h
    rw [insertName]
    split
    · rename_i hn
      refine List.pairwise_cons.2 ⟨fun x hx => ?_, h⟩
      rcases List.mem_cons.1 hx with rfl | hx
      · exact hn
      · exact String.lt_trans hn (hm x hx)
    · split
      · exact h
      · rename_i hn hne
        refine List.pairwise_cons.2 ⟨fun x hx => ?_, ih hms⟩
        rcases mem_insertName.1 hx with rfl | hx
        · exact Std.lt_of_le_of_ne (String.not_lt.1 hn) (Ne.symm hne)
        · exact hm x hx

/-- An increasing list is determined by its members. -/
theorem eq_of_pairwise_lt {as bs : List String} (ha : as.Pairwise (· < ·))
    (hb : bs.Pairwise (· < ·)) (h : ∀ x, x ∈ as ↔ x ∈ bs) : as = bs := by
  induction as generalizing bs with
  | nil =>
    cases bs with
    | nil => rfl
    | cons b bs => exact absurd ((h b).2 List.mem_cons_self) List.not_mem_nil
  | cons a as ih =>
    cases bs with
    | nil => exact absurd ((h a).1 List.mem_cons_self) List.not_mem_nil
    | cons b bs =>
      obtain ⟨ha₁, ha₂⟩ := List.pairwise_cons.1 ha
      obtain ⟨hb₁, hb₂⟩ := List.pairwise_cons.1 hb
      have hab : a = b := by
        rcases List.mem_cons.1 ((h a).1 List.mem_cons_self) with h₁ | h₁
        · exact h₁
        · rcases List.mem_cons.1 ((h b).2 List.mem_cons_self) with h₂ | h₂
          · exact h₂.symm
          · exact absurd (String.lt_trans (hb₁ a h₁) (ha₁ b h₂)) (String.lt_irrefl b)
      subst hab
      refine congrArg (a :: ·) (ih ha₂ hb₂ fun x => ⟨fun hx => ?_, fun hx => ?_⟩)
      · rcases List.mem_cons.1 ((h x).1 (List.mem_cons_of_mem a hx)) with rfl | hx'
        · exact absurd (ha₁ x hx) (String.lt_irrefl x)
        · exact hx'
      · rcases List.mem_cons.1 ((h x).2 (List.mem_cons_of_mem a hx)) with rfl | hx'
        · exact absurd (hb₁ x hx) (String.lt_irrefl x)
        · exact hx'

/-- A finite set of names. -/
structure NameSet where
  /-- The members in increasing order. -/
  names : List String
  /-- The order is strict. -/
  increasing : names.Pairwise (· < ·)
  deriving DecidableEq, Repr

namespace NameSet

/-- The set without members. -/
def empty : NameSet := ⟨[], List.Pairwise.nil⟩

instance : Inhabited NameSet := ⟨empty⟩

/-- Whether a name is a member. -/
def contains (s : NameSet) (n : String) : Bool := s.names.contains n

/-- The set with one more member. -/
def insert (s : NameSet) (n : String) : NameSet :=
  ⟨insertName n s.names, pairwise_insertName s.increasing⟩

/-- The set of the names in a list. -/
def ofList (ns : List String) : NameSet := ns.foldl insert empty

/-- Sets with the same members are equal. -/
theorem ext_mem {s t : NameSet} (h : ∀ x, x ∈ s.names ↔ x ∈ t.names) : s = t := by
  obtain ⟨as, ha⟩ := s
  obtain ⟨bs, hb⟩ := t
  obtain rfl := eq_of_pairwise_lt ha hb h
  rfl

theorem mem_names_insert {s : NameSet} {n x : String} :
    x ∈ (s.insert n).names ↔ x = n ∨ x ∈ s.names := mem_insertName

end NameSet

end ExprScan
