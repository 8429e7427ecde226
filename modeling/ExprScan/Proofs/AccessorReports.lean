import ExprScan.Proofs.Reports
import ExprScan.Proofs.SessionSafety

/-!
# Reports of accessors

An accessor is a path through fields, with dots between them. It is reported if it ends in a dot,
and for each field that is not exported. The scanner finds the place of a field by counting bytes
while it goes from dot to dot. Here the reports are written down from the text of the accessor as a
whole: it is split at its dots, and a field stands behind all that was split off before it.

Main statement: `Session.nextToken_accessor`, for the next token of any session.
-/

namespace ExprScan

/-! ### Fields -/

/-- A field of an accessor. -/
structure Field where
  /-- What stands in the accessor before the dot of the field. -/
  front : List Char
  /-- The name of the field, which follows its dot and goes on to the next dot or to the end. -/
  name : List Char
  deriving DecidableEq, Repr

/-- The fields of an accessor: all segments between its dots but for the first. -/
def fieldsOf (text : List Char) : List Field :=
  (text.splitOn '.').tail.mapIdx fun i name =>
    ⟨['.'].intercalate ((text.splitOn '.').take (i + 1)), name⟩

namespace Field

/-- Whether the field has a name that does not start with its own upper-case form. -/
def isHidden (f : Field) : Bool := f.name.head?.any fun c => !Text.isOwnUppercase c

/-- The byte of the accessor at which the name starts, just after its dot. -/
def place (f : Field) : Nat := Text.byteLength f.front + 1

/-- The bytes of the name, for an accessor at an offset. -/
def span (f : Field) (offset : Nat) : Span :=
  ⟨offset + f.place, offset + f.place + Text.byteLength f.name⟩

/-- The report that the field of an accessor is not exported. -/
def report (f : Field) (t : Token) : Diagnostic where
  level := .error
  message := "unable to access unexported field '" ++ String.ofList f.name ++ "' in token '" ++
    t.text ++ "'"
  span := f.span t.offset
  code := some .unexportedField
  helps := ["exported fields start with an upper-case letter"]

end Field

/-- The report that an accessor ends in a dot. -/
def Token.hangingReport (t : Token) : Diagnostic where
  level := .error
  message := "hanging accessor on token `" ++ t.text ++ "`"
  span := ⟨t.offset, t.offset + t.size⟩
  code := some .hangingAccessor
  helps := ["remove the trailing `.` or name a field after it"]

/-- The reports of an accessor: the dot at its end, then the fields that are not exported. -/
def Token.accessorReports (t : Token) : List Diagnostic :=
  (if t.text.toList.getLast? = some '.' then [t.hangingReport] else []) ++
    ((fieldsOf t.text.toList).filter (·.isHidden)).map (·.report t)

/-! ### Counting from dot to dot -/

theorem segments_eq_splitOn (text : List Char) : segments text = text.splitOn '.' := by
  induction text with
  | nil => rfl
  | cons c cs ih =>
    rw [segments, ih, List.splitOn_cons_eq_if_modifyHead]
    split
    · rfl
    · cases h : cs.splitOn '.' with
      | nil => exact absurd h (List.splitOn_ne_nil _ _)
      | cons s ss => rfl

/-- The fields that follow a text, each behind the ones before it. -/
def fieldsAfter (front : List Char) : List (List Char) → List Field
  | [] => []
  | s :: ss => ⟨front, s⟩ :: fieldsAfter (front ++ '.' :: s) ss

theorem intercalate_concat {segs : List (List Char)} (hne : segs ≠ []) (s : List Char) :
    ['.'].intercalate (segs ++ [s]) = ['.'].intercalate segs ++ '.' :: s := by
  induction segs with
  | nil => exact absurd rfl hne
  | cons s' segs ih =>
    cases segs with
    | nil => simp
    | cons s'' segs => simpa using ih (List.cons_ne_nil _ _)

/-- Numbering the fields is going from one to the next. -/
theorem mapIdx_eq_fieldsAfter {segs : List (List Char)} (hne : segs ≠ [])
    (more : List (List Char)) :
    (more.mapIdx fun i name => (⟨['.'].intercalate (segs ++ more.take i), name⟩ : Field)) =
      fieldsAfter (['.'].intercalate segs) more := by
  induction more generalizing segs with
  | nil => rfl
  | cons s more ih =>
    have htail := ih (List.append_ne_nil_of_right_ne_nil segs (List.cons_ne_nil s []))
    rw [intercalate_concat hne] at htail
    rw [fieldsAfter, ← htail, List.mapIdx_cons]
    simp

theorem fieldsOf_eq_fieldsAfter {text first : List Char} {more : List (List Char)}
    (h : segments text = first :: more) : fieldsOf text = fieldsAfter first more := by
  rw [segments_eq_splitOn] at h
  rw [fieldsOf, h]
  simpa using mapIdx_eq_fieldsAfter (List.cons_ne_nil first []) more

theorem Field.isHidden_eq (f : Field) : f.isHidden = !isExported f.name := by
  obtain ⟨front, name⟩ := f
  cases name <;> rfl

/-- The flaw of a field that is not exported. -/
def Field.flaw (f : Field) : Flaw :=
  .hiddenField f.place (String.ofList f.name)

/-- The count of bytes finds each field at its place. -/
theorem hiddenFields_eq (front : List Char) (ss : List (List Char)) :
    hiddenFields (Text.byteLength front + 1) ss =
      ((fieldsAfter front ss).filter (·.isHidden)).map (·.flaw) := by
  induction ss generalizing front with
  | nil => rfl
  | cons s ss ih =>
    rw [hiddenFields, byteLength_append_dot, ih, fieldsAfter, List.filter_cons, Field.isHidden_eq]
    cases isExported s <;> rfl

theorem accessorFlaws_eq (text : List Char) :
    accessorFlaws text = (if text.getLast? = some '.' then [.hangingDot] else []) ++
      ((fieldsOf text).filter (·.isHidden)).map (·.flaw) := by
  obtain ⟨first, more, hs, -⟩ := segments_eq_cons text
  rw [accessorFlaws, hs, fieldsOf_eq_fieldsAfter hs]
  exact congrArg _ (hiddenFields_eq first more)

theorem Field.diagnostic_flaw (f : Field) (t : Token) :
    f.flaw.diagnostic t.offset t.text = f.report t := by
  have hspan : f.flaw.span t.offset t.text = f.span t.offset := by
    rw [Field.flaw, Flaw.span, Field.span, Text.size_ofList]
  rw [Flaw.diagnostic, hspan]
  rfl

/-- What an accessor reports can be written down from its text. -/
theorem Token.reports_eq_accessorReports {t : Token} (h : t.kind = .accessor) :
    t.reports = t.accessorReports := by
  have hflaws : flawsOf t.kind t.text.toList = accessorFlaws t.text.toList := by rw [h]; rfl
  rw [Token.reports, hflaws, accessorFlaws_eq, List.map_append, List.map_map, Token.accessorReports]
  congr 1
  · split <;> rfl
  · exact List.map_congr_left fun f _ => f.diagnostic_flaw t

/-! ### Fields in the source -/

/-- `StandsIn source t s segment`: the span `s` is that of a segment of the accessor `t` behind a
dot. -/
structure StandsIn (source : String) (t : Token) (s : Span) (segment : String) : Prop where
  /-- The span cuts the segment out of the source. -/
  text : Text.slice? source s.start s.stop = some segment
  /-- A dot stands before the segment. -/
  dot : Text.slice? source (s.start - 1) s.start = some "."
  /-- The dot belongs to the accessor. -/
  offset_lt : t.offset < s.start
  /-- The accessor ends with the segment, or another dot follows, which belongs to it too. -/
  next : s.stop = t.offset + t.size ∨
    s.stop < t.offset + t.size ∧ Text.slice? source s.stop (s.stop + 1) = some "."

theorem HiddenAt.standsIn {source : String} {before after : List Char} {t : Token} {place : Nat}
    {field : List Char} (h : HiddenAt t.text.toList place field)
    (hs : source.toList = before ++ (t.text.toList ++ after))
    (ho : Text.byteLength before = t.offset) :
    StandsIn source t ⟨t.offset + place, t.offset + place + Text.byteLength field⟩
      (String.ofList field) := by
  obtain ⟨front, back, ht, rfl, hback⟩ := h.stands
  have hdot : source.toList = (before ++ front) ++ (['.'] ++ (field ++ (back ++ after))) := by
    rw [hs, ht]
    simp
  have hfield : source.toList = (before ++ front ++ ['.']) ++ (field ++ (back ++ after)) := by
    rw [hdot]
    simp
  have hstart : Text.byteLength (before ++ front ++ ['.']) =
      t.offset + (Text.byteLength front + 1) := by
    simp [ho, utf8Size_dot]
  have hsize : t.size =
      Text.byteLength front + 1 + Text.byteLength field + Text.byteLength back := by
    rw [Token.size, ← Text.byteLength_toList, ht]
    simp [utf8Size_dot, Nat.add_assoc]
  refine ⟨?_, ?_, ?_, ?_⟩
  · rw [← hstart]
    exact Text.slice?_of_toList hfield
  · have hslice := Text.slice?_of_toList hdot
    rw [← Text.byteLength_append, hstart, Text.byteLength_append, ho] at hslice
    exact hslice
  · dsimp only
    omega
  · rcases hback with rfl | hback
    · refine .inl ?_
      rw [hsize, Text.byteLength_nil]
      dsimp only
      omega
    · obtain ⟨more, rfl⟩ := List.head?_eq_some_iff.1 hback
      have hnext : source.toList =
          (before ++ front ++ ['.'] ++ field) ++ (['.'] ++ (more ++ after)) := by
        rw [hfield]
        simp
      have hslice := Text.slice?_of_toList hnext
      rw [Text.byteLength_append _ field, hstart] at hslice
      refine .inr ⟨?_, hslice⟩
      rw [hsize, Text.byteLength_cons, utf8Size_dot]
      dsimp only
      omega

/-- Every report of a field is about a segment of the accessor behind a dot. -/
theorem Field.standsIn {source : String} {before after : List Char} {t : Token} {f : Field}
    (hf : f ∈ fieldsOf t.text.toList) (hh : f.isHidden = true)
    (hs : source.toList = before ++ (t.text.toList ++ after))
    (ho : Text.byteLength before = t.offset) :
    StandsIn source t (f.span t.offset) (String.ofList f.name) := by
  have hmem : f.flaw ∈ accessorFlaws t.text.toList := by
    rw [accessorFlaws_eq, List.mem_append]
    exact .inr (List.mem_map_of_mem (List.mem_filter.2 ⟨hf, hh⟩))
  rcases mem_accessorFlaws hmem with ⟨hflaw, -⟩ | ⟨place, field, hflaw, hfield⟩
  · cases hflaw
  · obtain ⟨rfl, hname⟩ := Flaw.hiddenField.inj hflaw
    obtain rfl := String.ofList_injective hname
    exact hfield.standsIn hs ho

/-! ### The next token -/

namespace Session

variable {s : Session} {before token rest : List Char}

/-- The next token stands in the source, and its reports go to the collector. -/
theorem Cuts.exists_nextToken (h : s.Cuts before token rest) :
    ∃ t s', s.nextToken = .ok (t, s') ∧ s'.sink = s.sink.map (·.emitAll t.reports) ∧
      ∃ front back, s.cursor.source.toList = front ++ (t.text.toList ++ back) ∧
        Text.byteLength front = t.offset := by
  have hstart := h.startToken
  cases hr : rest.dropWhile Text.isSpace with
  | nil =>
    rw [hr] at hstart
    refine ⟨_, _, h.nextToken_of_nil hr, ?_, _, [], hstart.source, hstart.tokenStart.symm⟩
    exact (emitAll_nil s.sink).symm
  | cons c cs =>
    generalize hm : (Rule.ofChar c).munch s.functions [] (c :: cs) = m
    have hcuts := h.cuts_token hr hm.symm
    have hflaws : m.flaws = flawsOf m.kind m.taken := by
      rw [← hm]
      exact Rule.flaws_munch s.functions c cs
    refine ⟨_, _, h.nextToken_of_cons hr hm.symm, ?_, _, m.rest, ?_, hcuts.tokenStart.symm⟩
    · show s.sink.map (·.emitAll (m.reports s.startToken.tokenStart [])) = _
      rw [Munch.reports, hflaws, Token.reports, Munch.lexeme, String.toList_ofList]
      rfl
    · rw [Munch.lexeme, String.toList_ofList]
      exact hcuts.source

/-- **Reports of accessors**: whatever was done with a session on a text, if the next token is an
accessor, then a collector gets the report of the dot at its end, if there is one, and a report for
each field that is not exported, in the order of the fields and nothing else. Each of the latter is
about the bytes of a segment that stands in the source behind a dot and goes on to the next dot or
to the end of the token. -/
theorem nextToken_accessor (source : String) (functions : NameSet) (sink : Option Collector)
    (actions : List Action) :
    ∃ s t s', performAll ⟨.ofString source, 0, functions, sink⟩ actions = .ok s ∧
      s.nextToken = .ok (t, s') ∧
      (t.kind = .accessor →
        (∀ collector, s.sink = some collector →
          ∃ collector', s'.sink = some collector' ∧
            collector'.held = collector.held ++ t.accessorReports) ∧
        ∀ f ∈ fieldsOf t.text.toList, f.isHidden = true →
          StandsIn source t (f.span t.offset) (String.ofList f.name)) := by
  have hfirst : InOrder ⟨.ofString source, 0, functions, sink⟩ :=
    ⟨[], [], source.toList, rfl, rfl, rfl⟩
  obtain ⟨s, hall, ⟨before, token, rest, hcuts⟩, hsource⟩ := hfirst.performAll actions
  obtain ⟨t, s', hnext, hsink, front, back, hs, ho⟩ := hcuts.exists_nextToken
  refine ⟨s, t, s', hall, hnext, fun hkind => ⟨fun collector hc => ?_, fun f hf hh => ?_⟩⟩
  · rw [hc, t.reports_eq_accessorReports hkind] at hsink
    exact ⟨_, hsink, Collector.held_emitAll _ _⟩
  · rw [hsource] at hs
    exact Field.standsIn hf hh hs ho

/-- For instance, with two dots in a row, a field outside ASCII and a dot at the end. -/
example : (nextToken ⟨.ofString "  a..b.C.é. ", 0, .empty, some .empty⟩).toOption.map
    (fun r => (r.1, (r.2.sink.getD .empty).held.map fun d => (d.code, d.span))) =
      some (⟨.accessor, "a..b.C.é.", 2⟩, [(some .hangingAccessor, ⟨2, 12⟩),
        (some .unexportedField, ⟨5, 6⟩), (some .unexportedField, ⟨9, 11⟩)]) := by
  decide +kernel

end Session

end ExprScan
