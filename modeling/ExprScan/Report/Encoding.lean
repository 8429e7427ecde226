import ExprScan.Json.Basic
import ExprScan.Report.Located

/-!
# Reports in JSON

The fields of reports and their order. A diagnostic without a code or without advice has no field
for it.
-/

namespace ExprScan

/-- A span as an object. -/
def Span.toJson (s : Span) : Json := .obj [("start", .num s.start), ("end", .num s.stop)]

/-- The fields of a diagnostic. -/
def Diagnostic.fields (d : Diagnostic) : List (String × Json) :=
  [("level", .str d.level.label), ("message", .str d.message), ("span", d.span.toJson)] ++
    d.code.toList.map (fun c => ("code", .str c.render)) ++
    if d.helps.isEmpty then [] else [("helps", .arr (d.helps.map .str))]

/-- A diagnostic as an object. -/
def Diagnostic.toJson (d : Diagnostic) : Json := .obj d.fields

/-- The fields of a place. -/
def Position.fields (p : Position) : List (String × Json) :=
  [("line", .num p.line), ("column", .num p.column)]

/-- A located diagnostic as an object. -/
def LocatedDiagnostic.toJson (d : LocatedDiagnostic) : Json :=
  .obj (d.diagnostic.fields ++ d.position.fields ++ [("text", .str d.text)])

/-- A located token as an object. -/
def LocatedToken.toJson (t : LocatedToken) : Json :=
  .obj ([("kind", .str t.token.kind.label), ("text", .str t.token.text),
    ("offset", .num t.token.offset), ("len", .num t.token.size)] ++ t.position.fields)

/-- The report of a check: the name of the source and the diagnostics. -/
def checkReport (source : String) (ds : List LocatedDiagnostic) : Json :=
  .obj [("source", .str source), ("diagnostics", .arr (ds.map (·.toJson)))]

/-- The report of a listing: the name of the source, the tokens and the diagnostics. -/
def listingReport (source : String) (ts : List LocatedToken) (ds : List LocatedDiagnostic) : Json :=
  .obj [("source", .str source), ("tokens", .arr (ts.map (·.toJson))),
    ("diagnostics", .arr (ds.map (·.toJson)))]

end ExprScan
