import ExprScan.Config.Value

/-!
# Tables under construction

While a document is read, a table remembers how it came about, since that decides what may still
be added to it: a table with a header of its own is closed to dotted keys and to a second header, a
table made by dotted keys is closed to headers, and a table that is merely on the way to another
one waits for its header.
-/

namespace ExprScan.Toml

open Config

/-- How a table came about. -/
inductive Origin where
  /-- By a header of its own. -/
  | declared
  /-- By the header of a table within it. -/
  | implied
  /-- By a key with dots. -/
  | dotted
  deriving DecidableEq, Repr

/-- What a name in a table stands for. -/
inductive Node where
  /-- A value that is complete. -/
  | leaf (v : Value)
  /-- A table. -/
  | table (origin : Origin) (entries : List (String × Node))
  /-- Tables with the same header, the last first. -/
  | tables (items : List (List (String × Node)))

/-- The names of a table and what they stand for. -/
abbrev Entries := List (String × Node)

namespace Entries

/-- Replaces what a name stands for, or adds the name. -/
def put (es : Entries) (name : String) (node : Node) : Entries :=
  match es with
  | [] => [(name, node)]
  | (k, n) :: rest => if k == name then (k, node) :: rest else (k, n) :: put rest name node

/-- Gives a value to a key, the last part of which is `name`. On the way, dotted tables are made
where there is nothing. The table reached must be the one at the start or a dotted one, as `takes`
says, and the name must be new. -/
def assign (name : String) (v : Value) : (takes : Bool) → List String → Entries → Option Entries
  | takes, [], es =>
    if takes && (es.lookup name).isNone then some (es ++ [(name, .leaf v)]) else none
  | _, part :: parts, es =>
    match es.lookup part with
    | none => do return es.put part (.table .dotted (← assign name v true parts []))
    | some (.leaf _) => none
    | some (.tables []) => none
    | some (.tables (last :: others)) => do
      return es.put part (.tables ((← assign name v false parts last) :: others))
    | some (.table .declared _) => none
    | some (.table .implied inner) => do
      return es.put part (.table .implied (← assign name v false parts inner))
    | some (.table .dotted inner) => do
      return es.put part (.table .dotted (← assign name v true parts inner))

/-- Gives values to keys one after another. A key without parts is refused. -/
def assignAll (es : Entries) : List (List String × Value) → Option Entries
  | [] => some es
  | (key, v) :: rest =>
    match key.getLast? with
    | none => none
    | some name => do assignAll (← assign name v true key.dropLast es) rest

/-- Changes what the last part of a header stands for. On the way, tables are made where there is
nothing. -/
def atHeader (change : Option Node → Option Node) : List String → Entries → Option Entries
  | [], _ => none
  | [name], es => do return es.put name (← change (es.lookup name))
  | part :: parts, es =>
    match es.lookup part with
    | none => do return es.put part (.table .implied (← atHeader change parts []))
    | some (.leaf _) => none
    | some (.tables []) => none
    | some (.tables (last :: others)) => do
      return es.put part (.tables ((← atHeader change parts last) :: others))
    | some (.table origin inner) => do
      return es.put part (.table origin (← atHeader change parts inner))

end Entries

/-- The table under a header: new, or one that waits for its header. -/
def declare (assignments : List (List String × Value)) : Option Node → Option Node
  | none => do return .table .declared (← Entries.assignAll [] assignments)
  | some (.table .implied es) => do return .table .declared (← Entries.assignAll es assignments)
  | some _ => none

/-- One more table under the same header. -/
def declareNext (assignments : List (List String × Value)) : Option Node → Option Node
  | none => do return .tables [← Entries.assignAll [] assignments]
  | some (.tables items) => do return .tables ((← Entries.assignAll [] assignments) :: items)
  | some _ => none

mutual

/-- The value that a node is in the end. -/
def Node.toValue : Node → Value
  | .leaf v => v
  | .table _ entries => .table (entriesToValues entries)
  | .tables items => .list (itemsToValues items).reverse

/-- The values of a table. -/
def entriesToValues : List (String × Node) → List (String × Value)
  | [] => []
  | (k, n) :: rest => (k, n.toValue) :: entriesToValues rest

/-- The values of several tables. -/
def itemsToValues : List (List (String × Node)) → List Value
  | [] => []
  | es :: rest => .table (entriesToValues es) :: itemsToValues rest

end

end ExprScan.Toml
