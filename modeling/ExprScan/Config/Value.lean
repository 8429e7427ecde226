/-!
# Values of a configuration

A configuration is read from a notation for data. Settings are decoded from a value without regard
to the notation, up to two points in which notations differ (`Dialect`).
-/

namespace ExprScan.Config

/-- A value of a configuration. -/
inductive Value where
  /-- The absence of a value, where the notation can say so. -/
  | null
  /-- A truth value. -/
  | bool (b : Bool)
  /-- A number. No setting is one, so that its size does not matter. -/
  | number
  /-- A text. -/
  | text (s : String)
  /-- A date, a time of day or both. No setting is one, so that it does not matter which. -/
  | date
  /-- A list of values. -/
  | list (items : List Value)
  /-- Named values, each name once. -/
  | table (entries : List (String × Value))
  deriving Inhabited

/-- Whether a list or a table has nothing in it. -/
def Value.isEmpty : Value → Bool
  | .list [] => true
  | .table [] => true
  | _ => false

/-- The points in which notations differ. -/
structure Dialect where
  /-- Whether a record written as a list may have more items than fields. -/
  spareItems : Bool
  /-- Whether a value stands for nothing. -/
  isNothing : Value → Bool

/-- Data in which nothing is written `null`. -/
def Dialect.strict : Dialect where
  spareItems := false
  isNothing
    | .null => true
    | _ => false

/-- Data without `null`, in which nothing is written as an empty list or table. -/
def Dialect.lenient : Dialect where
  spareItems := true
  isNothing := Value.isEmpty

end ExprScan.Config
