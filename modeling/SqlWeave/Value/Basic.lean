import SqlWeave.Json.Basic
import SqlWeave.Value.Calendar
import SqlWeave.Value.Uuid

/-!
# Values

What a statement carries beside its text.  A `Value` is bound to a placeholder; a `Param` is either
a value or SQL text that stands in its place as it is.
-/

namespace SqlWeave

/-- A value bound to a placeholder. -/
inductive Value where
  | null
  | bool (value : Bool)
  | int (value : Int64)
  | uint (value : UInt64)
  | float (value : Double)
  | text (value : String)
  | bytes (value : List UInt8)
  | json (value : Json)
  | date (value : Date)
  | dateTime (value : DateTime)
  | uuid (value : Uuid)
  deriving Inhabited

/-- An operand: a bound value, or SQL text that is neither quoted nor bound. -/
inductive Param where
  | value (value : Value)
  | raw (sql : String)
  deriving Inhabited

namespace Value

/-- Whether this is the null value. -/
def isNull : Value → Bool
  | .null => true
  | _ => false

/-- The content of a text. -/
def asText? : Value → Option String
  | .text s => some s
  | _ => none

end Value

namespace Param

/-- The bound value, if there is one. -/
def value? : Param → Option Value
  | .value v => some v
  | .raw _ => none

/-- Whether this binds the null value. -/
def isNull : Param → Bool
  | .value v => v.isNull
  | .raw _ => false

/-- How the operand is written: a placeholder or the SQL text itself. -/
def sql : Param → String
  | .value _ => "?"
  | .raw sql => sql

/-- The operands of a list with commas between them. -/
def listSql (params : List Param) : String :=
  ", ".intercalate (params.map sql)

/-- The values that a list of operands binds. -/
def values (params : List Param) : List Value :=
  params.filterMap value?

end Param

end SqlWeave
