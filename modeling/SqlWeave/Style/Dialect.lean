import SqlWeave.Text.Blank
import SqlWeave.Text.Search

/-!
# Dialects

The five SQL dialects that statements are written in, how a driver's name picks one, and the
comparison operators that each knows.
-/

namespace SqlWeave

/-- A dialect of SQL. -/
inductive Dialect where
  | ansi
  | mysql
  | postgres
  | sqlServer
  | sqlite
  deriving DecidableEq, Repr, Inhabited

namespace Dialect

/-! ## Drivers -/

/-- The name of a dialect's usual driver. -/
def driverName : Dialect → String
  | .ansi => "ansi"
  | .mysql => "mysql"
  | .postgres => "pgsql"
  | .sqlServer => "sqlsrv"
  | .sqlite => "sqlite"

/-- The dialect that a driver speaks.  Blanks around the name and its case do not count, and an
unknown driver is taken to speak ANSI. -/
def ofDriver (driver : String) : Dialect :=
  let name := Text.lower (Text.trim driver)
  if name = "mysql" ∨ name = "mariadb" then .mysql
  else if name = "pgsql" ∨ name = "postgres" ∨ name = "postgresql" then .postgres
  else if name = "sqlsrv" ∨ name = "mssql" ∨ name = "dblib" then .sqlServer
  else if name = "sqlite" then .sqlite
  else .ansi

/-! ## Operators -/

/-- The operators that every dialect knows. -/
def commonOperators : List String :=
  ["=", "<", ">", "<=", ">=", "<>", "!=", "<=>", "like", "like binary", "not like", "between",
    "ilike", "&", "|", "^", "<<", ">>", "rlike", "regexp", "not regexp", "~", "~*", "!~", "!~*",
    "similar to", "not similar to", "not ilike", "~~*", "!~~*"]

/-- The operators that a dialect knows beside the common ones. -/
def ownOperators : Dialect → List String
  | .ansi => []
  | .mysql => ["sounds like"]
  | .postgres =>
    ["#", "<<=", ">>=", "&&", "@>", "<@", "?", "?|", "?&", "||", "-", "#-", "@?", "@@"]
  | .sqlServer => ["!<", "!>", "&=", "|=", "^="]
  | .sqlite => ["glob", "match"]

/-- Whether a dialect knows an operator, in whatever case it is written. -/
def knows (d : Dialect) (operator : String) : Bool :=
  let name := Text.lower operator
  commonOperators.contains name || d.ownOperators.contains name

end Dialect

end SqlWeave
