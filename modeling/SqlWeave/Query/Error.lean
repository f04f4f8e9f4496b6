import SqlWeave.Query.Clause
import SqlWeave.Style.Dialect
import SqlWeave.Text.Quoted

/-!
# Causes of refusal

Why a statement cannot be written.  The first cause that is met while a statement is put together
stays with it and is reported when it is to be written.
-/

namespace SqlWeave

/-- Why a statement cannot be written or run. -/
inductive QueryError where
  /-- There is no table. -/
  | noTable (kind : StatementKind)
  /-- A direction that is neither of the two. -/
  | unknownDirection (text : String)
  /-- A row of an insertion names a column that the insertion lacks. -/
  | unknownColumn (name : String)
  /-- An insertion without columns or without rows. -/
  | emptyInsertion
  /-- A row has more or fewer cells than there are columns. -/
  | rowWidth (columns cells : Nat)
  /-- An update that sets nothing. -/
  | noAssignments
  /-- A deletion with joins in a dialect that has no such statement. -/
  | joinedDelete (dialect : Dialect)
  /-- A category of bindings that does not exist. -/
  | unknownCategory (text : String)
  /-- An operator that cannot compare with null. -/
  | nullComparison (operator : String)
  /-- An operator that the dialect does not know. -/
  | unknownOperator (operator : String)
  /-- A statement that selects nothing where rows are wanted. -/
  | notSelect (kind : StatementKind)
  /-- A statement that changes nothing where a change is wanted. -/
  | notWrite
  /-- An insertion that names no key column where a key is wanted. -/
  | noSequence
  deriving DecidableEq, Repr

namespace QueryError

/-- The operator that is at fault, if one is. -/
def operator? : QueryError → Option String
  | .nullComparison operator | .unknownOperator operator => some operator
  | _ => none

/-- What is wrong, without the class of the error. -/
def reason : QueryError → String
  | .noTable kind => "cannot compile " ++ kind.text ++ " statement without a table"
  | .unknownDirection text =>
    "order direction must be \"asc\" or \"desc\", got " ++ Text.quoted text
  | .unknownColumn name =>
    "insert row has column " ++ Text.quoted name ++ " that is not in the column list"
  | .emptyInsertion => "cannot compile insert statement: columns and values cannot be empty"
  | .rowWidth columns cells =>
    "cannot compile insert statement: expected " ++ toString columns
      ++ " values per row, got " ++ toString cells
  | .noAssignments => "cannot compile update statement: no values to set"
  | .joinedDelete dialect =>
    "delete with joins is not supported by the " ++ dialect.driverName ++ " grammar"
  | .unknownCategory text => "invalid binding type: " ++ text
  | .nullComparison _ => "cannot be used to compare with null"
  | .unknownOperator _ => "is not a recognized comparison operator"
  | .notSelect kind => "select() needs a select statement, got " ++ kind.text
  | .notWrite => "execute() needs an insert, update or delete"
  | .noSequence => "insert_get_id() needs a builder from insert_get_id"

/-- The message of an error. -/
def message (e : QueryError) : String :=
  match e.operator? with
  | some operator =>
    "Illegal operator and value combination: '" ++ operator ++ "' " ++ e.reason
  | none => "SQL compile error: " ++ e.reason

end QueryError

/-- Reads a direction; blanks around it and its case do not count. -/
def Direction.ofText (s : String) : Except QueryError Direction :=
  let name := Text.lower (Text.trim s)
  if name = "asc" then .ok .asc
  else if name = "desc" then .ok .desc
  else .error (.unknownDirection s)

end SqlWeave
