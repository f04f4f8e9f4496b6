import SqlWeave.Proofs.Correspondence.Calls
import SqlWeave.Proofs.Placeholder.Names

/-!
# Values written in place

Instead of binding a value, a program may write a text for it where the value is used.  The program
that does so everywhere says where each value of the given program belongs: if the finished
statement becomes that program's statement once its values are written into its placeholders, then
every placeholder stands for the value that was given there.

* `Call.inline`, `Recipe.inline` — **the program that writes its values in place**.
* `Call.neat`, `Recipe.neat` — what is asked of the names and texts of a program, so that they add
  no placeholders of their own and leave no literal open.
-/

namespace SqlWeave

/-! ## Operands -/

/-- The text of a value in place of the value. -/
def Param.inline (quote : Value → String) : Param → Param
  | .value v => .raw (quote v)
  | .raw sql => .raw sql

/-- The same for an operand that is compared with a column.  A comparison with null binds nothing,
and neither does one with a truth value inside of a document. -/
def Param.inlineComparand (quote : Value → String) (column : String) (p : Param) : Param :=
  if p.isNull then p else (Query.operandFor column p).inline quote

/-- The same for an operand that is assigned to a column.  One that is written into the text of the
assignment already stays as it is. -/
def Style.inlineAssigned (quote : Value → String) (s : Style) (column : String) (p : Param) :
    Param :=
  if (s.assignment column p).2.isEmpty then p else p.inline quote

/-! ## Programs -/

mutual

/-- A call that writes its values in place.  Text that comes with values has them written into its
placeholders, and an operator that the dialect does not know is itself a value. -/
def Call.inline (quote : Value → String) (s : Style) : Call → Call
  | .select columns => .select (Selection.inlineAll quote columns)
  | .addColumns columns => .addColumns (Selection.inlineAll quote columns)
  | .addRaw sql values => .addRaw (Text.interpolate quote sql values) []
  | .addSub label calls => .addSub label (Call.inlineAll quote s calls)
  | .whereEq column p c => .whereEq column (p.inlineComparand quote column) c
  | .whereCompare column operator p c =>
    .whereCompare column (s.comparison operator p).1
      ((s.comparison operator p).2.inlineComparand quote column) c
  | .whereGroup calls c => .whereGroup (Call.inlineAll quote s calls) c
  | .whereAll pairs c =>
    .whereAll (pairs.map fun pair => (pair.1, pair.2.inlineComparand quote pair.1)) c
  | .addGroup recipe c => .addGroup (recipe.inline quote) c
  | .onlyIf condition calls => .onlyIf condition (Call.inlineAll quote s calls)
  | .whereRaw sql values c => .whereRaw (Text.interpolate quote sql values) [] c
  | .whereIn column ps negated c => .whereIn column (ps.map (Param.inline quote)) negated c
  | .whereInSub column calls negated c =>
    .whereInSub column (Call.inlineAll quote s calls) negated c
  | .whereBetween column low high negated c =>
    .whereBetween column (low.inline quote) (high.inline quote) negated c
  | .whereSub column operator calls c =>
    .whereSub column operator (Call.inlineAll quote s calls) c
  | .whereExists calls negated c => .whereExists (Call.inlineAll quote s calls) negated c
  | .addJoin kind table calls => .addJoin kind table (JoinCall.inlineAll quote s calls)
  | .groupBy columns => .groupBy (Selection.inlineAll quote columns)
  | .having column operator p c =>
    .having column (s.comparison operator p).1 ((s.comparison operator p).2.inline quote) c
  | .havingRaw sql values c => .havingRaw (Text.interpolate quote sql values) [] c
  | .havingBetween column low high =>
    .havingBetween column (low.inline quote) (high.inline quote)
  | .orderByRaw sql values => .orderByRaw (Text.interpolate quote sql values) []
  | .addArm recipe all => .addArm (recipe.inline quote) all
  | .addArmSub all calls => .addArmSub all (Call.inlineAll quote s calls)
  | .insertRow pairs => .insertRow (pairs.map fun pair => (pair.1, pair.2.inline quote))
  | .insertValues cells => .insertValues (cells.map (Param.inline quote))
  | .insertReturning pairs sequence =>
    .insertReturning (pairs.map fun pair => (pair.1, pair.2.inline quote)) sequence
  | .setAssignments assignments =>
    .setAssignments (assignments.map fun a => (a.1, s.inlineAssigned quote a.1 a.2))
  | call => call

/-- Several calls that write their values in place. -/
def Call.inlineAll (quote : Value → String) (s : Style) : List Call → List Call
  | [] => []
  | call :: calls => call.inline quote s :: Call.inlineAll quote s calls

/-- A call on the predicates of a join that writes its values in place. -/
def JoinCall.inline (quote : Value → String) (s : Style) : JoinCall → JoinCall
  | .group calls => .group (JoinCall.inlineAll quote s calls)
  | .whereEq column p c => .whereEq column (p.inlineComparand quote column) c
  | .whereCompare column operator p c =>
    .whereCompare column (s.comparison operator p).1
      ((s.comparison operator p).2.inlineComparand quote column) c
  | .whereGroup calls c => .whereGroup (Call.inlineAll quote s calls) c
  | .whereAll pairs c =>
    .whereAll (pairs.map fun pair => (pair.1, pair.2.inlineComparand quote pair.1)) c
  | .whereIn column ps => .whereIn column (ps.map (Param.inline quote))
  | .whereRaw sql values => .whereRaw (Text.interpolate quote sql values) []
  | call => call

/-- Several of them. -/
def JoinCall.inlineAll (quote : Value → String) (s : Style) : List JoinCall → List JoinCall
  | [] => []
  | call :: calls => call.inline quote s :: JoinCall.inlineAll quote s calls

/-- Columns whose subqueries write their values in place. -/
def Selection.inlineAll (quote : Value → String) : List Selection → List Selection
  | [] => []
  | .sub recipe label :: columns =>
    .sub (recipe.inline quote) label :: Selection.inlineAll quote columns
  | .name text :: columns => .name text :: Selection.inlineAll quote columns
  | .raw sql :: columns => .raw sql :: Selection.inlineAll quote columns

/-- A recipe that writes its values in place. -/
def Recipe.inline (quote : Value → String) : Recipe → Recipe
  | ⟨style, calls⟩ => ⟨style, Call.inlineAll quote style calls⟩

end

/-! ## Neat programs

Names have no marks.  A text closes every literal that it opens, and has as many placeholders as
values come with it.  An operator that the dialect knows has no question mark. -/

/-- Whether an operand that is text adds no placeholders. -/
def Param.neat : Param → Bool
  | .value _ => true
  | .raw sql => decide (Text.Carries sql [])

/-- Whether an operator is not itself a placeholder. -/
def Style.neatOperator (s : Style) (operator : String) : Bool :=
  !s.knows operator || !operator.toList.contains '?'

/-- Whether names and operands of pairs are neat. -/
def Param.neatPairs (pairs : List (String × Param)) : Bool :=
  pairs.all fun pair => decide (Text.Neat pair.1) && pair.2.neat

/-- Whether the text of a lock is neat. -/
def Lock.neat : Lock → Bool
  | .custom sql => decide (Text.Carries sql [])
  | _ => true

mutual

/-- Whether the names and texts of a call are neat. -/
def Call.neat (s : Style) : Call → Bool
  | .onTable name => decide (Text.Neat name)
  | .onRaw sql => decide (Text.Carries sql [])
  | .select columns => Selection.neatAll columns
  | .addColumns columns => Selection.neatAll columns
  | .addRaw sql values => decide (Text.Carries sql values)
  | .addSub label calls => decide (Text.Neat label) && Call.neatAll s calls
  | .whereEq column p _ => decide (Text.Neat column) && p.neat
  | .whereCompare column operator p _ =>
    decide (Text.Neat column) && s.neatOperator operator && p.neat
  | .whereGroup calls _ => Call.neatAll s calls
  | .whereAll pairs _ => Param.neatPairs pairs
  | .addGroup recipe _ => recipe.neat
  | .onlyIf _ calls => Call.neatAll s calls
  | .whereRaw sql values _ => decide (Text.Carries sql values)
  | .whereIn column ps _ _ => decide (Text.Neat column) && ps.all Param.neat
  | .whereInSub column calls _ _ => decide (Text.Neat column) && Call.neatAll s calls
  | .whereNull column _ _ => decide (Text.Neat column)
  | .whereBetween column low high _ _ => decide (Text.Neat column) && low.neat && high.neat
  | .whereSub column operator calls _ =>
    decide (Text.Neat column) && s.neatOperator operator && Call.neatAll s calls
  | .whereExists calls _ _ => Call.neatAll s calls
  | .whereColumns first operator second _ =>
    decide (Text.Neat first) && s.neatOperator operator && decide (Text.Neat second)
  | .addJoin _ table calls => decide (Text.Neat table) && JoinCall.neatAll s calls
  | .groupBy columns => Selection.neatAll columns
  | .groupByRaw sql => decide (Text.Carries sql [])
  | .having column operator p _ =>
    decide (Text.Neat column) && s.neatOperator operator && p.neat
  | .havingRaw sql values _ => decide (Text.Carries sql values)
  | .havingBetween column low high => decide (Text.Neat column) && low.neat && high.neat
  | .orderBy column _ => decide (Text.Neat column)
  | .orderByText column _ => decide (Text.Neat column)
  | .orderByRaw sql values => decide (Text.Carries sql values)
  | .orderRandomly seed => seed.toList.all fun text => decide (Text.Carries text [])
  | .setLock lock => lock.neat
  | .addArm recipe _ => recipe.neat
  | .addArmSub _ calls => Call.neatAll s calls
  | .insertRow pairs => Param.neatPairs pairs
  | .insertColumns columns => columns.all fun name => decide (Text.Neat name)
  | .insertValues cells => cells.all Param.neat
  | .insertReturning pairs sequence =>
    Param.neatPairs pairs && sequence.toList.all fun name => decide (Text.Neat name)
  | .setAssignments assignments => Param.neatPairs assignments
  | .toAggregate function columns =>
    decide (Text.Carries function []) && columns.all fun name => decide (Text.Neat name)
  | .makeDistinct | .onWriter | .setLimit _ | .setOffset _ | .forPage _ _ | .makeDelete
  | .toFresh => true

/-- Whether those of several calls are. -/
def Call.neatAll (s : Style) : List Call → Bool
  | [] => true
  | call :: calls => call.neat s && Call.neatAll s calls

/-- Whether those of a call on the predicates of a join are. -/
def JoinCall.neat (s : Style) : JoinCall → Bool
  | .on first operator second _ =>
    decide (Text.Neat first) && s.neatOperator operator && decide (Text.Neat second)
  | .group calls => JoinCall.neatAll s calls
  | .whereEq column p _ => decide (Text.Neat column) && p.neat
  | .whereCompare column operator p _ =>
    decide (Text.Neat column) && s.neatOperator operator && p.neat
  | .whereGroup calls _ => Call.neatAll s calls
  | .whereAll pairs _ => Param.neatPairs pairs
  | .whereNull column _ => decide (Text.Neat column)
  | .whereIn column ps => decide (Text.Neat column) && ps.all Param.neat
  | .whereRaw sql values => decide (Text.Carries sql values)

/-- Whether those of several calls on the predicates of a join are. -/
def JoinCall.neatAll (s : Style) : List JoinCall → Bool
  | [] => true
  | call :: calls => call.neat s && JoinCall.neatAll s calls

/-- Whether the names and texts of columns are neat. -/
def Selection.neatAll : List Selection → Bool
  | [] => true
  | .name text :: columns => decide (Text.Neat text) && Selection.neatAll columns
  | .raw sql :: columns => decide (Text.Carries sql []) && Selection.neatAll columns
  | .sub recipe label :: columns =>
    recipe.neat && decide (Text.Neat label) && Selection.neatAll columns

/-- Whether those of a recipe are, and the texts of its style. -/
def Recipe.neat : Recipe → Bool
  | ⟨style, calls⟩ => decide style.Neat && Call.neatAll style calls

end

end SqlWeave
