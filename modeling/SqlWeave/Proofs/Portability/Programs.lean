import SqlWeave.Proofs.Portability.SharedStyles
import SqlWeave.Query.Call

/-!
# Portable programs

A program of calls is written down once and run in a style.  The recipes inside of it that are
finished on their own have styles of their own, which come along with the program.

* `Recipe.restyle` — the same program in other styles.
* `Recipe.Portable` — **the programs that are compared**: nothing in them is a dialect's own.
-/

namespace SqlWeave

/-! ## The same program in other styles -/

mutual

/-- The call with other styles of the recipes inside of it. -/
def Call.restyle (f : Style → Style) : Call → Call
  | .select columns => .select (Selection.restyleAll f columns)
  | .addColumns columns => .addColumns (Selection.restyleAll f columns)
  | .addSub label calls => .addSub label (Call.restyleAll f calls)
  | .whereGroup calls c => .whereGroup (Call.restyleAll f calls) c
  | .addGroup recipe c => .addGroup (recipe.restyle f) c
  | .onlyIf condition calls => .onlyIf condition (Call.restyleAll f calls)
  | .whereInSub column calls negated c => .whereInSub column (Call.restyleAll f calls) negated c
  | .whereSub column operator calls c => .whereSub column operator (Call.restyleAll f calls) c
  | .whereExists calls negated c => .whereExists (Call.restyleAll f calls) negated c
  | .addJoin kind table calls => .addJoin kind table (JoinCall.restyleAll f calls)
  | .groupBy columns => .groupBy (Selection.restyleAll f columns)
  | .addArm recipe all => .addArm (recipe.restyle f) all
  | .addArmSub all calls => .addArmSub all (Call.restyleAll f calls)
  | call => call

/-- Several calls. -/
def Call.restyleAll (f : Style → Style) : List Call → List Call
  | [] => []
  | call :: calls => call.restyle f :: Call.restyleAll f calls

/-- The call on a join. -/
def JoinCall.restyle (f : Style → Style) : JoinCall → JoinCall
  | .group calls => .group (JoinCall.restyleAll f calls)
  | .whereGroup calls c => .whereGroup (Call.restyleAll f calls) c
  | call => call

/-- Several calls on a join. -/
def JoinCall.restyleAll (f : Style → Style) : List JoinCall → List JoinCall
  | [] => []
  | call :: calls => call.restyle f :: JoinCall.restyleAll f calls

/-- The column, which may be a finished recipe. -/
def Selection.restyle (f : Style → Style) : Selection → Selection
  | .sub recipe label => .sub (recipe.restyle f) label
  | c => c

/-- Several columns. -/
def Selection.restyleAll (f : Style → Style) : List Selection → List Selection
  | [] => []
  | c :: cs => c.restyle f :: Selection.restyleAll f cs

/-- **The same program in other styles.** -/
def Recipe.restyle (f : Style → Style) : Recipe → Recipe
  | ⟨style, calls⟩ => ⟨f style, Call.restyleAll f calls⟩

end

/-- The style of a program is the one that it is given. -/
lemma Recipe.style_restyle (f : Style → Style) (r : Recipe) :
    (r.restyle f).style = f r.style := by
  cases r
  rfl

/-! ## Programs without anything of a dialect's own -/

/-- Whether every dialect knows an operator, in whatever case it is written. -/
def Dialect.AllKnow (operator : String) : Prop :=
  Dialect.commonOperators.contains (Text.lower operator) = true

instance (operator : String) : Decidable (Dialect.AllKnow operator) :=
  inferInstanceAs (Decidable (_ = _))

/-- What every dialect knows, the dialect of a style knows. -/
lemma Style.knows_of_allKnow {operator : String} (h : Dialect.AllKnow operator) (s : Style) :
    s.knows operator = true := by
  rw [Style.knows, Dialect.knows, h, Bool.true_or]

/-- The names that pairs give to columns. -/
def Pairs.Flat (pairs : List (String × Param)) : Prop :=
  ∀ pair ∈ pairs, Text.Flat pair.1

/-- What is asked of the page of a query that is written as a whole.  The page does not depend on
the style, so it is looked up in one. -/
def Call.BoundedAll (calls : List Call) : Prop :=
  (Call.runAll calls (Query.empty (.plain .ansi))).page.Bounded

instance (pairs : List (String × Param)) : Decidable (Pairs.Flat pairs) :=
  List.decidableBAll (fun pair : String × Param => Text.Flat pair.1) pairs

instance (calls : List Call) : Decidable (Call.BoundedAll calls) :=
  inferInstanceAs (Decidable (Page.Bounded _))

mutual

/-- A call that means the same in every dialect: its columns are no places inside of documents, its
operators are common ones, it makes no union, sets no lock by name and orders nothing at random, and
what it builds on the way is of this kind and, if it is written as a whole, has a limit where it has
an offset. -/
def Call.Portable : Call → Prop
  | .select columns | .addColumns columns | .groupBy columns => Selection.PortableAll columns
  | .addSub _ calls | .whereExists calls _ _ => Call.PortableAll calls ∧ Call.BoundedAll calls
  | .whereEq column _ _ | .whereIn column _ _ _ | .whereNull column _ _
  | .whereBetween column _ _ _ _ | .havingBetween column _ _ | .orderBy column _
  | .orderByText column _ => Text.Flat column
  | .whereCompare column operator _ _ | .having column operator _ _ =>
    Text.Flat column ∧ Dialect.AllKnow operator
  | .whereColumns first operator second _ =>
    Text.Flat first ∧ Dialect.AllKnow operator ∧ Text.Flat second
  | .whereGroup calls _ => Call.PortableAll calls
  | .whereAll pairs _ | .insertRow pairs | .insertReturning pairs _ | .setAssignments pairs =>
    Pairs.Flat pairs
  | .addGroup ⟨_, calls⟩ _ => Call.PortableAll calls
  | .onlyIf true calls => Call.PortableAll calls
  | .whereInSub column calls _ _ =>
    Text.Flat column ∧ Call.PortableAll calls ∧ Call.BoundedAll calls
  | .whereSub column operator calls _ =>
    Text.Flat column ∧ Dialect.AllKnow operator ∧ Call.PortableAll calls ∧ Call.BoundedAll calls
  | .addJoin _ _ calls => JoinCall.PortableAll calls
  | .setLock lock => lock.Portable
  | .insertColumns columns | .toAggregate _ columns => ∀ n ∈ columns, Text.Flat n
  | .addArm .. | .addArmSub .. | .orderRandomly _ => False
  | .onTable _ | .onRaw _ | .addRaw .. | .makeDistinct | .onWriter | .onlyIf false _ | .whereRaw ..
  | .groupByRaw _ | .havingRaw .. | .orderByRaw .. | .setLimit _ | .setOffset _ | .forPage ..
  | .insertValues _ | .makeDelete | .toFresh => True

/-- Several calls. -/
def Call.PortableAll : List Call → Prop
  | [] => True
  | call :: calls => call.Portable ∧ Call.PortableAll calls

/-- A call on a join. -/
def JoinCall.Portable : JoinCall → Prop
  | .on first operator second _ => Text.Flat first ∧ Dialect.AllKnow operator ∧ Text.Flat second
  | .group calls => JoinCall.PortableAll calls
  | .whereEq column _ _ | .whereNull column _ | .whereIn column _ => Text.Flat column
  | .whereCompare column operator _ _ => Text.Flat column ∧ Dialect.AllKnow operator
  | .whereGroup calls _ => Call.PortableAll calls
  | .whereAll pairs _ => Pairs.Flat pairs
  | .whereRaw .. => True

/-- Several calls on a join. -/
def JoinCall.PortableAll : List JoinCall → Prop
  | [] => True
  | call :: calls => call.Portable ∧ JoinCall.PortableAll calls

/-- A column. -/
def Selection.Portable : Selection → Prop
  | .name text => Text.Flat text
  | .raw _ => True
  | .sub recipe _ => recipe.Portable

/-- Several columns. -/
def Selection.PortableAll : List Selection → Prop
  | [] => True
  | c :: cs => c.Portable ∧ Selection.PortableAll cs

/-- **A program that means the same in every dialect.** -/
def Recipe.Portable : Recipe → Prop
  | ⟨_, calls⟩ => Call.PortableAll calls ∧ Call.BoundedAll calls

end

end SqlWeave
