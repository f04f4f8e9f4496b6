import SqlWeave.Proofs.Correspondence.Select
import SqlWeave.Query.Call

/-!
# Corresponding programs

Two programs correspond if they make the same calls with the same names, operators and texts without
values, and if what they give to each call besides corresponds.  There is one rule for each call.

* `Correspondence.CallMatch`, `Correspondence.RecipeMatch` — **the rules**.
* `Call.accounted`, `Recipe.accounted` — whether the values that a program binds to the columns of
  its selects are the values of the columns that are written.
-/

namespace SqlWeave

/-! ## Comparisons -/

/-- What a comparison with three arguments compares by and with: an operator that the dialect does
not know is itself the value. -/
def Style.comparison (s : Style) (operator : String) (operand : Param) : String × Param :=
  if s.knows operator then (operator, operand) else ("=", .value (.text operator))

namespace Correspondence

/-- Two comparisons by the same operator. -/
def ComparisonMatch (C : Correspondence) (R : Param → Param → Prop) (a a' : String × Param) :
    Prop :=
  a.1 = a'.1 ∧ C.operator a.1 ∧ R a.2 a'.2

/-! ## The rules -/

mutual

/-- Two calls on queries of one style. -/
inductive CallMatch (C : Correspondence) : Style → Call → Call → Prop
  | onTable {s : Style} {name : String} (h : C.name name) :
    CallMatch C s (.onTable name) (.onTable name)
  | onRaw {s : Style} {sql : String} (h : C.Plain sql) : CallMatch C s (.onRaw sql) (.onRaw sql)
  | select {s : Style} {columns columns' : List Selection}
    (h : SelectionsMatch C columns columns') :
    CallMatch C s (.select columns) (.select columns')
  | addColumns {s : Style} {columns columns' : List Selection}
    (h : SelectionsMatch C columns columns') :
    CallMatch C s (.addColumns columns) (.addColumns columns')
  | addRaw {s : Style} {sql sql' : String} {vs vs' : List Value} (h : C.text sql vs sql' vs') :
    CallMatch C s (.addRaw sql vs) (.addRaw sql' vs')
  | addSub {s : Style} {label : String} {calls calls' : List Call} (hlabel : C.name label)
    (h : CallsMatch C s calls calls') : CallMatch C s (.addSub label calls) (.addSub label calls')
  | makeDistinct {s : Style} : CallMatch C s .makeDistinct .makeDistinct
  | onWriter {s : Style} : CallMatch C s .onWriter .onWriter
  | whereEq {s : Style} {column : String} {p p' : Param} {c : Conjunction} (hcolumn : C.name column)
    (h : C.Comparand column p p') : CallMatch C s (.whereEq column p c) (.whereEq column p' c)
  | whereCompare {s : Style} {column operator operator' : String} {p p' : Param} {c : Conjunction}
    (hcolumn : C.name column) (h : C.ComparisonMatch (C.Comparand column) (s.comparison operator p)
      (s.comparison operator' p')) :
    CallMatch C s (.whereCompare column operator p c) (.whereCompare column operator' p' c)
  | whereGroup {s : Style} {calls calls' : List Call} {c : Conjunction}
    (h : CallsMatch C s calls calls') : CallMatch C s (.whereGroup calls c) (.whereGroup calls' c)
  | whereAll {s : Style} {pairs pairs' : List (String × Param)} {c : Conjunction}
    (h : List.Forall₂ (C.PairMatch C.Comparand) pairs pairs') :
    CallMatch C s (.whereAll pairs c) (.whereAll pairs' c)
  | addGroup {s : Style} {r r' : Recipe} {c : Conjunction} (h : RecipeMatch C r r') :
    CallMatch C s (.addGroup r c) (.addGroup r' c)
  | onlyIf {s : Style} {condition : Bool} {calls calls' : List Call}
    (h : CallsMatch C s calls calls') :
    CallMatch C s (.onlyIf condition calls) (.onlyIf condition calls')
  | whereRaw {s : Style} {sql sql' : String} {vs vs' : List Value} {c : Conjunction}
    (h : C.text sql vs sql' vs') : CallMatch C s (.whereRaw sql vs c) (.whereRaw sql' vs' c)
  | whereIn {s : Style} {column : String} {ps ps' : List Param} {negated : Bool} {c : Conjunction}
    (hcolumn : C.name column) (h : List.Forall₂ C.operand ps ps') :
    CallMatch C s (.whereIn column ps negated c) (.whereIn column ps' negated c)
  | whereInSub {s : Style} {column : String} {calls calls' : List Call} {negated : Bool}
    {c : Conjunction} (hcolumn : C.name column) (h : CallsMatch C s calls calls') :
    CallMatch C s (.whereInSub column calls negated c) (.whereInSub column calls' negated c)
  | whereNull {s : Style} {column : String} {negated : Bool} {c : Conjunction}
    (hcolumn : C.name column) :
    CallMatch C s (.whereNull column negated c) (.whereNull column negated c)
  | whereBetween {s : Style} {column : String} {low high low' high' : Param} {negated : Bool}
    {c : Conjunction} (hcolumn : C.name column) (hlow : C.operand low low')
    (hhigh : C.operand high high') :
    CallMatch C s (.whereBetween column low high negated c)
      (.whereBetween column low' high' negated c)
  | whereSub {s : Style} {column operator : String} {calls calls' : List Call} {c : Conjunction}
    (hcolumn : C.name column) (hoperator : s.knows operator = true → C.operator operator)
    (h : CallsMatch C s calls calls') :
    CallMatch C s (.whereSub column operator calls c) (.whereSub column operator calls' c)
  | whereExists {s : Style} {calls calls' : List Call} {negated : Bool} {c : Conjunction}
    (h : CallsMatch C s calls calls') :
    CallMatch C s (.whereExists calls negated c) (.whereExists calls' negated c)
  | whereColumns {s : Style} {first operator second : String} {c : Conjunction}
    (hfirst : C.name first) (hoperator : s.knows operator = true → C.operator operator)
    (hsecond : C.name second) :
    CallMatch C s (.whereColumns first operator second c) (.whereColumns first operator second c)
  | addJoin {s : Style} {kind : JoinKind} {table : String} {calls calls' : List JoinCall}
    (htable : C.name table) (h : JoinCallsMatch C s calls calls') :
    CallMatch C s (.addJoin kind table calls) (.addJoin kind table calls')
  | groupBy {s : Style} {columns columns' : List Selection}
    (h : SelectionsMatch C columns columns') : CallMatch C s (.groupBy columns) (.groupBy columns')
  | groupByRaw {s : Style} {sql : String} (h : C.Plain sql) :
    CallMatch C s (.groupByRaw sql) (.groupByRaw sql)
  | having {s : Style} {column operator operator' : String} {p p' : Param} {c : Conjunction}
    (hcolumn : C.name column) (h : C.ComparisonMatch C.operand (s.comparison operator p)
      (s.comparison operator' p')) :
    CallMatch C s (.having column operator p c) (.having column operator' p' c)
  | havingRaw {s : Style} {sql sql' : String} {vs vs' : List Value} {c : Conjunction}
    (h : C.text sql vs sql' vs') : CallMatch C s (.havingRaw sql vs c) (.havingRaw sql' vs' c)
  | havingBetween {s : Style} {column : String} {low high low' high' : Param}
    (hcolumn : C.name column) (hlow : C.operand low low') (hhigh : C.operand high high') :
    CallMatch C s (.havingBetween column low high) (.havingBetween column low' high')
  | orderBy {s : Style} {column : String} {d : Direction} (hcolumn : C.name column) :
    CallMatch C s (.orderBy column d) (.orderBy column d)
  | orderByText {s : Style} {column direction : String} (hcolumn : C.name column) :
    CallMatch C s (.orderByText column direction) (.orderByText column direction)
  | orderByRaw {s : Style} {sql sql' : String} {vs vs' : List Value} (h : C.text sql vs sql' vs') :
    CallMatch C s (.orderByRaw sql vs) (.orderByRaw sql' vs')
  | orderRandomly {s : Style} {seed : Option String} (h : ∀ t ∈ seed, C.Plain t) :
    CallMatch C s (.orderRandomly seed) (.orderRandomly seed)
  | setLimit {s : Style} {n : UInt64} : CallMatch C s (.setLimit n) (.setLimit n)
  | setOffset {s : Style} {n : UInt64} : CallMatch C s (.setOffset n) (.setOffset n)
  | forPage {s : Style} {page perPage : UInt64} :
    CallMatch C s (.forPage page perPage) (.forPage page perPage)
  | setLock {s : Style} {l : Lock} (h : C.LockOk l) : CallMatch C s (.setLock l) (.setLock l)
  | addArm {s : Style} {r r' : Recipe} {all : Bool} (h : RecipeMatch C r r') :
    CallMatch C s (.addArm r all) (.addArm r' all)
  | addArmSub {s : Style} {all : Bool} {calls calls' : List Call}
    (h : CallsMatch C s calls calls') :
    CallMatch C s (.addArmSub all calls) (.addArmSub all calls')
  | insertRow {s : Style} {pairs pairs' : List (String × Param)}
    (h : List.Forall₂ (C.PairMatch fun _ => C.operand) pairs pairs') :
    CallMatch C s (.insertRow pairs) (.insertRow pairs')
  | insertColumns {s : Style} {columns : List String} (h : ∀ n ∈ columns, C.name n) :
    CallMatch C s (.insertColumns columns) (.insertColumns columns)
  | insertValues {s : Style} {cells cells' : List Param} (h : List.Forall₂ C.operand cells cells') :
    CallMatch C s (.insertValues cells) (.insertValues cells')
  | insertReturning {s : Style} {pairs pairs' : List (String × Param)} {sequence : Option String}
    (h : List.Forall₂ (C.PairMatch fun _ => C.operand) pairs pairs')
    (hsequence : ∀ n ∈ sequence, C.name n) :
    CallMatch C s (.insertReturning pairs sequence) (.insertReturning pairs' sequence)
  | setAssignments {s : Style} {as as' : List (String × Param)}
    (h : List.Forall₂ (C.PairMatch (C.assigned s)) as as') :
    CallMatch C s (.setAssignments as) (.setAssignments as')
  | makeDelete {s : Style} : CallMatch C s .makeDelete .makeDelete
  | toAggregate {s : Style} {function : String} {columns : List String}
    (h : C.AggregateOk ⟨function, columns⟩) :
    CallMatch C s (.toAggregate function columns) (.toAggregate function columns)
  | toFresh {s : Style} : CallMatch C s .toFresh .toFresh

/-- Two lists of calls. -/
inductive CallsMatch (C : Correspondence) : Style → List Call → List Call → Prop
  | nil {s : Style} : CallsMatch C s [] []
  | cons {s : Style} {call call' : Call} {calls calls' : List Call} (h : CallMatch C s call call')
    (hs : CallsMatch C s calls calls') : CallsMatch C s (call :: calls) (call' :: calls')

/-- Two calls on the predicates of a join. -/
inductive JoinCallMatch (C : Correspondence) : Style → JoinCall → JoinCall → Prop
  | on {s : Style} {first operator second : String} {c : Conjunction} (hfirst : C.name first)
    (hoperator : s.knows operator = true → C.operator operator) (hsecond : C.name second) :
    JoinCallMatch C s (.on first operator second c) (.on first operator second c)
  | group {s : Style} {calls calls' : List JoinCall} (h : JoinCallsMatch C s calls calls') :
    JoinCallMatch C s (.group calls) (.group calls')
  | whereEq {s : Style} {column : String} {p p' : Param} {c : Conjunction} (hcolumn : C.name column)
    (h : C.Comparand column p p') : JoinCallMatch C s (.whereEq column p c) (.whereEq column p' c)
  | whereCompare {s : Style} {column operator operator' : String} {p p' : Param} {c : Conjunction}
    (hcolumn : C.name column) (h : C.ComparisonMatch (C.Comparand column) (s.comparison operator p)
      (s.comparison operator' p')) :
    JoinCallMatch C s (.whereCompare column operator p c) (.whereCompare column operator' p' c)
  | whereGroup {s : Style} {calls calls' : List Call} {c : Conjunction}
    (h : CallsMatch C s calls calls') :
    JoinCallMatch C s (.whereGroup calls c) (.whereGroup calls' c)
  | whereAll {s : Style} {pairs pairs' : List (String × Param)} {c : Conjunction}
    (h : List.Forall₂ (C.PairMatch C.Comparand) pairs pairs') :
    JoinCallMatch C s (.whereAll pairs c) (.whereAll pairs' c)
  | whereNull {s : Style} {column : String} {negated : Bool} (hcolumn : C.name column) :
    JoinCallMatch C s (.whereNull column negated) (.whereNull column negated)
  | whereIn {s : Style} {column : String} {ps ps' : List Param} (hcolumn : C.name column)
    (h : List.Forall₂ C.operand ps ps') :
    JoinCallMatch C s (.whereIn column ps) (.whereIn column ps')
  | whereRaw {s : Style} {sql sql' : String} {vs vs' : List Value} (h : C.text sql vs sql' vs') :
    JoinCallMatch C s (.whereRaw sql vs) (.whereRaw sql' vs')

/-- Two lists of calls on the predicates of a join. -/
inductive JoinCallsMatch (C : Correspondence) : Style → List JoinCall → List JoinCall → Prop
  | nil {s : Style} : JoinCallsMatch C s [] []
  | cons {s : Style} {call call' : JoinCall} {calls calls' : List JoinCall}
    (h : JoinCallMatch C s call call') (hs : JoinCallsMatch C s calls calls') :
    JoinCallsMatch C s (call :: calls) (call' :: calls')

/-- Two lists of columns as callers give them. -/
inductive SelectionsMatch (C : Correspondence) : List Selection → List Selection → Prop
  | nil : SelectionsMatch C [] []
  | name {name : String} {cs cs' : List Selection} (h : C.name name)
    (hs : SelectionsMatch C cs cs') :
    SelectionsMatch C (.name name :: cs) (.name name :: cs')
  | raw {sql : String} {cs cs' : List Selection} (h : C.Plain sql) (hs : SelectionsMatch C cs cs') :
    SelectionsMatch C (.raw sql :: cs) (.raw sql :: cs')
  | sub {r r' : Recipe} {label : String} {cs cs' : List Selection} (h : RecipeMatch C r r')
    (hlabel : C.name label) (hs : SelectionsMatch C cs cs') :
    SelectionsMatch C (.sub r label :: cs) (.sub r' label :: cs')

/-- Two recipes of one style. -/
inductive RecipeMatch (C : Correspondence) : Recipe → Recipe → Prop
  | mk {s : Style} {calls calls' : List Call} (h : CallsMatch C s calls calls') :
    RecipeMatch C ⟨s, calls⟩ ⟨s, calls'⟩

end

end Correspondence

/-! ## Values that are written

A query that is embedded brings along the values of all its categories.  There are two ways to bind
values that no text shows, or to show some that are not bound: a function over the rows takes the
place of columns that are added later, and a subquery that is given as a column, instead of being
built in place, comes without its values.
-/

mutual

/-- Whether the values that a call binds to selected and grouped columns are those of columns that
are written, in every query that is written as a whole. -/
def Call.accounted : Call → Bool → Query → Bool
  | .select columns, whole, _ => !whole || Selection.accountedAll columns
  | .addColumns columns, whole, _ => !whole || Selection.accountedAll columns
  | .groupBy columns, whole, _ => !whole || Selection.accountedAll columns
  | .addRaw _ values, whole, q => !whole || q.aggregate.isNone || values.isEmpty
  | .addSub _ calls, whole, q =>
    (!whole || q.aggregate.isNone || (Call.runAll calls q.freshSub).bindings.flatten.isEmpty)
      && Call.accountedAll calls true q.freshSub
  | .whereGroup calls _, _, q => Call.accountedAll calls false q.fresh
  | .addGroup recipe _, _, _ => recipe.accounted false
  | .onlyIf condition calls, whole, q => !condition || Call.accountedAll calls whole q
  | .whereInSub _ calls _ _, _, q => Call.accountedAll calls true q.freshSub
  | .whereSub _ operator calls _, _, q =>
    !q.style.knows operator || Call.accountedAll calls true q.freshSub
  | .whereExists calls _ _, _, q => Call.accountedAll calls true q.freshSub
  | .addJoin _ table calls, _, q => JoinCall.accountedAll calls (q.freshJoin table)
  | .addArm recipe _, _, _ => recipe.accounted true
  | .addArmSub _ calls, _, q => Call.accountedAll calls true q.freshSub
  | _, _, _ => true

/-- The same for several calls. -/
def Call.accountedAll : List Call → Bool → Query → Bool
  | [], _, _ => true
  | call :: calls, whole, q =>
    call.accounted whole q && Call.accountedAll calls whole (call.run q)

/-- The same for the predicates of a join. -/
def JoinCall.accounted : JoinCall → Query → Bool
  | .group calls, q => JoinCall.accountedAll calls q.fresh
  | .whereGroup calls _, q => Call.accountedAll calls false q.fresh
  | _, _ => true

/-- The same for several calls on the predicates of a join. -/
def JoinCall.accountedAll : List JoinCall → Query → Bool
  | [], _ => true
  | call :: calls, q => call.accounted q && JoinCall.accountedAll calls (call.run q)

/-- Whether no column is a subquery with values of its own. -/
def Selection.accountedAll : List Selection → Bool
  | [] => true
  | .sub recipe _ :: columns =>
    recipe.accounted true && recipe.build.bindings.flatten.isEmpty
      && Selection.accountedAll columns
  | .name _ :: columns => Selection.accountedAll columns
  | .raw _ :: columns => Selection.accountedAll columns

/-- The same for a recipe. -/
def Recipe.accounted : Recipe → Bool → Bool
  | ⟨style, calls⟩, whole => Call.accountedAll calls whole (Query.empty style)

end

end SqlWeave
