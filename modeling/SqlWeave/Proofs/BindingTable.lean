import Mathlib.Data.List.Induction
import SqlWeave.Proofs.Correspondence.Steps
import SqlWeave.Proofs.UnionRedirection

/-!
# The table of values

The values of a statement are kept in six categories, the last of which is two lists in one: the
values of the united statements and, behind them, those of the ordering of the union.  Only a number
says where the second begins.  To a caller the table is seven plain lists: each grows at its end by
what it is given, and those of a category start anew when the category is set or cleared.

* `Bindings.Change`, `Bindings.replay` — the changes of a table, and a fresh one after some.
* `Bindings.Share`, `Bindings.received` — **the specification**: the seven lists, each read off the
  changes alone.
* `Bindings.Holds` — how a table keeps seven lists; `Bindings.Holds.apply` is one change of it.
* `table_keeps_seven_lists` — the statement for every sequence of changes.
-/

namespace SqlWeave

namespace Bindings

/-! ## Changes -/

/-- A change of a table. -/
inductive Change where
  | push (c : Category) (value : Value)
  | extend (c : Category) (values : List Value)
  | set (c : Category) (values : List Value)
  | clear (c : Category)
  | extendUnionOrder (values : List Value)

/-- The table after a change. -/
def apply (b : Bindings) : Change → Bindings
  | .push c value => b.push c value
  | .extend c values => b.extend c values
  | .set c values => b.set c values
  | .clear c => b.clear c
  | .extendUnionOrder values => b.extendUnionOrder values

/-- A fresh table after changes. -/
def replay (changes : List Change) : Bindings :=
  changes.foldl apply empty

/-! ## Seven lists -/

/-- One of the seven lists: what a category is given under its own name, or what the ordering of the
union is given. -/
inductive Share where
  | own (c : Category)
  | unionOrder
  deriving DecidableEq

/-- The category that keeps a list. -/
def Share.category : Share → Category
  | .own c => c
  | .unionOrder => .union

/-- Whether a category starts anew with a change. -/
def Change.renews (c : Category) : Change → Bool
  | .set d _ | .clear d => c = d
  | .push .. | .extend .. | .extendUnionOrder _ => false

/-- What a change gives to a list. -/
def Change.given (l : Share) : Change → List Value
  | .push c value => if l = .own c then [value] else []
  | .extend c values | .set c values => if l = .own c then values else []
  | .clear _ => []
  | .extendUnionOrder values => if l = .unionOrder then values else []

/-- The changes from the last one on with which a category starts anew, or all if there is none. -/
def since (c : Category) : List Change → List Change
  | [] => []
  | x :: rest => if rest.any (Change.renews c) then since c rest else x :: rest

/-- What a list has been given since its category started anew. -/
def received (changes : List Change) (l : Share) : List Value :=
  (since l.category changes).flatMap (Change.given l)

/-- A change later, a category may have started anew. -/
lemma since_concat (c : Category) (changes : List Change) (x : Change) :
    since c (changes ++ [x]) = if x.renews c then [x] else since c changes ++ [x] := by
  induction changes with
  | nil => simp [since]
  | cons y rest ih =>
      rw [List.cons_append, since, since, ih, List.any_append]
      by_cases hx : x.renews c
      · simp [hx]
      · by_cases hrest : rest.any (Change.renews c) <;> simp [hx, hrest]

/-- One change later a list has what it had, unless its category starts anew, and what the change
gives. -/
lemma received_concat (changes : List Change) (x : Change) (l : Share) :
    received (changes ++ [x]) l
      = (if x.renews l.category then [] else received changes l) ++ x.given l := by
  rw [received, since_concat, received]
  split_ifs <;> simp

/-! ## The table -/

/-- Putting values under a category replaces that category and nothing else. -/
lemma get_put (b : Bindings) (c : Category) (values : List Value) (d : Category) :
    (b.put c values).get d = if d = c then values else b.get d := by
  cases c <;> cases d <;> rfl

/-- Nor is the length of the tail changed by that. -/
lemma unionTail_put (b : Bindings) (c : Category) (values : List Value) :
    (b.put c values).unionTail = b.unionTail := by
  cases c <;> rfl

/-- Setting a category reads like putting, though it may reset the tail. -/
lemma get_set (b : Bindings) (c : Category) (values : List Value) (d : Category) :
    (b.set c values).get d = if d = c then values else b.get d := by
  rw [← get_put]
  cases d <;> rfl

/-- What a category other than that of the unions has does not depend on the latter. -/
lemma get_of_ne_union (b : Bindings) (values : List Value) (n : ℕ) {c : Category}
    (h : c ≠ .union) : get { b with union := values, unionTail := n } c = b.get c := by
  cases c
  case union => exact absurd rfl h
  all_goals rfl

/-- A table keeps seven lists: the ordering of the union behind the united statements, where the
table knows its length, and every other list as a category. -/
structure Holds (b : Bindings) (lists : Share → List Value) : Prop where
  other : ∀ c, c ≠ .union → b.get c = lists (.own c)
  union : b.get .union = lists (.own .union) ++ lists .unionOrder
  tail : b.unionTail = (lists .unionOrder).length

lemma holds_empty : empty.Holds fun _ => [] where
  other c _ := by cases c <;> rfl
  union := rfl
  tail := rfl

variable {b : Bindings} {lists : Share → List Value} (h : b.Holds lists)

include h

/-- The place between the last two lists lies inside of their category. -/
lemma Holds.tidy : b.Tidy := by
  have hlength := congrArg List.length h.union
  rw [List.length_append] at hlength
  rw [Tidy, h.tail]
  exact le_of_le_of_eq (Nat.le_add_left _ _) hlength.symm

/-- Given to the unions, values go before those of the ordering; given elsewhere, to the end. -/
lemma Holds.extend (c : Category) (values : List Value) :
    (b.extend c values).Holds fun l => lists l ++ if l = .own c then values else [] := by
  by_cases hc : c = .union
  · subst hc
    rw [extend_union h.union h.tail]
    refine ⟨fun d hd => ?_, by simp [get], by simpa using h.tail⟩
    rw [if_neg fun heq => hd (Share.own.inj heq), List.append_nil, ← h.other d hd]
    exact get_of_ne_union b _ _ hd
  · have hunion : Category.union ≠ c := Ne.symm hc
    rw [extend_of_ne b hc]
    refine ⟨fun d hd => ?_, ?_, ?_⟩
    · by_cases hdc : d = c
      · simp [get_put, hdc, h.other c hc]
      · simp [get_put, hdc, h.other d hd]
    · simp [get_put, hunion, h.union]
    · simp [unionTail_put, h.tail]

/-- Setting the category of the unions drops the ordering with it, as they share the category. -/
lemma Holds.set (c : Category) (values : List Value) :
    (b.set c values).Holds fun l =>
      (if l.category = c then [] else lists l) ++ if l = .own c then values else [] := by
  refine ⟨fun d hd => ?_, ?_, ?_⟩
  · by_cases hdc : d = c
    · simp [get_set, Share.category, hdc]
    · simp [get_set, Share.category, hdc, h.other d hd]
  · by_cases hc : Category.union = c
    · simp [get_set, Share.category, hc]
    · simp [get_set, Share.category, hc, h.union]
  · by_cases hc : Category.union = c
    · simp [Bindings.set, Share.category, ← hc]
    · simp [Bindings.set, Share.category, hc, Ne.symm hc, h.tail]

/-- The values of the ordering stand last and are counted by the tail. -/
lemma Holds.extendUnionOrder (values : List Value) :
    (b.extendUnionOrder values).Holds fun l =>
      lists l ++ if l = .unionOrder then values else [] := by
  refine ⟨fun d hd => ?_, ?_, ?_⟩
  · rw [if_neg Share.noConfusion, List.append_nil, ← h.other d hd]
    exact get_of_ne_union b _ _ hd
  · have hunion : (b.extendUnionOrder values).get .union = b.get .union ++ values := rfl
    simp [hunion, h.union]
  · simp [Bindings.extendUnionOrder, h.tail]

/-- **One change**: each list grows by what it is given, after starting anew with its category. -/
lemma Holds.apply (x : Change) :
    (b.apply x).Holds fun l => (if x.renews l.category then [] else lists l) ++ x.given l := by
  cases x with
  | push c value =>
      simpa [Bindings.apply, push, Change.renews, Change.given] using h.extend c [value]
  | extend c values =>
      simpa [Bindings.apply, Change.renews, Change.given] using h.extend c values
  | set c values =>
      simpa [Bindings.apply, Change.renews, Change.given] using h.set c values
  | clear c =>
      simpa [Bindings.apply, clear, Change.renews, Change.given] using h.set c []
  | extendUnionOrder values =>
      simpa [Bindings.apply, Change.renews, Change.given] using h.extendUnionOrder values

omit h in
/-- **After any changes** the table keeps what the lists have been given. -/
lemma replay_holds (changes : List Change) : (replay changes).Holds (received changes) := by
  induction changes using List.reverseRecOn with
  | nil => exact holds_empty
  | append_singleton changes x ih =>
      have hstep := ih.apply x
      simp only [← received_concat] at hstep
      rwa [replay, List.foldl_concat]

end Bindings

/-! ## The statement -/

/-- **The table keeps seven lists.**  After any changes of a fresh table, every category but that of
the unions has the values that it was given since it was last set or cleared, and that of the unions
has those of the united statements and then those of the ordering, however the changes came.  The
tail of the ordering is never longer than its category, so the place in front of it exists.  And the
values of the whole table are those of the six categories in their order. -/
theorem table_keeps_seven_lists (changes : List Bindings.Change) :
    let b := Bindings.replay changes
    (∀ c, c ≠ .union → b.get c = Bindings.received changes (.own c)) ∧
    b.get .union
      = Bindings.received changes (.own .union) ++ Bindings.received changes .unionOrder ∧
    b.unionTail = (Bindings.received changes .unionOrder).length ∧
    b.unionTail ≤ b.union.length ∧
    b.flatten = b.select ++ b.join ++ b.filter ++ b.having ++ b.order ++ b.union ∧
    b.size = b.flatten.length := by
  intro b
  have hholds := Bindings.replay_holds changes
  refine ⟨hholds.other, hholds.union, hholds.tail, hholds.tidy, ?_, ?_⟩
  · simp only [Bindings.flatten_eq, List.append_assoc]
  · rw [Bindings.flatten, List.length_flatMap]
    rfl

/-- Values of united statements and of orderings in turn, in a category that was set before, and
another category that is cleared in between. -/
theorem table_keeps_seven_lists_interleaved :
    let changes : List Bindings.Change := [.extendUnionOrder [.int 9], .push .filter (.int 8),
      .set .union [.int 1], .extendUnionOrder [.int 5], .clear .filter,
      .extend .union [.int 2, .int 3], .push .filter (.int 7), .extendUnionOrder [.int 6],
      .push .union (.int 4)]
    let b := Bindings.replay changes
    b.get .filter = [.int 7] ∧
    b.get .union = [.int 1, .int 2, .int 3, .int 4, .int 5, .int 6] ∧
    b.unionTail = 2 := by
  intro changes b
  obtain ⟨hother, hunion, htail, -⟩ := table_keeps_seven_lists changes
  exact ⟨(hother .filter Category.noConfusion).trans rfl, hunion.trans rfl, htail.trans rfl⟩

end SqlWeave
