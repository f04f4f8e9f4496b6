import SqlWeave.Proofs.Routing.Sending
import SqlWeave.Query.Call
import SqlWeave.Router.Scripted
import SqlWeave.Router.Session

/-!
# Refusals before routing

A query that cannot be written, or is not of the kind that an operation is for, is turned down
before a node is picked.  To pick one would move the turn, to reach it may open a connection or give
one up, and both leave records, so the order of these checks is what keeps a router as it is.

* `Operation.TurnedDown` — **the specification**: the queries that an operation turns down, and why.
* `Operation.prepared_of_turnedDown`, `Operation.turnedDown_or_prepared` — no others are.
* `refusals_precede_routing` — the statement for every router and every operation.
-/

namespace SqlWeave

namespace Operation

/-! ## The specification -/

/-- The query of an operation that is for one. -/
def query? : Operation → Option Query
  | .select q | .execute q | .insertReturning q => some q
  | _ => none

/-- **Why an operation turns its query down.**  The kind of the query, or the column of its key,
is looked at before it is written. -/
inductive TurnedDown : Operation → QueryError → Prop
  | notSelect {q : Query} (h : q.kind ≠ .select) : TurnedDown (.select q) (.notSelect q.kind)
  | notWrite {q : Query} (h : q.kind = .select) : TurnedDown (.execute q) .notWrite
  | noSequence {q : Query} (h : q.sequence = none) : TurnedDown (.insertReturning q) .noSequence
  | select {q : Query} {e : QueryError} (hkind : q.kind = .select) (h : q.compile = .error e) :
      TurnedDown (.select q) e
  | execute {q : Query} {e : QueryError} (hkind : q.kind ≠ .select) (h : q.compile = .error e) :
      TurnedDown (.execute q) e
  | insertReturning {q : Query} {e : QueryError} {column : String}
      (hcolumn : q.sequence = some column) (h : q.compile = .error e) :
      TurnedDown (.insertReturning q) e

/-! ## What is decided before a connection is reached for -/

variable {σ : Type} {o : Operation} {q : Query} {e : QueryError}

lemma isWrite_iff {kind : StatementKind} : kind.isWrite = true ↔ kind ≠ .select := by
  cases kind <;> decide

lemma prepared_of_turnedDown (r : Router σ) (h : o.TurnedDown e) :
    o.prepared r = .error (.query e) := by
  cases h with
  | notSelect h => rw [prepared, if_pos h]
  | notWrite h => rw [prepared, if_neg (mt isWrite_iff.mp (not_not_intro h))]
  | noSequence h => rw [prepared, h]
  | select hkind h => rw [prepared, if_neg (not_not_intro hkind), finished_of_compile_error h]
  | execute hkind h => rw [prepared, if_pos (isWrite_iff.mpr hkind), finished_of_compile_error h]
  | insertReturning hcolumn h => rw [prepared, hcolumn, finished_of_compile_error h]

/-- A query that is not turned down is written, and its statement is what will be sent. -/
lemma turnedDown_or_prepared (r : Router σ) (hq : o.query? = some q) :
    (∃ e, o.TurnedDown e) ∨
      ∃ kind st, q.compile = .ok st ∧ o.prepared r = .ok (some (kind, st)) := by
  cases o with
  -- For each operation: the kind of its query first, then whether it can be written.
  | select q' =>
    obtain rfl : q = q' := (Option.some.inj hq).symm
    by_cases hkind : q.kind = .select
    · cases hcompile : q.compile with
      | error e => exact .inl ⟨e, .select hkind hcompile⟩
      | ok st =>
        refine .inr ⟨.select, st, rfl, ?_⟩
        rw [prepared, if_neg (not_not_intro hkind), finished_of_ok hcompile]
    · exact .inl ⟨_, .notSelect hkind⟩
  | execute q' =>
    obtain rfl : q = q' := (Option.some.inj hq).symm
    by_cases hkind : q.kind = .select
    · exact .inl ⟨_, .notWrite hkind⟩
    · cases hcompile : q.compile with
      | error e => exact .inl ⟨e, .execute hkind hcompile⟩
      | ok st =>
        refine .inr ⟨q.kind, st, rfl, ?_⟩
        rw [prepared, if_pos (isWrite_iff.mpr hkind), finished_of_ok hcompile]
  | insertReturning q' =>
    obtain rfl : q = q' := (Option.some.inj hq).symm
    cases hcolumn : q.sequence with
    | none => exact .inl ⟨_, .noSequence hcolumn⟩
    | some column =>
      cases hcompile : q.compile with
      | error e => exact .inl ⟨e, .insertReturning hcolumn hcompile⟩
      | ok st =>
        refine .inr ⟨.insert, st, rfl, ?_⟩
        rw [prepared, hcolumn, finished_of_ok hcompile]
  | _ => cases hq

/-- An operation with a query wants any connection of a role. -/
lemma wanted_of_query (hq : o.query? = some q) : ∃ role, o.wanted? = some (role, none) := by
  cases o with
  | select | execute | insertReturning => exact ⟨_, rfl⟩
  | _ => cases hq

end Operation

/-! ## The statement -/

/-- **A query that is turned down leaves everything as it is**: the connections, the turns, the open
transaction, the world, the calls that were made and the log.  One that is not turned down is
written first, and reaching for a connection is the first thing that is done with its statement. -/
theorem refusals_precede_routing {σ : Type} (d : Driver σ) (r : Router σ) (o : Operation) :
    (∀ e, o.TurnedDown e → o.run d r = (.error (.query e), r)) ∧
    ∀ q, o.query? = some q → (∀ e, ¬o.TurnedDown e) →
      ∃ role kind st, q.compile = .ok st ∧ o.wanted? = some (role, none) ∧
        o.run d r = (Router.connection d role none >>= fun c =>
          o.proceed d c (some (kind, st))) r := by
  refine ⟨fun e h => Operation.run_of_refused d (Operation.prepared_of_turnedDown r h), ?_⟩
  intro q hq hnone
  obtain ⟨kind, st, hcompile, hprepared⟩ :=
    (Operation.turnedDown_or_prepared r hq).resolve_left fun ⟨e, he⟩ => hnone e he
  obtain ⟨role, hwanted⟩ := Operation.wanted_of_query hq
  exact ⟨role, kind, st, hcompile, hwanted, Operation.run_of_prepared d hprepared hwanted⟩

/-- In a transaction whose server no longer answers, every operation turns a query down: one without
a table in the arm of a union in a subquery, and one with a comparison with null in a subquery. -/
theorem refusals_precede_routing_in_transaction :
    let arm : List Call := [.onTable "u", .addArmSub true [.select [.name "b"]]]
    let untabled : Recipe := ⟨.plain .mysql, [.onTable "t", .whereInSub "a" arm false .and]⟩
    let sub : List Call := [.onTable "u", .whereCompare "b" "<" (.value .null) .and]
    let compared : Recipe := ⟨.plain .mysql, [.onTable "t", .whereExists sub false .and,
      .insertReturning [("a", .value (.int 1))] none]⟩
    let d := Script.driver Unit
    let s : Session (Script × Unit) Unit :=
      .call (.selectRaw "q" []) fun _ => .call .begin fun _ =>
        .meanwhile (fun w => (w.1.setDead "mysql:m" true, ())) (.finish (.ok ()))
    ∃ r, Router.ofTopology .pair (Script.smooth, ()) = .ok r ∧
      let r₁ := (s.run d r).2
      r₁.inTransaction = true ∧ r₁.events.length = 4 ∧
      (Operation.select untabled.build).run d r₁ = (.error (.query (.noTable .select)), r₁) ∧
      (Operation.execute untabled.build).run d r₁ = (.error (.query .notWrite), r₁) ∧
      (Operation.execute compared.build).run d r₁
        = (.error (.query (.nullComparison "<")), r₁) ∧
      (Operation.insertReturning compared.build).run d r₁
        = (.error (.query (.nullComparison "<")), r₁) := by
  intro arm untabled sub compared d s
  obtain ⟨r, hr, hopen, hevents⟩ : ∃ r, Router.ofTopology .pair (Script.smooth, ()) = .ok r ∧
      (s.run d r).2.inTransaction = true ∧ (s.run d r).2.events.length = 4 :=
    ⟨_, rfl, by decide +kernel, by decide +kernel⟩
  have huntabled : untabled.build.compile = .error (.noTable .select) := rfl
  have hcompared : compared.build.compile = .error (.nullComparison "<") := rfl
  exact ⟨r, hr, hopen, hevents,
    (refusals_precede_routing d _ _).1 _ (.select rfl huntabled),
    (refusals_precede_routing d _ _).1 _ (.notWrite rfl),
    (refusals_precede_routing d _ _).1 _ (.execute (by decide +kernel) hcompared),
    (refusals_precede_routing d _ _).1 _ (.insertReturning rfl hcompared)⟩

end SqlWeave
