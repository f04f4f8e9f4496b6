import SqlWeave.Router.Basic

/-!
# Transactions

A transaction begins on a writer, which then serves everything until the transaction is committed
or rolled back.  The pin is released before the driver is asked, so it is gone even if the driver
fails.
-/

namespace SqlWeave

namespace Router

variable {σ α : Type}

/-- Begins a transaction and pins its connection. -/
def begin (d : Driver σ) : Action σ Connection := fun r =>
  match r.pinned with
  | some _ => (.error .alreadyOpen, r)
  | none =>
    (do
      let c ← writer d none
      Action.attempt (d.begin c) (.begin c)
      Action.tell (.begun c.name)
      fun r => (.ok c, { r with pinned := some c })) r

/-- Takes the pin off. -/
def release (otherwise : RouteError) : Action σ Connection := fun r =>
  match r.pinned with
  | some c => (.ok c, { r with pinned := none })
  | none => (.error otherwise, r)

/-- Commits the open transaction. -/
def commit (d : Driver σ) : Action σ Unit := do
  let c ← release .nothingToCommit
  Action.attempt (d.commit c) (.commit c)
  Action.tell (.committed c.name)

/-- Rolls the open transaction back. -/
def rollback (d : Driver σ) : Action σ Unit := do
  let c ← release .nothingToRollBack
  Action.attempt (d.rollback c) (.rollback c)
  Action.tell (.rolledBack c.name)

/-- Ends a transaction by the outcome of its body: an answer is committed, and a failure is rolled
back and stays the outcome whatever becomes of that. -/
def conclude (d : Driver σ) (outcome : Except RouteError α) : Action σ α :=
  match outcome with
  | .ok x => do
    commit d
    Pure.pure x
  | .error e => fun r =>
    match rollback d r with
    | (.ok _, r) => (.error e, r)
    | (.error f, r) => (.error e, { r with log := r.log ++ [.rollbackFailed f.message] })

/-- Runs a body inside a transaction. -/
def transaction (d : Driver σ) (body : Action σ α) : Action σ α := fun r =>
  match begin d r with
  | (.error e, r) => (.error e, r)
  | (.ok _, r) =>
    let (outcome, r) := body r
    conclude d outcome r

/-- Gives up every connection, and with it an open transaction. -/
def disconnect : Action σ Unit := fun r =>
  let told := if r.pinned.isSome then r.log ++ [.leftOpen] else r.log
  (.ok (), { r with
    pinned := none
    nodes := r.nodes.map fun n => { n with connection := none }
    log := told ++ [.closed] })

end Router

end SqlWeave
