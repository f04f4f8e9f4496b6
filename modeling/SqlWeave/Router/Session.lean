import SqlWeave.Router.Operation

/-!
# Sessions

A session is a program that uses a router: it runs operations one after another, each chosen by what
the ones before it answered, and opens transactions around bodies that are sessions themselves.

* `Session` — programs, as trees that branch on answers.
* `Session.run` — what a session does to a router.
* `Session.steps` — the operations that are run on the way, those inside of transactions and those
  that open and end them included, each with the router before and after it.
-/

namespace SqlWeave

/-- A program that uses a router in a world of type `σ` and ends with an outcome of type `α`. -/
inductive Session (σ α : Type) where
  /-- Ends, by its own decision with an answer or a failure. -/
  | finish (outcome : Except RouteError α)
  /-- Runs an operation and goes on by what it answers. -/
  | call (o : Operation) (next : Except RouteError Answer → Session σ α)
  /-- Goes on by what can be seen of the router. -/
  | look (next : Router σ → Session σ α)
  /-- Goes on in a world that has changed behind the back of the router. -/
  | meanwhile (change : σ → σ) (next : Session σ α)
  /-- Runs a body in a transaction and goes on by the outcome. -/
  | transaction (body : Session σ α) (next : Except RouteError α → Session σ α)

variable {σ α : Type}

/-- The router in a changed world. -/
def Router.inWorld (r : Router σ) (change : σ → σ) : Router σ :=
  { r with world := change r.world }

/-- An operation that was run: what it answered, and the router around it. -/
structure Step (σ : Type) where
  before : Router σ
  operation : Operation
  answer : Except RouteError Answer
  after : Router σ

/-- Runs an operation as a step. -/
def Operation.step (d : Driver σ) (o : Operation) (r : Router σ) : Step σ :=
  ⟨r, o, (o.run d r).1, (o.run d r).2⟩

/-- The operation that ends a transaction by the outcome of its body. -/
def Operation.ending (outcome : Except RouteError α) : Operation :=
  match outcome with
  | .ok _ => .commit
  | .error _ => .rollback

namespace Session

/-- Runs a session. -/
def run (d : Driver σ) : Session σ α → Action σ α
  | .finish outcome => Action.ofExcept outcome
  | .call o next => fun r => (next (o.run d r).1).run d (o.run d r).2
  | .look next => fun r => (next r).run d r
  | .meanwhile change next => fun r => next.run d (r.inWorld change)
  | .transaction body next => fun r =>
    let (outcome, r) := Router.transaction d (body.run d) r
    (next outcome).run d r

/-- The steps of a session.  A transaction begins by an operation and, if its body is run, ends by
one. -/
def steps (d : Driver σ) : Session σ α → Router σ → List (Step σ)
  | .finish _, _ => []
  | .call o next, r => o.step d r :: (next (o.run d r).1).steps d (o.run d r).2
  | .look next, r => (next r).steps d r
  | .meanwhile change next, r => next.steps d (r.inWorld change)
  | .transaction body next, r =>
    Operation.begin.step d r ::
      match Router.begin d r with
      | (.error e, r) => (next (.error e)).steps d r
      | (.ok _, r) =>
        let (outcome, ended) := body.run d r
        let (result, last) := Router.conclude d outcome ended
        body.steps d r ++
          (Operation.ending outcome).step d ended :: (next result).steps d last

end Session

end SqlWeave
