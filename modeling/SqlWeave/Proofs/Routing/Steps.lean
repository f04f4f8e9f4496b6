import SqlWeave.Proofs.Routing.Course
import SqlWeave.Router.Session

/-!
# Sessions step by step

A session is a tree and its run is a sequence: each operation finds the router as the one before it
left it, whether they stand in the session itself, in the body of a transaction, or begin and end
one.

* `Lull` — what may happen between two steps.
* `Linked` — a list of steps, each of which finds the router as the one before it left it.
* `Session.linked` — the steps of a session are linked, from the router before it to the router
  after it.
* `Linked.invariant` — what every step keeps holds around every step.
-/

namespace SqlWeave

variable {σ α : Type} {d : Driver σ} {r r₁ r₂ : Router σ}

/-! ## Between two steps -/

/-- Between two steps the world may change, and it may be told that a transaction could not be
rolled back. -/
def Lull (r r' : Router σ) : Prop :=
  ∃ world notes, r' = { r with world := world, log := r.log ++ notes } ∧
    ∀ l ∈ notes, l.isStatement = false

lemma Lull.refl (r : Router σ) : Lull r r :=
  ⟨r.world, [], by simp, by simp⟩

/-- The world may change of itself, as a session lets it. -/
lemma Lull.inWorld (r : Router σ) (change : σ → σ) : Lull r (r.inWorld change) :=
  ⟨change r.world, [], by simp [Router.inWorld], by simp⟩

lemma Lull.trans (h : Lull r r₁) (h' : Lull r₁ r₂) : Lull r r₂ := by
  obtain ⟨_, notes, rfl, hnotes⟩ := h
  obtain ⟨world, notes', rfl, hnotes'⟩ := h'
  refine ⟨world, notes ++ notes', by simp, fun l hl => ?_⟩
  exact (List.mem_append.mp hl).elim (hnotes l) (hnotes' l)

/-- A transaction ends by an operation, but for the note that it could not be rolled back. -/
lemma Lull.conclude (d : Driver σ) (outcome : Except RouteError α) (r : Router σ) :
    Lull ((Operation.ending outcome).run d r).2 (Router.conclude d outcome r).2 := by
  cases outcome with
  | ok x =>
    have hcommit : (Operation.commit.run d r).2 = (Router.conclude d (.ok x) r).2 :=
      (Action.snd_bind_pure ..).trans (Action.snd_bind_pure ..).symm
    rw [Operation.ending, hcommit]
    exact .refl _
  | error e =>
    have hrollback : (Operation.rollback.run d r).2 = (Router.rollback d r).2 :=
      Action.snd_bind_pure ..
    simp only [Operation.ending, Router.conclude, hrollback]
    rcases Router.rollback d r with ⟨ended, r'⟩
    cases ended with
    | ok x => exact .refl r'
    | error f => exact ⟨r'.world, [.rollbackFailed f.message], rfl, by simp [LogRecord.isStatement]⟩

/-! ## Linked steps -/

/-- Steps that lead from one router to another. -/
inductive Linked (d : Driver σ) : Router σ → List (Step σ) → Router σ → Prop
  | nil {r r' : Router σ} (h : Lull r r') : Linked d r [] r'
  | cons {r r₁ r' : Router σ} {o : Operation} {steps : List (Step σ)} (h : Lull r r₁)
      (rest : Linked d (o.run d r₁).2 steps r') : Linked d r (o.step d r₁ :: steps) r'

namespace Linked

variable {steps steps' : List (Step σ)}

/-- A pause before the first step is part of the one that is there. -/
lemma after_lull (hlull : Lull r r₁) (h : Linked d r₁ steps r₂) : Linked d r steps r₂ := by
  cases h with
  | nil h => exact .nil (hlull.trans h)
  | cons h rest => exact .cons (hlull.trans h) rest

/-- One after the other, with the pause at the end of the first list put before the second. -/
lemma append (h : Linked d r steps r₁) (h' : Linked d r₁ steps' r₂) :
    Linked d r (steps ++ steps') r₂ := by
  induction h with
  | nil h => exact h'.after_lull h
  | cons h _ ih => exact .cons h (ih h')

/-- Linked steps may be cut anywhere, as each link is between two neighbours. -/
lemma split (h : Linked d r (steps ++ steps') r₂) :
    ∃ r₁, Linked d r steps r₁ ∧ Linked d r₁ steps' r₂ := by
  induction steps generalizing r with
  | nil => exact ⟨r, .nil (.refl r), h⟩
  | cons m rest ih =>
    cases h with
    | cons hlull h =>
      obtain ⟨r₁, hrest, h'⟩ := ih h
      exact ⟨r₁, .cons hlull hrest, h'⟩

/-- Every step is the run of its operation. -/
lemma eq_step (h : Linked d r steps r₂) {m : Step σ} (hm : m ∈ steps) :
    m = m.operation.step d m.before := by
  induction h with
  | nil => cases hm
  | cons _ _ ih =>
    rcases List.mem_cons.mp hm with rfl | hm
    · rfl
    · exact ih hm

/-- Every step has a course. -/
lemma course (h : Linked d r steps r₂) {m : Step σ} (hm : m ∈ steps) :
    Course m.before m.operation (m.answer, m.after) := by
  rw [h.eq_step hm]
  exact Operation.course d m.operation m.before

/-- What no lull touches and every step keeps holds around every step. -/
theorem invariant {P : Router σ → Prop} (hlull : ∀ {r r'}, Lull r r' → P r → P r')
    (h : Linked d r steps r₂) (hstep : ∀ m ∈ steps, P m.before → P m.after) (hr : P r) :
    (∀ m ∈ steps, P m.before ∧ P m.after) ∧ P r₂ := by
  induction h with
  | nil h => exact ⟨by simp, hlull h hr⟩
  | @cons _ r₁ _ o _ h _ ih =>
    obtain ⟨hfirst, hrest⟩ := List.forall_mem_cons.mp hstep
    have hbefore := hlull h hr
    obtain ⟨hsteps, hend⟩ := ih hrest (hfirst hbefore)
    exact ⟨List.forall_mem_cons.mpr ⟨⟨hbefore, hfirst hbefore⟩, hsteps⟩, hend⟩

end Linked

/-- **The steps of a session are linked**, from the router before it to the router after it. -/
theorem Session.linked (d : Driver σ) (s : Session σ α) (r : Router σ) :
    Linked d r (s.steps d r) (s.run d r).2 := by
  induction s generalizing r with
  | finish outcome => exact .nil (.refl r)
  | call o next ih => exact .cons (.refl r) (ih _ _)
  | look next ih => exact ih r r
  | meanwhile change next ih => exact (ih (r.inWorld change)).after_lull (.inWorld r change)
  | transaction body next ihbody ihnext =>
    have hbegin : (Operation.begin.run d r).2 = (Router.begin d r).2 := Action.snd_bind_pure ..
    rw [steps, run]
    simp only [Router.transaction]
    refine .cons (.refl r) ?_
    rw [hbegin]
    rcases Router.begin d r with ⟨begun, r₁⟩
    cases begun with
    | error e => exact ihnext (.error e) r₁
    | ok c =>
      -- What `conclude` does beyond the step that ends the transaction is part of the next lull.
      have hend := Lull.conclude d (body.run d r₁).1 (body.run d r₁).2
      exact (ihbody r₁).append (.cons (.refl _) ((ihnext _ _).after_lull hend))

end SqlWeave
