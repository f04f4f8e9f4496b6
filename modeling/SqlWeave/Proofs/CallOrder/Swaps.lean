import SqlWeave.Proofs.CallOrder.Runs

/-!
# Calls that change places

Two neighbouring calls on different clauses may change places.  There is one exception: the first
union redirects what comes after it, so it keeps its place among orderings and pages.

* `Family.Independent` — **which calls may change places.**
* `Call.same_swap` — one after the other, in either order.
* `Recipe.Swapped` — programs that differ by such a change somewhere, at any depth.
* `Recipe.Swapped.same` — they end with queries that agree in every clause.
-/

namespace SqlWeave

/-! ## Independent families -/

/-- Calls of two families may change places on a query that has a union or has none. -/
def Family.Independent (united : Bool) (f g : Family) : Prop :=
  f ≠ g ∧ (united = false →
    (f = .unions → g ≠ .orders ∧ g ≠ .paging) ∧ (g = .unions → f ≠ .orders ∧ f ≠ .paging))

instance (united : Bool) (f g : Family) : Decidable (f.Independent united g) :=
  inferInstanceAs (Decidable (f ≠ g ∧ (united = false →
    (f = .unions → g ≠ .orders ∧ g ≠ .paging) ∧ (g = .unions → f ≠ .orders ∧ f ≠ .paging))))

/-- Calls of the family `f` do not decide where those of the family `g` go. -/
def Family.LeavesAlone (united : Bool) (f g : Family) : Prop :=
  g ≠ f ∧ (f = .unions → united = false → g ≠ .orders ∧ g ≠ .paging)

/-- Of two independent families, each leaves the other alone and one of them every third one. -/
lemma Family.Independent.leavesAlone {united : Bool} {f g : Family} (h : f.Independent united g)
    (k : Family) : f.LeavesAlone united k ∨ g.LeavesAlone united k := by
  obtain ⟨hne, hfirst⟩ := h
  by_cases hf : k = f
  · subst hf
    exact Or.inr ⟨hne, fun hg hno => (hfirst hno).2 hg⟩
  by_cases hg : k = g
  · subst hg
    exact Or.inl ⟨hf, fun hf hno => (hfirst hno).1 hf⟩
  by_cases hunions : f = .unions
  · exact Or.inr ⟨hg, fun hg => absurd (hunions.trans hg.symm) hne⟩
  · exact Or.inl ⟨hf, fun hf => absurd hf hunions⟩

namespace Call

variable {c d : Call} {f g : Family} {q : Query}

/-- A call agrees with no call in every clause that it leaves alone. -/
lemma alike_of_family (hq : q.bindings.Tidy) (hc : c.family? = some f) :
    q.Alike (f.LeavesAlone q.hasUnion) (c.run q) := by
  have hs := (c.steps_run q hc).spares hq
  refine {
    style := hs.style.symm
    isJoin := hs.isJoin.symm
    aggregate := hs.aggregate.symm
    tidy := hq
    tidy' := hs.tidy
    united := fun hS => ?_
    view := fun k hk => (hs.view k hk.1).symm }
  by_cases hf : f = .unions
  · have hunion : q.hasUnion = true := by
      by_contra hno
      rw [Bool.not_eq_true] at hno
      rcases hS with ⟨-, horders⟩ | ⟨-, hpaging⟩
      · exact (horders hf hno).1 rfl
      · exact (hpaging hf hno).2 rfl
    rw [hunion, hs.keepsUnion hunion]
  · exact (hs.hasUnion hf).symm

/-- Half of the exchange: what the first call leaves alone. -/
lemma alike_swap (hq : q.bindings.Tidy) (hc : c.family? = some f) (hd : d.family? = some g) :
    (d.run (c.run q)).Alike (f.LeavesAlone q.hasUnion) (c.run (d.run q)) := by
  have hs := (d.steps_run q hd).spares hq
  have hbefore : (d.run q).Alike (f.LeavesAlone q.hasUnion) (d.run (c.run q)) :=
    d.alike_run (fun hnone => absurd (hnone.symm.trans hd) (by simp)) (alike_of_family hq hc)
  have hafter : (d.run q).Alike (f.LeavesAlone q.hasUnion) (c.run (d.run q)) := by
    refine (alike_of_family hs.tidy hc).mono fun k hk => ⟨hk.1, fun hf hno => hk.2 hf ?_⟩
    by_contra hunion
    rw [Bool.not_eq_false] at hunion
    rw [hs.keepsUnion hunion] at hno
    cases hno
  exact hbefore.symm.trans hafter

/-- **Two calls of independent families**, one after the other, in either order. -/
theorem same_swap (hq : q.bindings.Tidy) (hc : c.family? = some f) (hd : d.family? = some g)
    (hfg : f.Independent q.hasUnion g) : (d.run (c.run q)).Same (c.run (d.run q)) :=
  (alike_swap hq hc hd).or (alike_swap hq hd hc).symm hfg.leavesAlone

end Call

/-! ## Programs that differ by a swap -/

mutual

/-- Lists of calls on the query `q` that differ by two neighbouring calls, which have changed
places here, later, or inside of a call. -/
inductive Call.Swapped : Query → List Call → List Call → Prop
  | here {q : Query} {c d : Call} {f g : Family} (calls : List Call) (hc : c.family? = some f)
    (hd : d.family? = some g) (h : f.Independent q.hasUnion g) :
    Call.Swapped q (c :: d :: calls) (d :: c :: calls)
  | later {q : Query} {calls calls' : List Call} (c : Call)
    (h : Call.Swapped (c.run q) calls calls') : Call.Swapped q (c :: calls) (c :: calls')
  | inside {q : Query} {c c' : Call} (calls : List Call) (h : Call.SwappedInside q c c') :
    Call.Swapped q (c :: calls) (c' :: calls)

/-- Calls on the query `q` whose arguments differ by a swap. -/
inductive Call.SwappedInside : Query → Call → Call → Prop
  | select (q : Query) {columns columns' : List Selection}
    (h : Selection.Swapped columns columns') :
    Call.SwappedInside q (.select columns) (.select columns')
  | addColumns (q : Query) {columns columns' : List Selection}
    (h : Selection.Swapped columns columns') :
    Call.SwappedInside q (.addColumns columns) (.addColumns columns')
  | groupBy (q : Query) {columns columns' : List Selection}
    (h : Selection.Swapped columns columns') :
    Call.SwappedInside q (.groupBy columns) (.groupBy columns')
  | addSub {q : Query} {calls calls' : List Call} (label : String)
    (h : Call.Swapped q.freshSub calls calls') :
    Call.SwappedInside q (.addSub label calls) (.addSub label calls')
  | whereGroup {q : Query} {calls calls' : List Call} (h : Call.Swapped q.fresh calls calls')
    (c : Conjunction) : Call.SwappedInside q (.whereGroup calls c) (.whereGroup calls' c)
  | addGroup (q : Query) {r r' : Recipe} (h : Recipe.Swapped r r') (c : Conjunction) :
    Call.SwappedInside q (.addGroup r c) (.addGroup r' c)
  | onlyIf {q : Query} {calls calls' : List Call} (condition : Bool)
    (h : Call.Swapped q calls calls') :
    Call.SwappedInside q (.onlyIf condition calls) (.onlyIf condition calls')
  | whereInSub {q : Query} {calls calls' : List Call} (column : String)
    (h : Call.Swapped q.freshSub calls calls') (negated : Bool) (c : Conjunction) :
    Call.SwappedInside q (.whereInSub column calls negated c) (.whereInSub column calls' negated c)
  | whereSub {q : Query} {calls calls' : List Call} (column operator : String)
    (h : Call.Swapped q.freshSub calls calls') (c : Conjunction) :
    Call.SwappedInside q (.whereSub column operator calls c) (.whereSub column operator calls' c)
  | whereExists {q : Query} {calls calls' : List Call} (h : Call.Swapped q.freshSub calls calls')
    (negated : Bool) (c : Conjunction) :
    Call.SwappedInside q (.whereExists calls negated c) (.whereExists calls' negated c)
  | addJoin {q : Query} {calls calls' : List JoinCall} (kind : JoinKind) (table : String)
    (h : JoinCall.Swapped (q.freshJoin table) calls calls') :
    Call.SwappedInside q (.addJoin kind table calls) (.addJoin kind table calls')
  | addArm (q : Query) {r r' : Recipe} (h : Recipe.Swapped r r') (all : Bool) :
    Call.SwappedInside q (.addArm r all) (.addArm r' all)
  | addArmSub {q : Query} {calls calls' : List Call} (all : Bool)
    (h : Call.Swapped q.freshSub calls calls') :
    Call.SwappedInside q (.addArmSub all calls) (.addArmSub all calls')

/-- Lists of calls on the predicates of a join.  These are all of one family, so the swap is inside
of one of them. -/
inductive JoinCall.Swapped : Query → List JoinCall → List JoinCall → Prop
  | later {q : Query} {calls calls' : List JoinCall} (c : JoinCall)
    (h : JoinCall.Swapped (c.run q) calls calls') : JoinCall.Swapped q (c :: calls) (c :: calls')
  | group {q : Query} {inner inner' : List JoinCall} (calls : List JoinCall)
    (h : JoinCall.Swapped q.fresh inner inner') :
    JoinCall.Swapped q (.group inner :: calls) (.group inner' :: calls)
  | whereGroup {q : Query} {inner inner' : List Call} (calls : List JoinCall)
    (h : Call.Swapped q.fresh inner inner') (c : Conjunction) :
    JoinCall.Swapped q (.whereGroup inner c :: calls) (.whereGroup inner' c :: calls)

/-- Lists of columns, one of which is a subquery whose programs differ by a swap. -/
inductive Selection.Swapped : List Selection → List Selection → Prop
  | here {r r' : Recipe} (h : Recipe.Swapped r r') (label : String) (columns : List Selection) :
    Selection.Swapped (.sub r label :: columns) (.sub r' label :: columns)
  | later {columns columns' : List Selection} (c : Selection)
    (h : Selection.Swapped columns columns') : Selection.Swapped (c :: columns) (c :: columns')

/-- **Programs that differ by two neighbouring calls that have changed places**, at any depth. -/
inductive Recipe.Swapped : Recipe → Recipe → Prop
  | mk {calls calls' : List Call} (style : Style)
    (h : Call.Swapped (Query.empty style) calls calls') :
    Recipe.Swapped ⟨style, calls⟩ ⟨style, calls'⟩

end

mutual

/-- Two calls that have changed places meet with queries that agree in every clause, and the calls
behind them keep it so. -/
theorem Call.Swapped.same : ∀ {q : Query} {calls calls' : List Call}, Call.Swapped q calls calls' →
    q.bindings.Tidy → (Call.runAll calls q).Same (Call.runAll calls' q)
  | _, _, _, .here calls hc hd h, hq =>
      Call.alike_runAll calls (fun _ _ _ _ => trivial) (Call.same_swap hq hc hd h)
  | _, _, _, .later c h, hq =>
      h.same (c.alike_run (fun _ _ => trivial) (.refl (fun _ => True) hq)).tidy
  | _, _, _, .inside calls h, hq =>
      Call.alike_runAll calls (fun _ _ _ _ => trivial) (h.same hq)

/-- A swap inside of a call is inside of the query that the call builds. -/
theorem Call.SwappedInside.same : ∀ {q : Query} {c c' : Call}, Call.SwappedInside q c c' →
    q.bindings.Tidy → (c.run q).Same (c'.run q)
  | _, _, _, .select q h, hq => (Query.Alike.refl _ hq).select h.writing_eq
  | _, _, _, .addColumns q h, hq => (Query.Alike.refl _ hq).addColumns h.writing_eq
  | _, _, _, .groupBy q h, hq => (Query.Alike.refl _ hq).groupBy h.writing_eq
  | _, _, _, .addSub label h, hq => (Query.Alike.refl _ hq).addSub label (h.same (Nat.le_refl 0))
  | _, _, _, .whereGroup h c, hq =>
      (Query.Alike.refl _ hq).addGroup (h.same (Nat.le_refl 0)).butTable c
  | _, _, _, .addGroup q h c, hq => (Query.Alike.refl _ hq).addGroup h.same.butTable c
  | _, _, _, .onlyIf true h, hq => h.same hq
  | _, _, _, .onlyIf false _, hq => .refl _ hq
  | _, _, _, .whereInSub column h negated c, hq =>
      (Query.Alike.refl _ hq).whereInSub column (h.same (Nat.le_refl 0)) negated c
  | _, _, _, .whereSub column operator h c, hq =>
      (Query.Alike.refl _ hq).whereSub column operator (h.same (Nat.le_refl 0)) c
  | _, _, _, .whereExists h negated c, hq =>
      (Query.Alike.refl _ hq).whereExists (h.same (Nat.le_refl 0)) negated c
  | _, _, _, .addJoin kind table h, hq =>
      (Query.Alike.refl _ hq).addJoin kind table (h.same (Nat.le_refl 0)).butTable
  | _, _, _, .addArm q h all, hq => (Query.Alike.refl _ hq).addArm h.same all
  | _, _, _, .addArmSub all h, hq => (Query.Alike.refl _ hq).addArm (h.same (Nat.le_refl 0)) all

/-- A swap inside of a join. -/
theorem JoinCall.Swapped.same : ∀ {q : Query} {calls calls' : List JoinCall},
    JoinCall.Swapped q calls calls' → q.bindings.Tidy →
      (JoinCall.runAll calls q).Same (JoinCall.runAll calls' q)
  | _, _, _, .later c h, hq => h.same (c.alike_run (.refl (fun _ => True) hq)).tidy
  | _, _, _, .group calls h, hq =>
      JoinCall.alike_runAll calls
        ((Query.Alike.refl _ hq).addGroup (h.same (Nat.le_refl 0)).butTable .and)
  | _, _, _, .whereGroup calls h c, hq =>
      JoinCall.alike_runAll calls
        ((Query.Alike.refl _ hq).addGroup (h.same (Nat.le_refl 0)).butTable c)

/-- A column is compared by what it is written as, so a swap in its program does not show. -/
theorem Selection.Swapped.writing_eq : ∀ {columns columns' : List Selection},
    Selection.Swapped columns columns' → (Selection.columns columns).map Column.writing
      = (Selection.columns columns').map Column.writing
  | _, _, @Selection.Swapped.here r r' h label columns => by
      have hwriting : (Column.sub r.build label).writing = (Column.sub r'.build label).writing := by
        funext s
        simp only [Column.writing, Style.columnText, h.same.selectText_eq]
      simp only [Selection.columns, Selection.column, List.map_cons, hwriting]
  | _, _, .later c h => by
      simp only [Selection.columns, List.map_cons, h.writing_eq]

/-- **Programs that differ by a swap end with queries that agree in every clause.** -/
theorem Recipe.Swapped.same : ∀ {r r' : Recipe}, Recipe.Swapped r r' → r.build.Same r'.build
  | _, _, .mk style h => h.same (Nat.le_refl 0)

end

end SqlWeave
