import SqlWeave.Proofs.CallOrder.Swaps

/-!
# The order of calls

Only the order of the calls on each clause matters.  Calls on different clauses may come in any
order, with one exception: until there is a union, the calls that unite, order and page keep their
order among each other as well.

* `Call.Reordered` — **which lists of calls are the same up to this.**
* `Call.Reordered.same` — they end with queries that agree in every clause.
* `calls_on_different_clauses_commute` — the statement for callers.
-/

namespace SqlWeave

namespace Call

/-- The calls of a list that are about one of some clauses. -/
def about (fs : List Family) (calls : List Call) : List Call :=
  calls.filter fun c => fs.any fun f => c.family? = some f

/-- **Two lists of calls in different orders.**  All of the calls are about a clause.  For each
clause they are the same in the same order and, as long as there is no union, so are those that
unite or order and those that unite or page. -/
structure Reordered (united : Bool) (calls calls' : List Call) : Prop where
  known : ∀ c ∈ calls, c.family? ≠ none
  known' : ∀ c ∈ calls', c.family? ≠ none
  within : ∀ f, about [f] calls = about [f] calls'
  ordering : united = false → about [.unions, .orders] calls = about [.unions, .orders] calls'
  paging : united = false → about [.unions, .paging] calls = about [.unions, .paging] calls'

variable {c : Call} {f g : Family} {fs : List Family} {calls rest xs ys : List Call}
  {united : Bool} {q : Query}

/-! ## Lists of calls -/

/-- A call is in the part of a list about some clauses if it is in the list and about one of
them. -/
lemma mem_about : c ∈ about fs calls ↔ c ∈ calls ∧ ∃ f ∈ fs, c.family? = some f := by
  simp [about]

lemma about_append (fs : List Family) (xs ys : List Call) :
    about fs (xs ++ ys) = about fs xs ++ about fs ys :=
  List.filter_append ..

/-- A call that comes first in one list and behind `xs` in the other is taken out of both. -/
lemma about_cancel (hx : c ∉ xs) (h : about fs (c :: rest) = about fs (xs ++ c :: ys)) :
    about fs rest = about fs (xs ++ ys) ∧ (c ∈ about fs [c] → about fs xs = []) := by
  have hcons : ∀ zs, about fs (c :: zs) = about fs [c] ++ about fs zs := about_append fs [c]
  rw [about_append, hcons, hcons ys] at h
  rw [about_append]
  by_cases hc : c ∈ about fs [c]
  -- If the call is about the clauses, it is the first of its kind in both lists.
  · have hsingle : about fs [c] = [c] := by
      rw [about, List.filter_eq_self]
      simpa [mem_about] using hc
    have hnil : about fs xs = [] := by
      cases hxs : about fs xs with
      | nil => rfl
      | cons x zs =>
          rw [hsingle, hxs, List.singleton_append, List.cons_append, List.cons.injEq] at h
          have hmem : x ∈ about fs xs := by simp [hxs]
          rw [← h.1] at hmem
          exact absurd (mem_about.mp hmem).1 hx
    rw [hsingle, hnil, List.nil_append] at h
    exact ⟨by rw [hnil, List.nil_append, List.append_cancel_left h], fun _ => hnil⟩
  -- Otherwise it is in neither list that is compared.
  · have hsingle : about fs [c] = [] := by
      rw [about, List.filter_eq_nil_iff]
      simpa [mem_about] using hc
    rw [hsingle, List.nil_append, List.nil_append] at h
    exact ⟨h, fun hmem => absurd hmem hc⟩

end Call

/-- Calls that may change places still may once there is a union. -/
lemma Family.Independent.mono {united united' : Bool} {f g : Family}
    (h : f.Independent united g) (hle : united = true → united' = true) :
    f.Independent united' g := by
  refine ⟨h.1, fun hno => h.2 ?_⟩
  cases united with
  | false => rfl
  | true => rw [hle rfl] at hno; cases hno

namespace Call

variable {c : Call} {f g : Family} {fs : List Family} {calls calls' rest xs ys : List Call}
  {united : Bool} {q : Query}

/-- Calls of two families that may not change places are in the same order in both lists. -/
lemma Reordered.exists_about (h : Reordered united calls calls') (hfg : ¬ f.Independent united g) :
    ∃ fs, f ∈ fs ∧ g ∈ fs ∧ about fs calls = about fs calls' := by
  by_cases hsame : f = g
  · exact ⟨[f], by simp, by simp [hsame], h.within f⟩
  obtain ⟨hno, hclash⟩ : united = false ∧
      ((f = .unions ∧ (g = .orders ∨ g = .paging)) ∨
        (g = .unions ∧ (f = .orders ∨ f = .paging))) := by
    rw [Family.Independent] at hfg
    tauto
  rcases hclash with ⟨rfl, rfl | rfl⟩ | ⟨rfl, rfl | rfl⟩
  · exact ⟨_, by simp, by simp, h.ordering hno⟩
  · exact ⟨_, by simp, by simp, h.paging hno⟩
  · exact ⟨_, by simp, by simp, h.ordering hno⟩
  · exact ⟨_, by simp, by simp, h.paging hno⟩

/-! ## One call to the front -/

/-- A call changes places with all that stand before it, one after the other. -/
lemma same_runAll_moved (hc : c.family? = some f) (ys : List Call) : ∀ (xs : List Call) {q : Query},
    q.bindings.Tidy → (∀ x ∈ xs, ∃ g, x.family? = some g ∧ f.Independent q.hasUnion g) →
      (Call.runAll (xs ++ c :: ys) q).Same (Call.runAll (c :: (xs ++ ys)) q)
  | [], q, hq, _ => Call.alike_runAll (c :: ys) (fun _ _ _ _ => trivial) (.refl _ hq)
  | x :: xs, q, hq, hxs => by
      obtain ⟨g, hg, hfg⟩ := hxs x List.mem_cons_self
      have hx := (x.steps_run q hg).spares hq
      have hrest : ∀ y ∈ xs, ∃ k, y.family? = some k ∧ f.Independent (x.run q).hasUnion k := by
        intro y hy
        obtain ⟨k, hk, hfk⟩ := hxs y (List.mem_cons_of_mem x hy)
        exact ⟨k, hk, hfk.mono hx.keepsUnion⟩
      have hmoved := same_runAll_moved hc ys xs hx.tidy hrest
      have hswap := Call.alike_runAll (xs ++ ys) (fun _ _ _ _ => trivial)
        (Call.same_swap hq hc hg hfg)
      exact hmoved.trans hswap.symm

/-- **Lists of calls in different orders end with queries that agree in every clause.** -/
theorem Reordered.same : ∀ {calls calls' : List Call} {q : Query},
    Reordered q.hasUnion calls calls' → q.bindings.Tidy →
      (Call.runAll calls q).Same (Call.runAll calls' q)
  | [], calls', q, h, hq => by
      have hnil : calls' = [] := by
        rw [List.eq_nil_iff_forall_not_mem]
        intro c hc
        obtain ⟨f, hf⟩ := Option.ne_none_iff_exists'.mp (h.known' c hc)
        have hmem : c ∈ about [f] calls' := mem_about.mpr ⟨hc, f, List.mem_singleton_self f, hf⟩
        rw [← h.within f] at hmem
        cases hmem
      rw [hnil]
      exact .refl _ hq
  | c :: rest, calls', q, h, hq => by
      obtain ⟨f, hf⟩ := Option.ne_none_iff_exists'.mp (h.known c List.mem_cons_self)
      have hfirst : about [f] calls' = c :: about [f] rest := by
        rw [← h.within f]
        exact List.filter_cons_of_pos (by simp [hf])
      obtain ⟨xs, ys, rfl, hxs, -, -⟩ := List.filter_eq_cons_iff.mp hfirst
      have hc : c ∉ xs := fun hmem => hxs c hmem (by simp [hf])
      have hspares := (c.steps_run q hf).spares hq
      -- whatever stands before the call may change places with it
      have hmove : ∀ x ∈ xs, ∃ g, x.family? = some g ∧ f.Independent q.hasUnion g := by
        intro x hx
        obtain ⟨g, hg⟩ := Option.ne_none_iff_exists'.mp (h.known' x (List.mem_append_left _ hx))
        refine ⟨g, hg, ?_⟩
        by_contra hfg
        obtain ⟨fs, hfs, hgs, habout⟩ := h.exists_about hfg
        have hnil : about fs xs = [] :=
          (about_cancel hc habout).2 (mem_about.mpr ⟨List.mem_singleton_self c, f, hfs, hf⟩)
        have hmem : x ∈ about fs xs := mem_about.mpr ⟨hx, g, hgs, hg⟩
        rw [hnil] at hmem
        cases hmem
      have hno : (c.run q).hasUnion = false → q.hasUnion = false := by
        intro hafter
        by_contra hbefore
        rw [hspares.keepsUnion (Bool.not_eq_false _ ▸ hbefore)] at hafter
        cases hafter
      have hrest : Reordered (c.run q).hasUnion rest (xs ++ ys) := {
        known := fun d hd => h.known d (List.mem_cons_of_mem c hd)
        known' := fun d hd => h.known' d (by
          rw [List.mem_append] at hd ⊢
          exact hd.imp_right (List.mem_cons_of_mem c))
        within := fun k => (about_cancel hc (h.within k)).1
        ordering := fun hafter => (about_cancel hc (h.ordering (hno hafter))).1
        paging := fun hafter => (about_cancel hc (h.paging (hno hafter))).1 }
      exact (hrest.same hspares.tidy).trans (same_runAll_moved hf ys xs hq hmove).symm

end Call

/-! ## The statement -/

lemma Call.runAll_append (calls calls' : List Call) (q : Query) :
    Call.runAll (calls ++ calls') q = Call.runAll calls' (Call.runAll calls q) := by
  induction calls generalizing q with
  | nil => rfl
  | cons call calls ih => exact ih (call.run q)

/-- **Calls on different clauses commute.**  Two selects without refusals are compiled to the same
text with the same values if their programs differ by two neighbouring calls on different clauses
that have changed places, somewhere in the program or deep inside of a call; a union and an ordering
or a page may do so only where there is a union already.  It follows that the order of calls counts
within each clause only and, until there is a union, among those that unite, order and page.  Once
there is one, unions and orderings of the union may be called in any order. -/
theorem calls_on_different_clauses_commute :
    (∀ {r r' : Recipe}, r.Swapped r' → r.build.error = none → r'.build.error = none →
      r.build.kind = .select → r'.build.compile = r.build.compile) ∧
    ∀ (style : Style) (before after : List Call) {calls calls' : List Call},
      Call.Reordered (Recipe.mk style before).build.hasUnion calls calls' →
        let r : Recipe := ⟨style, before ++ calls ++ after⟩
        let r' : Recipe := ⟨style, before ++ calls' ++ after⟩
        r.build.error = none → r'.build.error = none → r.build.kind = .select →
          r'.build.compile = r.build.compile := by
  refine ⟨fun h herror herror' hkind => h.same.compile_eq hkind herror herror', ?_⟩
  intro style before after calls calls' h r r' herror herror' hkind
  have hbefore : (Recipe.mk style before).build.Same (Recipe.mk style before).build :=
    Recipe.alike_build _
  have hsame : r.build.Same r'.build := by
    simp only [r, r', Recipe.build, Call.runAll_append]
    exact Call.alike_runAll after (fun _ _ _ _ => trivial) (h.same hbefore.tidy)
  exact hsame.compile_eq hkind herror herror'

/-- In a subquery, a table is set before or after a group that is put together on a copy of the
query with that table.  On a query with a union, an ordering of the union, a page and one more
united statement come in two orders. -/
theorem calls_on_different_clauses_commute_union :
    let value (n : Int64) : Param := .value (.int n)
    let arm (n : Int64) : Call :=
      .addArm ⟨.plain .mysql, [.onTable "u", .whereEq "a" (value n) .and]⟩ true
    let group : Call := .whereGroup [.whereGroup [.whereEq "b" (value 1) .or] .and] .or
    let sub (calls : List Call) : Recipe :=
      ⟨.plain .postgres, [.onTable "t", .whereExists calls true .and]⟩
    let union (calls : List Call) : Recipe := ⟨.plain .mysql, [.onTable "t", arm 2] ++ calls ++ []⟩
    let calls : List Call := [.orderByRaw "c = ?" [.int 3], .setLimit 4, arm 5]
    let calls' : List Call := [arm 5, .setLimit 4, .orderByRaw "c = ?" [.int 3]]
    ((sub [group, .onTable "v"]).Swapped (sub [.onTable "v", group]) ∧
      (sub [.onTable "v", group]).build.compile = (sub [group, .onTable "v"]).build.compile) ∧
    (Call.Reordered (Recipe.mk (.plain .mysql) [.onTable "t", arm 2]).build.hasUnion calls calls' ∧
      (union calls').build.compile = (union calls).build.compile) := by
  intro value arm group sub union calls calls'
  obtain ⟨hswap, hreorder⟩ := calls_on_different_clauses_commute
  have hsub : (sub [group, .onTable "v"]).Swapped (sub [.onTable "v", group]) :=
    .mk _ (.later _ (.inside _ (.whereExists (.here [] rfl rfl (by decide)) true .and)))
  have hunion : Call.Reordered (Recipe.mk (.plain .mysql) [.onTable "t", arm 2]).build.hasUnion
      calls calls' := {
    known := by simp [calls, arm, Call.family?]
    known' := by simp [calls', arm, Call.family?]
    within := fun f => by cases f <;> rfl
    ordering := nofun
    paging := nofun }
  exact ⟨⟨hsub, hswap hsub rfl rfl rfl⟩, hunion, hreorder _ _ [] hunion rfl rfl rfl⟩

end SqlWeave
