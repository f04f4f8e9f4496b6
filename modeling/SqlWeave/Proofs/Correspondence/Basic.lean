import Mathlib.Data.List.Forall2
import Mathlib.Tactic.Common
import SqlWeave.Proofs.Placeholder.Neat
import SqlWeave.Query.Filter
import SqlWeave.Sql.Clause

/-!
# Two ways to write one statement

Two programs that make the same calls and differ only in values and raw texts end in statements that
differ only in the same way.  What "in the same way" means depends on the question asked: that the
texts are equal, or that they become equal once the values are written in.  What a proof needs of it
does not, so the programs are followed once for all such questions.

* `Correspondence` — **a question**: how texts with their values correspond, and what has to be
  asked of the parts of a program for this to hold of what is written.
* `Outcome` — two computations that are refused for one cause or succeed with related results.
* `Correspondence.Parts` — lists whose items correspond one by one, where each item accounts for
  its share of the values.
* `Correspondence.Parts.phrase`, `Correspondence.Parts.intercalate`, `Correspondence.Parts.mapM` —
  what such lists are put together to corresponds.
-/

namespace SqlWeave

/-- How the texts of two runs correspond, each with the values of its placeholders.  The other
fields say what is asked of the parts that are written: names, operators, operands and the
right-hand sides of assignments. -/
structure Correspondence where
  text : String → List Value → String → List Value → Prop
  /-- Values that are kept for a clause, whatever the texts are. -/
  values : List Value → List Value → Prop
  name : String → Prop
  style : Style → Prop
  operator : String → Prop
  operand : Param → Param → Prop
  assigned : Style → String → Param → Param → Prop
  /-- Whether texts correspond regardless of which values they have. -/
  loose : Prop
  text_append : ∀ {t vs t' vs' u ws u' ws'}, text t vs t' vs' → text u ws u' ws' →
    text (t ++ u) (vs ++ ws) (t' ++ u') (vs' ++ ws')
  text_trim : ∀ {t vs t' vs'}, text t vs t' vs' → text (Text.trim t) vs (Text.trim t') vs'
  text_eq_empty : ∀ {t vs t' vs'}, text t vs t' vs' → (t = "" ↔ t' = "")
  text_loose : ∀ {t vs t' vs' ws ws'}, loose → text t vs t' vs' → values ws ws' →
    text t ws t' ws'
  values_nil : values [] []
  values_eq_nil : ∀ {vs}, values [] vs → vs = []
  values_append : ∀ {vs vs' ws ws'}, values vs vs' → values ws ws' →
    values (vs ++ ws) (vs' ++ ws')
  values_of_text : ∀ {t vs t' vs'}, text t vs t' vs' → values vs vs'
  text_of_neat : ∀ {t}, Text.Neat t → text t [] t []
  name_of_neat : ∀ {t}, Text.Neat t → name t
  text_table : ∀ {s n}, style s → name n → text (s.table n) [] (s.table n) []
  text_tableAlias : ∀ {s n}, style s → name n →
    text (s.tableAlias (.named n)) [] (s.tableAlias (.named n)) []
  text_segment : ∀ {s n}, style s → name n → text (s.segment n) [] (s.segment n) []
  text_column : ∀ {s n}, style s → name n → text (s.column n) [] (s.column n) []
  text_lower : ∀ {d : Dialect} {o}, d.knows o = true → operator o →
    text (Text.lower o) [] (Text.lower o) []
  text_of_operand : ∀ {p p'}, operand p p' → text p.sql p.value?.toList p'.sql p'.value?.toList
  text_of_assigned : ∀ {s n p p'}, style s → name n → assigned s n p p' →
    text (s.assignment n p).1 (s.assignment n p).2 (s.assignment n p').1 (s.assignment n p').2

/-! ## Outcomes -/

/-- Both are refused for the same cause, or both succeed and the results are related. -/
inductive Outcome {ε α β : Type} (R : α → β → Prop) : Except ε α → Except ε β → Prop
  | ok {a : α} {b : β} (h : R a b) : Outcome R (.ok a) (.ok b)
  | error (e : ε) : Outcome R (.error e) (.error e)

namespace Outcome

variable {ε α β α' β' : Type} {R : α → β → Prop} {S : α' → β' → Prop}
  {x : Except ε α} {y : Except ε β}

/-- What is done with the results of both computations keeps the outcome, if it keeps the
relation. -/
lemma map (h : Outcome R x y) {f : α → α'} {g : β → β'} (hfg : ∀ {a b}, R a b → S (f a) (g b)) :
    Outcome S (x.map f) (y.map g) := by
  cases h with
  | ok h => exact .ok (hfg h)
  | error e => exact .error e

lemma mono {R' : α → β → Prop} (h : Outcome R x y) (himp : ∀ {a b}, R a b → R' a b) :
    Outcome R' x y := by
  cases h with
  | ok h => exact .ok (himp h)
  | error e => exact .error e

/-- **Two computations go on alike** from related results, and a refusal ends both. -/
lemma bind (h : Outcome R x y) {f : α → Except ε α'} {g : β → Except ε β'}
    (hfg : ∀ {a b}, R a b → Outcome S (f a) (g b)) : Outcome S (x >>= f) (y >>= g) := by
  cases h with
  | ok h => exact hfg h
  | error e => exact .error e

/-- If one computation succeeds, so does the other, with a related result. -/
lemma ok_of_ok (h : Outcome R x y) {a : α} (hx : x = .ok a) : ∃ b, y = .ok b ∧ R a b := by
  cases h with
  | ok h =>
      cases hx
      exact ⟨_, rfl, h⟩
  | error e => cases hx

end Outcome

namespace Correspondence

variable {C : Correspondence}

/-! ## Texts -/

/-- A text without values that is the same in both runs. -/
def Plain (C : Correspondence) (t : String) : Prop :=
  C.text t [] t []

/-- Two texts without values, one behind the other. -/
lemma Plain.append {t u : String} (ht : C.Plain t) (hu : C.Plain u) : C.Plain (t ++ u) :=
  C.text_append ht hu

/-- Behind a text with values there may be one without. -/
lemma text_append_plain {t t' u : String} {vs vs' : List Value} (h : C.text t vs t' vs')
    (hu : C.Plain u) : C.text (t ++ u) vs (t' ++ u) vs' := by
  have happend := C.text_append h hu
  rwa [List.append_nil, List.append_nil] at happend

lemma text_plain_append {t t' u : String} {vs vs' : List Value} (hu : C.Plain u)
    (h : C.text t vs t' vs') : C.text (u ++ t) vs (u ++ t') vs' :=
  C.text_append hu h

/-- A text between two without values. -/
lemma text_between {t t' u w : String} {vs vs' : List Value} (hu : C.Plain u)
    (h : C.text t vs t' vs') (hw : C.Plain w) :
    C.text (u ++ t ++ w) vs (u ++ t' ++ w) vs' :=
  text_append_plain (text_plain_append hu h) hw

/-- Operands that correspond in a comparison with a column: both are null, or neither is and what is
written for them corresponds. -/
def Comparand (C : Correspondence) (column : String) (p p' : Param) : Prop :=
  p.isNull = p'.isNull ∧
    (p.isNull = false → C.operand (Query.operandFor column p) (Query.operandFor column p'))

/-- Two pairs of one name, with operands that correspond beside it. -/
def PairMatch (C : Correspondence) (R : String → Param → Param → Prop) (a a' : String × Param) :
    Prop :=
  a.1 = a'.1 ∧ C.name a.1 ∧ R a.1 a.2 a'.2

/-! ## Parts -/

/-- Two lists whose items correspond one by one, with values to which every item contributes its
own share.  Where the values do not matter to the texts, they need not be shared out. -/
inductive Parts (C : Correspondence) {α : Type} (R : α → List Value → α → List Value → Prop) :
    List α → List Value → List α → List Value → Prop
  | nil : Parts C R [] [] [] []
  | cons {a a' : α} {vs vs' : List Value} {as as' : List α} {ws ws' : List Value}
    (h : R a vs a' vs') (hs : Parts C R as ws as' ws') :
    Parts C R (a :: as) (vs ++ ws) (a' :: as') (vs' ++ ws')
  | loose {as as' : List α} {vs vs' ws ws' : List Value} (hloose : C.loose)
    (h : Parts C R as vs as' vs') (hw : C.values ws ws') : Parts C R as ws as' ws'

/-- An item that is written in some way, in corresponding ways under every style. -/
def Written {α β : Type} (C : Correspondence) (T : β → List Value → β → List Value → Prop)
    (write : Style → α → Except QueryError β) (a : α) (vs : List Value) (a' : α)
    (vs' : List Value) : Prop :=
  C.values vs vs' ∧
    ∀ s, C.style s → Outcome (fun b b' => T b vs b' vs') (write s a) (write s a')

/-- Texts that stand beside one label. -/
def labelled {κ : Type} (C : Correspondence) (p : κ × String) (vs : List Value) (p' : κ × String)
    (vs' : List Value) : Prop :=
  p.1 = p'.1 ∧ C.text p.2 vs p'.2 vs'

namespace Parts

variable {α β : Type} {R : α → List Value → α → List Value → Prop}
  {as as' bs bs' : List α} {vs vs' ws ws' : List Value}

/-- A list of one item has the values of that item. -/
lemma single {a a' : α} (h : R a vs a' vs') : C.Parts R [a] vs [a'] vs' := by
  have hcons := Parts.cons (C := C) h Parts.nil
  rwa [List.append_nil, List.append_nil] at hcons

/-- The items are related one by one, so there are as many of them. -/
lemma length_eq (h : C.Parts R as vs as' vs') : as.length = as'.length := by
  induction h with
  | nil => rfl
  | cons _ _ ih => rw [List.length_cons, List.length_cons, ih]
  | loose _ _ _ ih => exact ih

lemma isEmpty_eq (h : C.Parts R as vs as' vs') : as.isEmpty = as'.isEmpty := by
  have hlength := h.length_eq
  cases as <;> cases as' <;> first | rfl | cases hlength

/-- If the values of the items are kept, those of the list are. -/
lemma values (h : C.Parts R as vs as' vs')
    (hR : ∀ {a vs a' vs'}, R a vs a' vs' → C.values vs vs') : C.values vs vs' := by
  induction h with
  | nil => exact C.values_nil
  | cons h _ ih => exact C.values_append (hR h) ih
  | loose _ _ hw _ => exact hw

/-- Two lists, one behind the other: the values stand in the order of the items. -/
lemma append (h : C.Parts R as vs as' vs') (hs : C.Parts R bs ws bs' ws')
    (hR : ∀ {a vs a' vs'}, R a vs a' vs' → C.values vs vs') :
    C.Parts R (as ++ bs) (vs ++ ws) (as' ++ bs') (vs' ++ ws') := by
  induction h with
  | nil => exact hs
  | cons h _ ih =>
      rw [List.append_assoc, List.append_assoc]
      exact Parts.cons h ih
  | loose hloose _ hw ih => exact Parts.loose hloose ih (C.values_append hw (hs.values hR))

/-- Items that are written in a way that keeps the relation. -/
lemma map {T : β → List Value → β → List Value → Prop} {f : α → β}
    (h : C.Parts R as vs as' vs')
    (hR : ∀ {a vs a' vs'}, R a vs a' vs' → T (f a) vs (f a') vs') :
    C.Parts T (as.map f) vs (as'.map f) vs' := by
  induction h with
  | nil => exact Parts.nil
  | cons h _ ih => exact Parts.cons (hR h) ih
  | loose hloose _ hw ih => exact Parts.loose hloose ih hw

/-- Items that are written one after the other. -/
lemma mapM {T : β → List Value → β → List Value → Prop} {write : Style → α → Except QueryError β}
    (h : C.Parts (C.Written T write) as vs as' vs') {s : Style} (hs : C.style s) :
    Outcome (fun bs bs' => C.Parts T bs vs bs' vs') (as.mapM (write s)) (as'.mapM (write s)) := by
  induction h with
  | nil => exact Outcome.ok Parts.nil
  | cons h _ ih =>
      rw [List.mapM_cons, List.mapM_cons]
      refine (h.2 s hs).bind fun hb => ih.bind fun hbs => ?_
      exact Outcome.ok (Parts.cons hb hbs)
  | loose hloose _ hw ih => exact ih.mono fun hbs => Parts.loose hloose hbs hw

/-! ### Texts put together -/

variable {ts ts' : List String}

/-- Texts with a separator between them. -/
lemma intercalate {sep : String} (hsep : C.Plain sep) (h : C.Parts C.text ts vs ts' vs') :
    C.text (sep.intercalate ts) vs (sep.intercalate ts') vs' := by
  induction h with
  | nil => exact C.text_of_neat Text.neat_empty
  | @cons t t' us us' ts ts' ws ws' h hs ih =>
      cases ts with
      | nil =>
          cases ts' with
          | nil =>
              simp only [String.intercalate_singleton]
              rw [← String.append_empty (s := t), ← String.append_empty (s := t')]
              exact C.text_append h ih
          | cons _ _ => exact absurd hs.length_eq (by simp)
      | cons _ _ =>
          cases ts' with
          | nil => exact absurd hs.length_eq (by simp)
          | cons _ _ =>
              rw [String.intercalate_cons_cons, String.intercalate_cons_cons]
              exact C.text_append (text_append_plain h hsep) ih
  | loose hloose _ hw ih => exact C.text_loose hloose ih hw

/-- Texts without values. -/
lemma plain (h : ∀ t ∈ ts, C.Plain t) : C.Parts C.text ts [] ts [] := by
  induction ts with
  | nil => exact Parts.nil
  | cons t ts ih =>
      obtain ⟨ht, hts⟩ := List.forall_mem_cons.mp h
      exact Parts.cons ht (ih hts)

/-- One more fragment of a phrase. -/
lemma text_addFragment {w w' t t' : String} (hw : C.text w vs w' vs') (ht : C.text t ws t' ws') :
    C.text (Text.addFragment w t) (vs ++ ws) (Text.addFragment w' t') (vs' ++ ws') := by
  have htrim := C.text_trim ht
  have hfragment := C.text_eq_empty htrim
  have hwritten := C.text_eq_empty hw
  simp only [Text.addFragment, String.isEmpty_iff]
  by_cases hempty : Text.trim t = ""
  · rw [if_pos hempty, if_pos (hfragment.mp hempty)]
    have happend := C.text_append hw htrim
    rwa [hempty, hfragment.mp hempty, String.append_empty, String.append_empty] at happend
  · rw [if_neg hempty, if_neg fun h => hempty (hfragment.mpr h)]
    by_cases hfirst : w = ""
    · rw [if_pos hfirst, if_pos (hwritten.mp hfirst)]
      have happend := C.text_append hw htrim
      rwa [hfirst, hwritten.mp hfirst, String.empty_append, String.empty_append] at happend
    · rw [if_neg hfirst, if_neg fun h => hfirst (hwritten.mpr h)]
      exact C.text_append (text_append_plain hw (C.text_of_neat (by decide))) htrim

/-- The fragments of a phrase. -/
lemma phrase (h : C.Parts C.text ts vs ts' vs') :
    C.text (Text.phrase ts) vs (Text.phrase ts') vs' := by
  have hfold : ∀ {w us w' us'}, C.text w us w' us' →
      C.text (ts.foldl Text.addFragment w) (us ++ vs) (ts'.foldl Text.addFragment w')
        (us' ++ vs') := by
    induction h with
    | nil =>
        intro w us w' us' hw
        simpa using hw
    | cons h _ ih =>
        intro w us w' us' hw
        rw [← List.append_assoc, ← List.append_assoc]
        exact ih (text_addFragment hw h)
    | loose hloose _ hws ih =>
        intro w us w' us' hw
        exact C.text_loose hloose (ih hw) (C.values_append (C.values_of_text hw) hws)
  exact hfold (C.text_of_neat Text.neat_empty)

/-- A phrase in which only the first fragment has values. -/
lemma phrase_cons_plain {t t' : String} (h : C.text t vs t' vs') (hts : ∀ u ∈ ts, C.Plain u) :
    C.text (Text.phrase (t :: ts)) vs (Text.phrase (t' :: ts)) vs' := by
  have hparts := (Parts.cons h (plain hts)).phrase
  rwa [List.append_nil, List.append_nil] at hparts

end Parts

end Correspondence

end SqlWeave
