import SqlWeave.Proofs.Reading.Literals
import SqlWeave.Proofs.Reading.Quoted
import SqlWeave.Style.Basic

/-!
# Places inside a document

A place inside a document is written in one of two ways.  A chain of arrows has one operand for each
step, and each of them is read back as it was.  A path is one literal with a second pair of quotes
around each step, and of the two only the outer ones are cared for: a step that holds the inner
quotes is taken for several.

* `Style.plainPath` — the path that the literal of a path holds.
* `Text.readDoubled?`, `Text.readKey?` — **the readers** of such a literal and of an operand.
* `Style.arrowChain_injective` — chains of arrows differ if their steps do.
* `Style.plainPath_eq_iff`, `Style.plainPath_inj` — paths differ if their steps do when they are put
  together with the inner quotes between them; without such quotes in a step that is always so.
* `document_places_alike_iff` — **which places are written alike**.
* `document_places_collide` — places that are, and a literal that ends early.
-/

namespace SqlWeave

/-! ## The readers -/

namespace Chars

/-- Reads an operand of an arrow, and what follows it: a literal in which single quotes are written
twice, or else a character and all the digits behind it. -/
def readKey? : List Char → Option (List Char × List Char)
  | [] => none
  | c :: r =>
    if c = '\'' then readQuoted? '\'' r
    else some (c :: r.takeWhile Char.isDigit, r.dropWhile Char.isDigit)

/-- Whether a text that follows an operand cannot be taken for a part of it. -/
def EndsKey (rest : List Char) : Prop :=
  ∀ c ∈ rest.head?, c ≠ '\'' ∧ c.isDigit = false

/-- Only digits are read as an index. -/
lemma digits_of_nat? {s : List Char} {n : ℕ} (h : nat? s = some n) : ∀ c ∈ s, c.isDigit := by
  rw [nat?] at h
  split_ifs at h with hbad
  rw [not_or, not_not] at hbad
  exact List.all_eq_true.mp hbad.2

/-- An index is a sign or a digit, with nothing but digits behind it. -/
lemma digits_of_int64? {s : List Char} (h : (int64? s).isSome) :
    ∃ c digits, s = c :: digits ∧ c ≠ '\'' ∧ c ≠ '>' ∧ ∀ d ∈ digits, d.isDigit := by
  have hint : (int? s).isSome := by
    cases hint : int? s with
    | none => simp [int64?, hint] at h
    | some n => rfl
  have hnat : ∀ {t : List Char} {f : ℕ → Int}, ((nat? t).bind fun n => some (f n)).isSome →
      ∃ n, nat? t = some n := fun {t f} ht => by
    cases hn : nat? t with
    | none => simp [hn] at ht
    | some n => exact ⟨n, rfl⟩
  rw [int?.eq_def] at hint
  -- A sign in front, of either kind, or none.
  split at hint
  · next r =>
      obtain ⟨n, hn⟩ := hnat (by simpa using hint)
      exact ⟨'-', r, rfl, by decide, by decide, digits_of_nat? hn⟩
  · next r =>
      obtain ⟨n, hn⟩ := hnat (by simpa using hint)
      exact ⟨'+', r, rfl, by decide, by decide, digits_of_nat? hn⟩
  · obtain ⟨n, hn⟩ := hnat (by simpa using hint)
    cases s with
    | nil => cases hn
    | cons c r =>
        obtain ⟨hc, hr⟩ := List.forall_mem_cons.mp (digits_of_nat? hn)
        refine ⟨c, r, rfl, ?_, ?_, hr⟩ <;>
        · rintro rfl
          exact absurd hc (by decide)

end Chars

namespace Text

/-- Reads a literal in which single quotes are written twice, and what follows it. -/
def readDoubled? (s : String) : Option (String × String) :=
  match s.toList with
  | [] => none
  | c :: r =>
    if c = '\'' then
      (Chars.readQuoted? '\'' r).map fun read => (String.ofList read.1, String.ofList read.2)
    else none

/-- Reads an operand of an arrow, and what follows it. -/
def readKey? (s : String) : Option (String × String) :=
  (Chars.readKey? s.toList).map fun read => (String.ofList read.1, String.ofList read.2)

lemma doubleQuotes_append (s t : String) :
    doubleQuotes (s ++ t) = doubleQuotes s ++ doubleQuotes t := by
  rw [doubleQuotes, String.toList_append, Chars.doubleQuotes_eq_doubled, Chars.doubled_append,
    String.ofList_append]
  rfl

/-- Doubling quotes goes through to the pieces of a path. -/
lemma doubleQuotes_intercalate (sep : String) (parts : List String) :
    doubleQuotes (sep.intercalate parts)
      = (doubleQuotes sep).intercalate (parts.map doubleQuotes) := by
  induction parts with
  | nil => rfl
  | cons first rest ih =>
      cases rest with
      | nil => simp
      | cons next rest =>
          rw [List.map_cons] at ih
          rw [String.intercalate_cons_cons, doubleQuotes_append, doubleQuotes_append, ih,
            List.map_cons, List.map_cons, String.intercalate_cons_cons]

end Text

namespace Style

/-! ## Chains of arrows -/

/-- The literal of a step that is no index. -/
lemma toList_arrowKey {step : String} (h : ¬(Chars.int64? step.toList).isSome) :
    (arrowKey step).toList = '\'' :: (Chars.doubled '\'' step.toList ++ ['\'']) := by
  rw [arrowKey, if_neg h]
  simp [Text.doubleQuotes, String.toList_append, Chars.doubleQuotes_eq_doubled]

/-- **An operand is read back**, whatever follows that is no part of it. -/
lemma readKey?_arrowKey (step : String) {rest : List Char} (h : Chars.EndsKey rest) :
    Chars.readKey? ((arrowKey step).toList ++ rest) = some (step.toList, rest) := by
  by_cases hindex : (Chars.int64? step.toList).isSome
  · obtain ⟨c, digits, hstep, hc, -, hdigits⟩ := Chars.digits_of_int64? hindex
    have hend : rest.takeWhile Char.isDigit = [] := by
      cases rest with
      | nil => rfl
      | cons d r => rw [List.takeWhile_cons_of_neg (by simp [(h d rfl).2])]
    have htake : (digits ++ rest).takeWhile Char.isDigit = digits := by
      rw [List.takeWhile_append_of_pos hdigits, hend, List.append_nil]
    have hdrop : (digits ++ rest).dropWhile Char.isDigit = rest := by
      have hsplit := List.takeWhile_append_dropWhile (p := Char.isDigit) (l := digits ++ rest)
      rw [htake] at hsplit
      exact List.append_cancel_left hsplit
    rw [arrowKey, if_pos hindex, hstep, List.cons_append, Chars.readKey?, if_neg hc, htake, hdrop]
  · have hrest : rest.head? ≠ some '\'' := fun hhead => (h _ hhead).1 rfl
    rw [toList_arrowKey hindex, List.cons_append, List.append_assoc, List.singleton_append,
      Chars.readKey?, if_pos rfl, Chars.readQuoted?_doubled _ _ hrest]

/-- So two operands that begin the same text are the same. -/
lemma arrowKey_append_inj {step step' : String} {rest rest' : List Char}
    (hrest : Chars.EndsKey rest) (hrest' : Chars.EndsKey rest')
    (h : (arrowKey step).toList ++ rest = (arrowKey step').toList ++ rest') :
    step = step' ∧ rest = rest' := by
  have hread := readKey?_arrowKey step hrest
  rw [h, readKey?_arrowKey step' hrest', Option.some.injEq, Prod.mk.injEq] at hread
  exact ⟨(String.toList_inj.mp hread.1).symm, hread.2.symm⟩

/-- No key starts with the character that would make a longer arrow of the one before it. -/
lemma exists_arrowKey_eq_cons (step : String) :
    ∃ c r, (arrowKey step).toList = c :: r ∧ c ≠ '>' := by
  by_cases hindex : (Chars.int64? step.toList).isSome
  · obtain ⟨c, digits, hstep, -, hc, -⟩ := Chars.digits_of_int64? hindex
    exact ⟨c, digits, by rw [arrowKey, if_pos hindex, hstep], hc⟩
  · exact ⟨'\'', _, toList_arrowKey hindex, by decide⟩

/-- A chain begins with an arrow, which is another one before the last step. -/
lemma toList_arrowChain_cons (step : String) (path : List String) :
    (arrowChain (step :: path)).toList = '-' :: '>' :: ((if path = [] then ['>'] else [])
      ++ ((arrowKey step).toList ++ (arrowChain path).toList)) := by
  cases path with
  | nil => simp [arrowChain, String.toList_append]
  | cons next path => simp [arrowChain, String.toList_append]

/-- A chain cannot be taken for a part of the operand before it. -/
lemma endsKey_arrowChain (path : List String) : Chars.EndsKey (arrowChain path).toList := by
  cases path with
  | nil => simp [arrowChain, Chars.EndsKey]
  | cons step path =>
      rw [toList_arrowChain_cons]
      intro c hc
      obtain rfl := Option.some.inj hc
      decide

/-- The arrow before the last step cannot be taken for that before another step. -/
lemma arrowChain_last_ne (step step' : String) {path : List String} (h : path ≠ []) :
    arrowChain [step] ≠ arrowChain (step' :: path) := by
  intro heq
  obtain ⟨c, r, hkey, hc⟩ := exists_arrowKey_eq_cons step'
  have hchars := congrArg String.toList heq
  rw [toList_arrowChain_cons, toList_arrowChain_cons, if_pos rfl, if_neg h, hkey] at hchars
  simp only [List.nil_append, List.cons_append, List.cons.injEq, true_and] at hchars
  exact hc hchars.1.symm

/-- A chain with a step is not the empty one. -/
lemma arrowChain_cons_ne_nil (step : String) (path : List String) :
    arrowChain (step :: path) ≠ arrowChain [] := by
  intro heq
  have hchars := congrArg String.toList heq
  rw [toList_arrowChain_cons] at hchars
  cases hchars

/-- **Chains of arrows differ if their steps do.** -/
theorem arrowChain_injective : Function.Injective arrowChain := by
  intro p
  induction p with
  | nil =>
      intro q h
      cases q with
      | nil => rfl
      | cons step path => exact absurd h.symm (arrowChain_cons_ne_nil step path)
  | cons step path ih =>
      intro q h
      cases q with
      | nil => exact absurd h (arrowChain_cons_ne_nil step path)
      | cons step' path' =>
          -- Both steps are the last one of their path, or neither is.
          have hlast : path = [] ↔ path' = [] := by
            constructor
            · rintro rfl
              by_contra hpath'
              exact arrowChain_last_ne step step' hpath' h
            · rintro rfl
              by_contra hpath
              exact arrowChain_last_ne step' step hpath h.symm
          have hchars := congrArg String.toList h
          rw [toList_arrowChain_cons, toList_arrowChain_cons, if_congr hlast rfl rfl,
            List.cons.injEq, List.cons.injEq] at hchars
          obtain ⟨hstep, hrest⟩ := arrowKey_append_inj (endsKey_arrowChain path)
            (endsKey_arrowChain path') (List.append_cancel_left hchars.2.2)
          rw [hstep, ih (String.toList_inj.mp hrest)]

/-! ## Paths -/

/-- A path as a JSON function sees it, with quotes around each step. -/
def plainPath (path : List String) : String :=
  "$." ++ ".".intercalate (path.map fun step => "\"" ++ step ++ "\"")

/-- The literal of a path is that of any text. -/
lemma quotedPath_eq (path : List String) :
    quotedPath path = "'" ++ Text.doubleQuotes (plainPath path) ++ "'" := by
  have hroot : Text.doubleQuotes "$." = "$." := by decide
  have hdot : Text.doubleQuotes "." = "." := by decide
  have hquote : Text.doubleQuotes "\"" = "\"" := by decide
  have hopening : "'$." = "'" ++ "$." := by decide
  simp only [quotedPath, plainPath, Text.doubleQuotes_append, Text.doubleQuotes_intercalate,
    List.map_map, Function.comp_def, hroot, hdot, hquote, hopening, String.append_assoc]

/-- The literal of a path is read back, whatever but a single quote follows it. -/
lemma readDoubled?_quotedPath (path : List String) {rest : String}
    (h : rest.toList.head? ≠ some '\'') :
    Text.readDoubled? (quotedPath path ++ rest) = some (plainPath path, rest) := by
  have htext : (quotedPath path ++ rest).toList
      = '\'' :: (Chars.doubled '\'' (plainPath path).toList ++ '\'' :: rest.toList) := by
    rw [quotedPath_eq]
    simp [Text.doubleQuotes, String.toList_append, Chars.doubleQuotes_eq_doubled]
  rw [Text.readDoubled?, htext]
  simp [Chars.readQuoted?_doubled '\'' (plainPath path).toList h]

/-- Doubled or not, the quotes of two paths agree or differ together. -/
lemma quotedPath_eq_iff {p q : List String} :
    quotedPath p = quotedPath q ↔ plainPath p = plainPath q := by
  constructor
  · intro h
    have hend : "".toList.head? ≠ some '\'' := by decide
    have hread := readDoubled?_quotedPath p hend
    rw [h, readDoubled?_quotedPath q hend] at hread
    exact (Prod.mk.inj (Option.some.inj hread)).1.symm
  · intro h
    rw [quotedPath_eq, quotedPath_eq, h]

/-- Between two steps there is all that a step would need to look like two. -/
lemma plainPath_eq {path : List String} (h : path ≠ []) :
    plainPath path = "$.\"" ++ "\".\"".intercalate path ++ "\"" := by
  have hsteps : ".".intercalate (path.map fun step => "\"" ++ step ++ "\"")
      = "\"" ++ "\".\"".intercalate path ++ "\"" := by
    induction path with
    | nil => exact absurd rfl h
    | cons step rest ih =>
        cases rest with
        | nil => simp
        | cons next rest =>
            have hnext := ih (List.cons_ne_nil next rest)
            rw [List.map_cons] at hnext ⊢
            have hbetween : "\"" ++ ("." ++ "\"") = "\".\"" := by decide
            rw [List.map_cons, String.intercalate_cons_cons, hnext, String.intercalate_cons_cons]
            simp only [String.append_assoc, ← hbetween]
  have hroot : "$.\"" = "$." ++ "\"" := by decide
  rw [plainPath, hsteps, hroot]
  simp only [String.append_assoc]

/-- **Paths are the same if their steps are, once put together with the quotes between them.** -/
theorem plainPath_eq_iff {p q : List String} (hp : p ≠ []) (hq : q ≠ []) :
    plainPath p = plainPath q ↔ "\".\"".intercalate p = "\".\"".intercalate q := by
  rw [plainPath_eq hp, plainPath_eq hq, String.append_left_inj, String.append_right_inj]

/-- **Without the inner quotes in a step, each step is read back.** -/
lemma readParts?_plainPath {path : List String} (hpath : path ≠ [])
    (hfree : ∀ step ∈ path, '"' ∉ step.toList) :
    Chars.readParts? '"' '"' ((plainPath path).toList.drop 2)
      = some (path.map String.toList) := by
  have htext : (plainPath path).toList.drop 2
      = ['.'].intercalate (path.map fun step => '"' :: (step.toList ++ ['"'])) := by
    rw [plainPath, String.toList_append, String.toList_intercalate, List.map_map]
    simp [Function.comp_def, String.toList_append]
  rw [htext]
  refine Chars.readParts?_intercalate (by decide) hpath fun step hstep rest hrest => ?_
  rw [List.cons_append, List.append_assoc, List.singleton_append, Chars.readPart?,
    if_neg (by decide), if_pos rfl]
  have hquoted := Chars.readQuoted?_doubled '"' step.toList hrest
  rwa [Chars.doubled_of_notMem (hfree step hstep)] at hquoted

/-- **Without double quotes in its steps a path is read off its text**: the steps stand between
quotes. -/
theorem plainPath_inj {p q : List String} (hp : p ≠ []) (hq : q ≠ [])
    (hsteps : ∀ step ∈ p ++ q, '"' ∉ step.toList) (h : plainPath p = plainPath q) : p = q := by
  have hread := readParts?_plainPath hp fun step hstep => hsteps step (List.mem_append_left q hstep)
  rw [h, readParts?_plainPath hq fun step hstep => hsteps step (List.mem_append_right p hstep)]
    at hread
  have hinjective : Function.Injective String.toList := fun _ _ => String.toList_inj.mp
  exact (List.map_injective_iff.mpr hinjective (Option.some.inj hread)).symm

end Style

/-! ## The statement -/

/-- **Which places inside a document are written alike**, in the dialects that can write them.  In
chains of arrows, only the same ones.  In paths, those whose steps are the same text when they are
put together with a quote, a dot and a quote between each two; if no step holds such a quote, again
only the same ones.  The literal of a path does not end early: a reader that takes two single quotes
for one finds all of it.  Nor does the operand of an arrow. -/
theorem document_places_alike_iff (s : Style) (hdialect : s.dialect ≠ .ansi) (field : String)
    {p q : List String} (hp : p ≠ []) (hq : q ≠ []) :
    (s.jsonPlace? field p).isSome ∧
    (s.jsonPlace? field p = s.jsonPlace? field q ↔
      if s.dialect = .postgres then p = q
      else "\".\"".intercalate p = "\".\"".intercalate q) ∧
    ((∀ step ∈ p ++ q, '"' ∉ step.toList) →
      (s.jsonPlace? field p = s.jsonPlace? field q ↔ p = q)) ∧
    (∀ rest : String, rest.toList.head? ≠ some '\'' →
      Text.readDoubled? (Style.quotedPath p ++ rest) = some (Style.plainPath p, rest)) ∧
    ∀ step rest : String, Chars.EndsKey rest.toList →
      Text.readKey? (Style.arrowKey step ++ rest) = some (step, rest) := by
  have halike : s.jsonPlace? field p = s.jsonPlace? field q ↔
      if s.dialect = .postgres then p = q else Style.plainPath p = Style.plainPath q := by
    rw [← Style.quotedPath_eq_iff, Style.jsonPlace?, Style.jsonPlace?]
    cases h : s.dialect with
    | ansi => exact absurd h hdialect
    | postgres => simp [Style.arrowChain_injective.eq_iff]
    | mysql | sqlServer | sqlite => simp
  refine ⟨?_, ?_, fun hsteps => ?_, fun rest => Style.readDoubled?_quotedPath p,
    fun step rest hrest => ?_⟩
  · rw [Style.jsonPlace?]
    cases h : s.dialect with
    | ansi => exact absurd h hdialect
    | mysql | postgres | sqlServer | sqlite => rfl
  · rw [halike, Style.plainPath_eq_iff hp hq]
  · rw [halike]
    refine ⟨fun h => ?_, fun h => by simp [h]⟩
    split_ifs at h
    · exact h
    · exact Style.plainPath_inj hp hq hsteps h
  · rw [Text.readKey?, String.toList_append, Style.readKey?_arrowKey step hrest, Option.map_some,
      String.ofList_toList, String.ofList_toList]

/-- Dots and single quotes in a step do not make another place of it. -/
theorem document_places_alike_iff_dots :
    let s := Style.plain .mysql
    let p := ["a.b", "it's"]
    let q := ["a", "b.it's"]
    s.dialect ≠ .ansi ∧ p ≠ [] ∧ q ≠ [] ∧ (∀ step ∈ p ++ q, '"' ∉ step.toList) ∧
    Chars.EndsKey "->>7".toList ∧
    s.jsonPlace? "f" p ≠ s.jsonPlace? "f" q ∧
    Text.readDoubled? ("'$.\"a.b\".\"it''s\"'" ++ ", 1)")
      = some ("$.\"a.b\".\"it's\"", ", 1)") ∧
    Text.readKey? ("'it''s'" ++ "->>7") = some ("it's", "->>7") := by
  intro s p q
  have hdialect : s.dialect ≠ .ansi := by decide
  have hp : p ≠ [] := List.cons_ne_nil _ _
  have hq : q ≠ [] := List.cons_ne_nil _ _
  have hsteps : ∀ step ∈ p ++ q, '"' ∉ step.toList := by decide
  have hends : Chars.EndsKey "->>7".toList := by
    intro c hc
    obtain rfl := Option.some.inj hc
    decide
  obtain ⟨-, -, hsame, hpath, hkey⟩ := document_places_alike_iff s hdialect "f" hp hq
  have hpathText : Style.quotedPath p = "'$.\"a.b\".\"it''s\"'" := by decide +kernel
  have hplainText : Style.plainPath p = "$.\"a.b\".\"it's\"" := by decide +kernel
  have hkeyText : Style.arrowKey "it's" = "'it''s'" := by decide +kernel
  refine ⟨hdialect, hp, hq, hsteps, hends, fun h => ?_, ?_, ?_⟩
  · exact absurd ((hsame hsteps).mp h) (by decide)
  · have hread := hpath ", 1)" (by decide)
    rwa [hpathText, hplainText] at hread
  · have hread := hkey "it's" "->>7" hends
    rwa [hkeyText] at hread

/-- A double quote in a step makes one step of two, and a backslash before a single quote ends the
literal for a reader that knows backslashes. -/
theorem document_places_collide :
    ["a\".\"b"] ≠ ["a", "b"] ∧ Text.hasArrow "a\".\"b" = false ∧
    (Style.plain .mysql).jsonPlace? "f" ["a\".\"b"]
      = (Style.plain .mysql).jsonPlace? "f" ["a", "b"] ∧
    (Style.plain .sqlServer).jsonPlace? "f" ["a\".\"b"]
      = (Style.plain .sqlServer).jsonPlace? "f" ["a", "b"] ∧
    (Style.plain .sqlite).jsonPlace? "f" ["a\".\"b"]
      = (Style.plain .sqlite).jsonPlace? "f" ["a", "b"] ∧
    Text.readText? (Style.quotedPath ["\\' or 1 = 1 -- "])
      = some ("$.\"'", " or 1 = 1 -- \"'") := by
  decide +kernel

end SqlWeave
