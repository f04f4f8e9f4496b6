import Mathlib.Algebra.Ring.Parity
import Mathlib.Data.List.DropRight
import Mathlib.Tactic.Common
import SqlWeave.Value.Literal

/-!
# Literals are read back

A literal that is written without a connection has backslash forms for the characters that could end
it early or be lost on the way.  A reader that knows these forms finds its end, whatever follows it,
and the text that it was written for; the digits of a byte string need no such forms.

* `Chars.unescape` — **the decoder**: backslash forms stand for characters, all else for itself.
* `Chars.EndsEscaping` — whether the next character would be escaped.
* `Chars.readBody?`, `Text.readText?`, `Text.readBytes?` — **the readers** of literals.
* `Chars.unescape_escape`, `Chars.endsEscaping_of_escape` — what was escaped is read back, and every
  quote in it is escaped.
* `literals_read_back` — the statement.
-/

namespace SqlWeave

namespace Chars

/-! ## Backslash forms -/

/-- The character that is meant by a letter behind a backslash. -/
def meant? (c : Char) : Option Char :=
  if c = '\\' then some '\\'
  else if c = '0' then some '\x00'
  else if c = 'n' then some '\n'
  else if c = 'r' then some '\r'
  else if c = '\'' then some '\''
  else if c = '"' then some '"'
  else if c = 'Z' then some '\x1a'
  else none

/-- Reads backslash forms as the characters that they stand for.  Any other character stands for
itself, and so does a backslash that is part of no form. -/
def unescape : List Char → List Char
  | [] => []
  | [c] => [c]
  | c :: d :: r =>
    if c = '\\' then
      match meant? d with
      | some e => e :: unescape r
      | none => c :: unescape (d :: r)
    else c :: unescape (d :: r)

/-- A character that opens no form stands for itself. -/
lemma unescape_cons {c : Char} (h : c ≠ '\\') (s : List Char) :
    unescape (c :: s) = c :: unescape s := by
  cases s with
  | nil => rfl
  | cons d r => rw [unescape, if_neg h]

/-- A form stands for the character that is meant by its letter. -/
lemma unescape_form {c d : Char} (h : meant? d = some c) (s : List Char) :
    unescape ('\\' :: d :: s) = c :: unescape s := by
  rw [unescape, if_pos rfl, h]

/-- The characters that do not stand for themselves in a literal. -/
def specials : List Char :=
  ['\\', '\x00', '\n', '\r', '\'', '"', '\x1a']

/-- **One character.**  It is written as a form that means it, or is no special one and stands for
itself. -/
lemma escapeChar_cases (c : Char) :
    (∃ d, escapeChar c = ['\\', d] ∧ meant? d = some c) ∨
      escapeChar c = [c] ∧ c ∉ specials := by
  unfold escapeChar
  split_ifs with hbackslash hnull hline hreturn hsingle hdouble hcontrol
  · exact .inl ⟨'\\', rfl, by rw [hbackslash]; rfl⟩
  · exact .inl ⟨'0', rfl, by rw [hnull]; rfl⟩
  · exact .inl ⟨'n', rfl, by rw [hline]; rfl⟩
  · exact .inl ⟨'r', rfl, by rw [hreturn]; rfl⟩
  · exact .inl ⟨'\'', rfl, by rw [hsingle]; rfl⟩
  · exact .inl ⟨'"', rfl, by rw [hdouble]; rfl⟩
  · exact .inl ⟨'Z', rfl, by rw [hcontrol]; rfl⟩
  · exact .inr ⟨rfl, by simp_all [specials]⟩

lemma escape_cons (c : Char) (s : List Char) : escape (c :: s) = escapeChar c ++ escape s :=
  List.flatMap_cons

lemma escape_append (s t : List Char) : escape (s ++ t) = escape s ++ escape t :=
  List.flatMap_append

/-- **What was escaped is read back.** -/
theorem unescape_escape (s : List Char) : unescape (escape s) = s := by
  induction s with
  | nil => rfl
  | cons c r ih =>
      rw [escape_cons]
      rcases escapeChar_cases c with ⟨d, hform, hmeant⟩ | ⟨hplain, hspecial⟩
      · rw [hform, List.cons_append, List.cons_append, List.nil_append, unescape_form hmeant, ih]
      · have hc : c ≠ '\\' := fun h => hspecial (h ▸ List.mem_cons_self)
        rw [hplain, List.singleton_append, unescape_cons hc, ih]

/-! ## What is left of special characters -/

/-- The characters that no literal holds. -/
def controls : List Char :=
  ['\x00', '\n', '\r', '\x1a']

/-- The letter of a form is no control character. -/
lemma notMem_controls_of_meant {c d : Char} (h : meant? d = some c) : d ∉ controls := by
  intro hd
  have hnone : controls.all fun d => (meant? d).isNone := by decide
  have hd := List.all_eq_true.mp hnone d hd
  rw [h] at hd
  cases hd

/-- **None of the control characters is left in an escaped text**: each has a form, and forms have
none. -/
lemma notMem_controls_of_mem_escape {s : List Char} {c : Char} (h : c ∈ escape s) :
    c ∉ controls := by
  obtain ⟨d, -, hd⟩ := List.mem_flatMap.mp h
  rcases escapeChar_cases d with ⟨e, hform, hmeant⟩ | ⟨hplain, hspecial⟩
  · rw [hform, List.mem_cons, List.mem_singleton] at hd
    rcases hd with rfl | rfl
    · decide
    · exact notMem_controls_of_meant hmeant
  · rw [hplain, List.mem_singleton] at hd
    subst hd
    have hsubset : controls ⊆ specials := by decide
    exact fun hc => hspecial (hsubset hc)

/-! ## Quotes -/

/-- Whether a text ends in a backslash that is not itself escaped: the backslashes at its end are
odd in number. -/
def EndsEscaping (s : List Char) : Prop :=
  Odd (s.rtakeWhile (· == '\\')).length

/-- Behind an escaped text nothing is escaped. -/
lemma not_endsEscaping_escape (s : List Char) : ¬EndsEscaping (escape s) := by
  rw [EndsEscaping, Nat.not_odd_iff_even]
  -- On the last character: what stands before it counts only if it is a backslash.
  induction s using List.reverseRecOn with
  | nil => exact Even.zero
  | append_singleton s c ih =>
      have hlast : escape [c] = escapeChar c := by simp [escape]
      rw [escape_append, hlast]
      rcases escapeChar_cases c with ⟨d, hform, -⟩ | ⟨hplain, hspecial⟩
      · have hsplit : escape s ++ ['\\', d] = escape s ++ ['\\'] ++ [d] := by simp
        rw [hform, hsplit]
        by_cases hd : d = '\\'
        · subst hd
          rw [List.rtakeWhile_concat_pos _ _ _ rfl, List.rtakeWhile_concat_pos _ _ _ rfl,
            List.length_append, List.length_append, Nat.add_assoc]
          exact ih.add even_two
        · rw [List.rtakeWhile_concat_neg _ _ _ (by simpa using hd)]
          exact Even.zero
      · have hc : c ≠ '\\' := fun h => hspecial (h ▸ List.mem_cons_self)
        rw [hplain, List.rtakeWhile_concat_neg _ _ _ (by simpa using hc)]
        exact Even.zero

/-- A character of an escaped text comes from one character, those before it from those before. -/
lemma exists_escapeChar_of_escape {s before after : List Char} {mark : Char}
    (h : escape s = before ++ mark :: after) :
    ∃ front c a b, before = escape front ++ a ∧ escapeChar c = a ++ mark :: b := by
  induction s generalizing before with
  | nil =>
      exact absurd (congrArg List.length h) (by simp [escape])
  | cons c r ih =>
      rw [escape_cons, List.append_eq_append_iff] at h
      rcases h with ⟨rest, rfl, hrest⟩ | ⟨rest, hchar, hrest⟩
      · obtain ⟨front, d, a, b, rfl, hd⟩ := ih hrest
        exact ⟨c :: front, d, a, b, by rw [escape_cons, List.append_assoc], hd⟩
      · cases rest with
        | nil =>
            obtain ⟨front, d, a, b, hnil, hd⟩ := @ih [] hrest.symm
            obtain ⟨hfront, rfl⟩ := List.append_eq_nil_iff.mp hnil.symm
            rw [List.append_nil] at hchar
            refine ⟨[c], d, [], b, ?_, hd⟩
            simp [escape, hchar]
        | cons e rest =>
            obtain ⟨rfl, -⟩ := List.cons.inj hrest
            exact ⟨[], c, before, rest, rfl, hchar⟩

/-- **Every quote in an escaped text is escaped**, by a backslash that is not. -/
theorem endsEscaping_of_escape {s before after : List Char} {mark : Char}
    (hmark : mark = '\'' ∨ mark = '"') (h : escape s = before ++ mark :: after) :
    EndsEscaping before := by
  obtain ⟨front, c, a, b, rfl, hchar⟩ := exists_escapeChar_of_escape h
  have hodd : EndsEscaping (escape front ++ ['\\']) := by
    have heven := not_endsEscaping_escape front
    rw [EndsEscaping, Nat.not_odd_iff_even] at heven
    rw [EndsEscaping, List.rtakeWhile_concat_pos _ _ _ rfl, List.length_append]
    exact heven.add_one
  have hspecial : mark ∈ specials ∧ mark ≠ '\\' := by rcases hmark with rfl | rfl <;> decide
  rcases escapeChar_cases c with ⟨d, hform, -⟩ | ⟨hplain, hc⟩
  · rw [hform] at hchar
    rcases a with _ | ⟨e, a⟩
    · exact absurd (List.cons.inj hchar).1.symm hspecial.2
    · obtain ⟨rfl, htail⟩ := List.cons.inj hchar
      rcases a with _ | ⟨f, a⟩
      · exact hodd
      · exact absurd (congrArg List.length htail) (by simp)
  · rw [hplain] at hchar
    rcases a with _ | ⟨e, a⟩
    · exact absurd ((List.cons.inj hchar).1 ▸ hspecial.1) hc
    · exact absurd (congrArg List.length hchar) (by simp)

/-! ## Reading a literal -/

/-- Reads the body of a literal behind its opening quote: what stands before the first single quote
that is not behind a backslash, and what follows that quote.  A backslash takes the next character
along, whatever it is. -/
def readBody? : List Char → Option (List Char × List Char)
  | [] => none
  | [c] => if c = '\'' then some ([], []) else none
  | c :: d :: r =>
    if c = '\'' then some ([], d :: r)
    else if c = '\\' then (readBody? r).map fun read => (c :: d :: read.1, read.2)
    else (readBody? (d :: r)).map fun read => (c :: read.1, read.2)

/-- Whether a reader passes over a text: it is part of the body. -/
def Passed (s : List Char) : Prop :=
  ∀ t, readBody? (s ++ t) = (readBody? t).map fun read => (s ++ read.1, read.2)

lemma passed_nil : Passed [] := by
  intro t
  simp

/-- Passing over two texts is passing over both together. -/
lemma Passed.append {s s' : List Char} (h : Passed s) (h' : Passed s') : Passed (s ++ s') := by
  intro t
  rw [List.append_assoc, h, h', Option.map_map]
  simp only [Function.comp_def, List.append_assoc]

/-- The second character of a form is not looked at, so it may be a quote. -/
lemma passed_form (d : Char) : Passed ['\\', d] := by
  intro t
  simp [readBody?]

/-- Alone, only a quote and a backslash are more than themselves. -/
lemma passed_singleton {c : Char} (hquote : c ≠ '\'') (hbackslash : c ≠ '\\') : Passed [c] := by
  intro t
  cases t with
  | nil => simp [readBody?, hquote]
  | cons d r => simp [readBody?, hquote, hbackslash]

/-- What is passed over piece by piece is passed over as a whole. -/
lemma passed_flatMap {α : Type} {f : α → List Char} (h : ∀ a, Passed (f a)) (s : List α) :
    Passed (s.flatMap f) := by
  induction s with
  | nil => exact passed_nil
  | cons a s ih => exact (h a).append ih

/-- **Every escaped text is passed over**: its characters stand for themselves or in forms. -/
lemma passed_escape (s : List Char) : Passed (escape s) := by
  refine passed_flatMap (fun c => ?_) s
  rcases escapeChar_cases c with ⟨d, hform, -⟩ | ⟨hplain, hspecial⟩
  · rw [hform]
    exact passed_form d
  · rw [hplain]
    refine passed_singleton ?_ ?_ <;>
    · rintro rfl
      exact hspecial (by decide)

/-- **A body is read to its closing quote**, and no further. -/
lemma Passed.readBody?_eq {s : List Char} (h : Passed s) (rest : List Char) :
    readBody? (s ++ '\'' :: rest) = some (s, rest) := by
  have hend : readBody? ('\'' :: rest) = some ([], rest) := by
    cases rest <;> simp [readBody?]
  rw [h, hend, Option.map_some, List.append_nil]

/-! ## Digits of bytes -/

/-- A digit is read as what it was written for. -/
lemma hexValue?_hexDigit {n : ℕ} (h : n < 16) : hexValue? (hexDigit n) = some n := by
  have hall : ∀ n < 16, hexValue? (hexDigit n) = some n := by decide
  exact hall n h

/-- Two digits give the byte back, the high one in front. -/
lemma hexBytes?_hexBytes (bytes : List UInt8) : hexBytes? (hexBytes bytes) = some bytes := by
  induction bytes with
  | nil => rfl
  | cons b bytes ih =>
      have hlt := b.toNat_lt
      have hhigh : hexValue? (hexDigit (b.toNat / 16)) = some (b.toNat / 16) :=
        hexValue?_hexDigit (by omega)
      have hlow : hexValue? (hexDigit (b.toNat % 16)) = some (b.toNat % 16) :=
        hexValue?_hexDigit (by omega)
      have hbyte : UInt8.ofNat (b.toNat / 16 * 16 + b.toNat % 16) = b := by
        rw [Nat.div_add_mod', UInt8.ofNat_toNat]
      have hcons : hexBytes (b :: bytes)
          = hexDigit (b.toNat / 16) :: hexDigit (b.toNat % 16) :: hexBytes bytes := rfl
      rw [hcons, hexBytes?, hhigh, hlow, ih]
      exact congrArg (fun first => some (first :: bytes)) hbyte

/-- Digits are neither quotes nor backslashes. -/
lemma passed_hexBytes (bytes : List UInt8) : Passed (hexBytes bytes) := by
  refine passed_flatMap (fun b => ?_) bytes
  have hdigit : ∀ n < 16, hexDigit n ≠ '\'' ∧ hexDigit n ≠ '\\' := by decide
  have hpassed : ∀ n < 16, Passed [hexDigit n] := fun n hn =>
    passed_singleton (hdigit n hn).1 (hdigit n hn).2
  have hlt := b.toNat_lt
  exact (hpassed _ (by omega)).append (hpassed _ (by omega))

end Chars

/-! ## The readers -/

namespace Text

/-- Reads the backslash forms of a text. -/
def unescape (s : String) : String :=
  String.ofList (Chars.unescape s.toList)

/-- Reads the literal of a text, and what follows it. -/
def readText? (s : String) : Option (String × String) :=
  match s.toList with
  | [] => none
  | c :: r =>
    if c = '\'' then
      (Chars.readBody? r).map fun read =>
        (String.ofList (Chars.unescape read.1), String.ofList read.2)
    else none

/-- Reads the literal of a byte string, and what follows it. -/
def readBytes? (s : String) : Option (List UInt8 × String) :=
  match s.toList with
  | [] | [_] => none
  | c :: d :: r =>
    if c = 'x' ∧ d = '\'' then
      (Chars.readBody? r).bind fun read =>
        (Chars.hexBytes? read.1).map fun bytes => (bytes, String.ofList read.2)
    else none

/-- Where all is read back, no two are written alike. -/
lemma injective_of_read {α : Type} {written : α → String}
    {read? : String → Option (α × String)}
    (h : ∀ a rest, read? (written a ++ rest) = some (a, rest)) : Function.Injective written := by
  intro a b hab
  have hread := h a ""
  rw [hab, h b ""] at hread
  exact (Prod.mk.inj (Option.some.inj hread)).1.symm

/-- Reading the literal of a text gives the text and what follows it. -/
lemma readText?_literal (s rest : String) :
    readText? ((Value.text s).literal ++ rest) = some (s, rest) := by
  have htext : ((Value.text s).literal ++ rest).toList
      = '\'' :: (Chars.escape s.toList ++ '\'' :: rest.toList) := by
    simp [Value.literal, escape, String.toList_append]
  rw [readText?, htext]
  simp [(Chars.passed_escape s.toList).readBody?_eq, Chars.unescape_escape]

lemma readBytes?_literal (bytes : List UInt8) (rest : String) :
    readBytes? ((Value.bytes bytes).literal ++ rest) = some (bytes, rest) := by
  have htext : ((Value.bytes bytes).literal ++ rest).toList
      = 'x' :: '\'' :: (Chars.hexBytes bytes ++ '\'' :: rest.toList) := by
    simp [Value.literal, String.toList_append]
  rw [readBytes?, htext]
  simp [(Chars.passed_hexBytes bytes).readBody?_eq, Chars.hexBytes?_hexBytes]

end Text

/-! ## The statement -/

/-- **Literals are read back.**  An escaped text is decoded to the text; it holds no null, line
feed, carriage return or Ctrl-Z; and before each quote in it stands a backslash that is not escaped
itself.  So the literal of a text, whatever follows it, is read to its closing quote and gives the
text, and the literal of a byte string is read to its closing quote and gives the bytes.  Two
texts or byte strings never share a literal. -/
theorem literals_read_back :
    (∀ s : String, Text.unescape (Text.escape s) = s ∧
      (∀ c ∈ (Text.escape s).toList, c ∉ Chars.controls) ∧
      ∀ (before after : List Char) (mark : Char),
        (Text.escape s).toList = before ++ mark :: after → mark = '\'' ∨ mark = '"' →
          Chars.EndsEscaping before) ∧
    (∀ s rest : String, Text.readText? ((Value.text s).literal ++ rest) = some (s, rest)) ∧
    (∀ (bytes : List UInt8) (rest : String),
      Text.readBytes? ((Value.bytes bytes).literal ++ rest) = some (bytes, rest)) ∧
    Function.Injective (fun s => (Value.text s).literal) ∧
    Function.Injective (fun bytes => (Value.bytes bytes).literal) ∧
    ∀ s bytes, (Value.text s).literal ≠ (Value.bytes bytes).literal := by
  refine ⟨fun s => ⟨?_, ?_, ?_⟩, Text.readText?_literal, Text.readBytes?_literal,
    Text.injective_of_read Text.readText?_literal, Text.injective_of_read Text.readBytes?_literal,
    ?_⟩
  · rw [Text.unescape, Text.escape, String.toList_ofList, Chars.unescape_escape,
      String.ofList_toList]
  · intro c hc
    rw [Text.escape, String.toList_ofList] at hc
    exact Chars.notMem_controls_of_mem_escape hc
  · intro before after mark h hmark
    rw [Text.escape, String.toList_ofList] at h
    exact Chars.endsEscaping_of_escape hmark h
  · intro s bytes h
    have hfirst := congrArg (fun t => t.toList.head?) h
    simp [Value.literal, String.toList_append] at hfirst

/-- A backslash before a quote: each of them is escaped, and the literal ends behind them. -/
theorem literals_read_back_backslash_quote :
    Text.escape "a\\'" = "a\\\\\\'" ∧ Text.unescape "a\\\\\\'" = "a\\'" ∧
    "a\\\\\\'".toList = "a\\\\\\".toList ++ '\'' :: [] ∧
    Chars.EndsEscaping "a\\\\\\".toList ∧
    Text.readText? ("'a\\\\\\''" ++ " or 'b'") = some ("a\\'", " or 'b'") ∧
    Text.readBytes? ("x'00ff27'" ++ " or 'b'") = some ([0, 255, 39], " or 'b'") := by
  obtain ⟨hescape, htext, hbytes, -⟩ := literals_read_back
  obtain ⟨hread, -, hquote⟩ := hescape "a\\'"
  have hescaped : Text.escape "a\\'" = "a\\\\\\'" := by decide +kernel
  have hliteral : (Value.text "a\\'").literal = "'a\\\\\\''" := by decide +kernel
  have hhex : (Value.bytes [0, 255, 39]).literal = "x'00ff27'" := by decide +kernel
  rw [hescaped] at hread hquote
  have hsplit : "a\\\\\\'".toList = "a\\\\\\".toList ++ '\'' :: [] := by decide
  refine ⟨hescaped, hread, hsplit, hquote _ _ _ hsplit (.inl rfl), ?_, ?_⟩
  · have hrest := htext "a\\'" " or 'b'"
    rwa [hliteral] at hrest
  · have hrest := hbytes [0, 255, 39] " or 'b'"
    rwa [hhex] at hrest

end SqlWeave
