import Mathlib.Order.Bounds.Basic
import SqlWeave.Router.Log

/-!
# How much of a statement is shown

A log record shows the longest beginning of a statement that fits into the bytes the policy allows.
It is found from the front, a character at a time.  It can also be found from behind: from the end
of the allowance the search goes back, a byte at a time, until it is not inside a character.  A
character has at most four bytes, so the search stops after at most three rounds, and three bytes
are the most that stay unused.

* `Text.LongestFit` — **the specification**: the longest beginning of a text that fits.
* `Text.abridge_of_longestFit` — **the front**: what is shown meets it.
* `Text.Stops` — the search from behind, round by round.
* `Text.Stops.isGreatest`, `Text.exists_longestFit` — **the search** stops at the last place between
  two characters, and what stands before that place is the longest beginning that fits.
* `shortened_to_longest_fit` — the statement.
-/

namespace SqlWeave

namespace Chars

variable {s t : List Char} {room : ℕ}

/-! ## Characters that fit -/

lemma byteSize_cons (c : Char) (s : List Char) : byteSize (c :: s) = c.utf8Size + byteSize s :=
  rfl

/-- The size of a text is that of its characters. -/
lemma utf8ByteSize_ofList (s : List Char) : (String.ofList s).utf8ByteSize = byteSize s := by
  induction s with
  | nil => rfl
  | cons c s ih =>
      rw [String.ofList_cons, String.utf8ByteSize_append, String.utf8ByteSize_singleton, ih,
        byteSize_cons]

lemma byteSize_toList (s : String) : byteSize s.toList = s.utf8ByteSize := by
  rw [← utf8ByteSize_ofList, String.ofList_toList]

lemma takeBytes_isPrefix (room : ℕ) (s : List Char) : takeBytes room s <+: s := by
  induction s generalizing room with
  | nil => exact List.nil_prefix
  | cons c s ih =>
      rw [takeBytes]
      split_ifs with hc
      · exact List.cons_prefix_cons.mpr ⟨rfl, ih _⟩
      · exact List.nil_prefix

lemma byteSize_takeBytes_le (room : ℕ) (s : List Char) : byteSize (takeBytes room s) ≤ room := by
  induction s generalizing room with
  | nil => exact Nat.zero_le _
  | cons c s ih =>
      rw [takeBytes]
      split_ifs with hc
      · have hrest := ih (room - c.utf8Size)
        rw [byteSize_cons]
        omega
      · exact Nat.zero_le _

/-- No beginning that fits is longer than what is taken. -/
lemma byteSize_le_takeBytes (h : t <+: s) (hfits : byteSize t ≤ room) :
    byteSize t ≤ byteSize (takeBytes room s) := by
  induction s generalizing room t with
  | nil =>
      rw [List.prefix_nil.mp h]
      rfl
  | cons c s ih =>
      cases t with
      | nil => exact Nat.zero_le _
      | cons d t =>
          obtain ⟨rfl, ht⟩ := List.cons_prefix_cons.mp h
          rw [byteSize_cons] at hfits
          rw [takeBytes, if_pos (by omega), byteSize_cons, byteSize_cons]
          exact Nat.add_le_add_left (ih ht (by omega)) _

end Chars

namespace Text

variable {s p q rest : String} {room place place' rounds stop : ℕ}

/-! ## The longest beginning that fits -/

/-- **The specification**: the longest beginning of a text that takes at most `room` bytes. -/
structure LongestFit (room : ℕ) (s p : String) : Prop where
  beginning : ∃ rest, s = p ++ rest
  fits : p.utf8ByteSize ≤ room
  longest : ∀ q rest, s = q ++ rest → q.utf8ByteSize ≤ room → q.utf8ByteSize ≤ p.utf8ByteSize

/-- A beginning is told by its bytes, and those by their number. -/
lemma extract_of_append (h : s = p ++ rest) :
    s.toByteArray.extract 0 p.utf8ByteSize = p.toByteArray := by
  rw [h, String.toByteArray_append]
  exact ByteArray.extract_append_eq_left String.size_toByteArray.symm

/-- There is only one. -/
lemma LongestFit.eq (h : LongestFit room s p) (h' : LongestFit room s q) : p = q := by
  obtain ⟨rest, hp⟩ := h.beginning
  obtain ⟨rest', hq⟩ := h'.beginning
  have hsize : p.utf8ByteSize = q.utf8ByteSize :=
    le_antisymm (h'.longest p rest hp h.fits) (h.longest q rest' hq h'.fits)
  rw [← String.toByteArray_inj, ← extract_of_append hp, ← extract_of_append hq, hsize]

/-- With one more character it would not fit, so at most three bytes are unused. -/
lemma LongestFit.room_le (h : LongestFit room s p) (hs : room < s.utf8ByteSize) :
    room ≤ p.utf8ByteSize + 3 := by
  obtain ⟨rest, rfl⟩ := h.beginning
  cases hrest : rest.toList with
  | nil =>
      rw [String.toList_eq_nil_iff.mp hrest, String.append_empty] at hs
      exact absurd h.fits (Nat.not_le.mpr hs)
  | cons c cs =>
      have hnext : p ++ rest = (p ++ String.singleton c) ++ String.ofList cs := by
        rw [← String.toList_inj]
        simp [hrest]
      -- four unused bytes would have room for `c`
      by_contra hlt
      have hc := c.utf8Size_le_four
      have hpos := c.utf8Size_pos
      have hle := h.longest _ _ hnext
      rw [String.utf8ByteSize_append, String.utf8ByteSize_singleton] at hle
      omega

/-- **The walk from the front ends with the longest beginning that fits.** -/
lemma longestFit_takeBytes (room : ℕ) (s : String) :
    LongestFit room s (String.ofList (Chars.takeBytes room s.toList)) := by
  refine ⟨?_, ?_, fun q rest hq hfits => ?_⟩
  · obtain ⟨rest, hrest⟩ := Chars.takeBytes_isPrefix room s.toList
    exact ⟨String.ofList rest, by rw [← String.ofList_append, hrest, String.ofList_toList]⟩
  · rw [Chars.utf8ByteSize_ofList]
    exact Chars.byteSize_takeBytes_le room s.toList
  · rw [← Chars.byteSize_toList] at hfits
    rw [← Chars.byteSize_toList, Chars.utf8ByteSize_ofList]
    exact Chars.byteSize_le_takeBytes ⟨rest.toList, by rw [hq, String.toList_append]⟩ hfits

/-- A text that fits is shown as it is. -/
lemma abridge_of_le (h : s.utf8ByteSize ≤ room) : abridge room s = s := by
  rw [abridge, if_pos (by rwa [Chars.byteSize_toList])]

/-- **A text that does not fit is shown up to its longest beginning that does.** -/
lemma abridge_of_longestFit (h : LongestFit room s p) (hs : room < s.utf8ByteSize) :
    abridge room s = p ++ "..." := by
  rw [abridge, if_neg (by rwa [Chars.byteSize_toList, Nat.not_le]),
    h.eq (longestFit_takeBytes room s)]

/-! ## The search from behind -/

/-- One round of the search for a place, counted in bytes: a byte back, unless the place is the first
one or not inside a character.  That it is inside is told by the byte there, with which no character
begins. -/
def back? (s : String) (place : ℕ) : Option ℕ :=
  if 0 < place ∧ ¬String.Pos.Raw.isValid s ⟨place⟩ then some (place - 1) else none

/-- The search from a place stops at a place after a number of rounds. -/
inductive Stops (s : String) : ℕ → ℕ → ℕ → Prop
  | here {place : ℕ} (h : back? s place = none) : Stops s place 0 place
  | round {place place' rounds stop : ℕ} (h : back? s place = some place')
      (hrest : Stops s place' rounds stop) : Stops s place (rounds + 1) stop

/-- The first place is not inside a character either, so the search stops at no place that is. -/
lemma back?_eq_none_iff : back? s place = none ↔ String.Pos.Raw.IsValid s ⟨place⟩ := by
  rw [back?]
  cases place with
  | zero => simp
  | succ place => simp [String.Pos.Raw.isValid_eq_true_iff]

/-- The search goes back exactly where the place is inside of a character. -/
lemma back?_eq_some_iff :
    back? s place = some place' ↔ place = place' + 1 ∧ ¬String.Pos.Raw.IsValid s ⟨place⟩ := by
  rw [back?, Option.ite_none_right_eq_some, String.Pos.Raw.isValid_eq_true_iff, Option.some.injEq]
  constructor
  · rintro ⟨⟨hpos, hinside⟩, rfl⟩
    exact ⟨(Nat.sub_add_cancel hpos).symm, hinside⟩
  · rintro ⟨rfl, hinside⟩
    exact ⟨⟨Nat.succ_pos _, hinside⟩, rfl⟩

/-- Each round goes back over one byte. -/
lemma Stops.add_rounds (h : Stops s place rounds stop) : stop + rounds = place := by
  induction h with
  | here => rfl
  | round h _ ih =>
      obtain ⟨rfl, -⟩ := back?_eq_some_iff.mp h
      rw [← ih, Nat.add_assoc]

/-- **The search stops at the last place that is not inside a character.** -/
lemma Stops.isGreatest (h : Stops s place rounds stop) :
    IsGreatest {k | String.Pos.Raw.IsValid s ⟨k⟩ ∧ k ≤ place} stop := by
  induction h with
  | here h => exact ⟨⟨back?_eq_none_iff.mp h, le_rfl⟩, fun k hk => hk.2⟩
  | round h _ ih =>
      obtain ⟨rfl, hinside⟩ := back?_eq_some_iff.mp h
      obtain ⟨⟨hvalid, hle⟩, hlast⟩ := ih
      refine ⟨⟨hvalid, Nat.le_succ_of_le hle⟩, fun k hk => hlast ⟨hk.1, ?_⟩⟩
      -- the place the round leaves is inside a character, so `k` is before it
      refine Nat.le_of_lt_succ (lt_of_le_of_ne hk.2 ?_)
      rintro rfl
      exact hinside hk.1

/-- **The search always stops.** -/
lemma exists_stops (s : String) (place : ℕ) : ∃ rounds stop, Stops s place rounds stop := by
  induction place with
  | zero => exact ⟨0, 0, .here (back?_eq_none_iff.mpr String.Pos.Raw.isValid_zero)⟩
  | succ place ih =>
      by_cases hvalid : String.Pos.Raw.IsValid s ⟨place + 1⟩
      · exact ⟨0, place + 1, .here (back?_eq_none_iff.mpr hvalid)⟩
      · obtain ⟨rounds, stop, hrest⟩ := ih
        exact ⟨rounds + 1, stop, .round (back?_eq_some_iff.mpr ⟨rfl, hvalid⟩) hrest⟩

/-- **What stands before the last place between two characters** is a text, and the longest
beginning that fits. -/
lemma exists_longestFit (h : IsGreatest {k | String.Pos.Raw.IsValid s ⟨k⟩ ∧ k ≤ room} place) :
    ∃ p, String.fromUTF8? (s.toUTF8.extract 0 place) = some p ∧ p.utf8ByteSize = place ∧
      LongestFit room s p := by
  obtain ⟨⟨hvalid, hle⟩, hlast⟩ := h
  obtain ⟨p, rest, hs, hplace⟩ := String.Pos.Raw.isValid_iff_exists_append.mp hvalid
  obtain rfl : place = p.utf8ByteSize := congrArg String.Pos.Raw.byteIdx hplace
  refine ⟨p, ?_, rfl, ⟨rest, hs⟩, hle, fun q rest' hq hfits => hlast ⟨?_, hfits⟩⟩
  · rw [String.toUTF8, extract_of_append hs, String.fromUTF8?, dif_pos p.isValidUTF8]
    rfl
  · exact String.Pos.Raw.isValid_iff_exists_append.mpr ⟨q, rest', hq, rfl⟩

end Text

/-! ## The statement -/

/-- **A statement is shown whole, or up to the longest beginning that fits.**  It is whole if there
is no maximum or it takes no more bytes than that.  Else it is cut where the search from the maximum
stops, which it does after at most three rounds: at the last place up to there that is not inside a
character.  The bytes before it are a text, no longer beginning fits, and the bytes of the maximum
that it leaves are those the search went back over.  The search stops wherever it begins. -/
theorem shortened_to_longest_fit (p : LogPolicy) (sql : String) :
    (p.maxBytes = none → p.shorten sql = sql) ∧
    (∀ room, p.maxBytes = some room → sql.utf8ByteSize ≤ room → p.shorten sql = sql) ∧
    (∀ room, p.maxBytes = some room → room < sql.utf8ByteSize → ∃ rounds place kept,
      p.shorten sql = kept ++ "..." ∧ Text.LongestFit room sql kept ∧
      room = kept.utf8ByteSize + rounds ∧ rounds ≤ 3 ∧
      Text.Stops sql room rounds place ∧
      IsGreatest {k | String.Pos.Raw.IsValid sql ⟨k⟩ ∧ k ≤ room} place ∧
      String.fromUTF8? (sql.toUTF8.extract 0 place) = some kept) ∧
    ∀ place, ∃ rounds stop, Text.Stops sql place rounds stop := by
  refine ⟨fun hmax => ?_, fun room hmax hfits => ?_, fun room hmax hlt => ?_,
    Text.exists_stops sql⟩
  · rw [LogPolicy.shorten, hmax]
  · rw [LogPolicy.shorten, hmax]
    exact Text.abridge_of_le hfits
  · obtain ⟨rounds, place, hstops⟩ := Text.exists_stops sql room
    obtain ⟨kept, hkept, rfl, hfit⟩ := Text.exists_longestFit hstops.isGreatest
    have hrounds := hstops.add_rounds
    have hroom := hfit.room_le hlt
    refine ⟨rounds, _, kept, ?_, hfit, hrounds.symm, by omega, hstops, hstops.isGreatest, hkept⟩
    rw [LogPolicy.shorten, hmax]
    exact Text.abridge_of_longestFit hfit hlt

/-- A maximum before the last byte of a character that has four, none, and one that suffices. -/
theorem shortened_to_longest_fit_inside_character :
    let sql := "a😀b"
    4 < sql.utf8ByteSize ∧ LogPolicy.shorten ⟨true, some 4⟩ sql = "a..." ∧
    Text.LongestFit 4 sql "a" ∧ Text.Stops sql 4 3 1 ∧
    LogPolicy.shorten ⟨true, none⟩ sql = sql ∧ LogPolicy.shorten ⟨true, some 6⟩ sql = sql := by
  intro sql
  have hlt : 4 < sql.utf8ByteSize := by decide
  have hshown : LogPolicy.shorten ⟨true, some 4⟩ sql = "a..." := by decide +kernel
  obtain ⟨-, -, hcut, -⟩ := shortened_to_longest_fit ⟨true, some 4⟩ sql
  obtain ⟨rounds, place, kept, hkept, hfit, hroom, -, hstops, -, -⟩ := hcut 4 rfl hlt
  obtain rfl : kept = "a" := (String.append_left_inj "...").mp (hkept.symm.trans hshown)
  obtain rfl : rounds = 3 := by
    have hsize : "a".utf8ByteSize = 1 := by decide
    omega
  obtain rfl : place = 1 := by
    have hrounds := hstops.add_rounds
    omega
  exact ⟨hlt, hshown, hfit, hstops, (shortened_to_longest_fit ⟨true, none⟩ sql).1 rfl,
    (shortened_to_longest_fit ⟨true, some 6⟩ sql).2.1 6 rfl (by decide)⟩

end SqlWeave
