/-!
# Maps from names

Entries in the order of their names, each name at most once.  Every traversal meets the entries in
this order, whatever the order in which they were given.
-/

namespace SqlWeave

/-- Entries in strictly increasing order of their names. -/
structure NameMap (α : Type) where
  entries : List (String × α)
  increasing : entries.Pairwise fun a b => a.1 < b.1

namespace NameMap

variable {α : Type}

/-- The entries with one more, which replaces the entry of the same name. -/
def setEntry (name : String) (value : α) : List (String × α) → List (String × α)
  | [] => [(name, value)]
  | e :: es =>
    if name < e.1 then (name, value) :: e :: es
    else if name = e.1 then (name, value) :: es
    else e :: setEntry name value es

theorem mem_setEntry {name : String} {value : α} {e : String × α} {es : List (String × α)}
    (h : e ∈ setEntry name value es) : e = (name, value) ∨ e ∈ es := by
  induction es with
  | nil => simpa [setEntry] using h
  | cons d ds ih =>
    simp only [setEntry] at h
    split at h
    · simpa using h
    · split at h
      · rcases List.mem_cons.1 h with h | h
        · exact .inl h
        · exact .inr (List.mem_cons_of_mem d h)
      · rcases List.mem_cons.1 h with h | h
        · exact .inr (h ▸ List.mem_cons_self)
        · exact (ih h).imp_right (List.mem_cons_of_mem d)

theorem pairwise_setEntry (name : String) (value : α) {es : List (String × α)}
    (h : es.Pairwise fun a b => a.1 < b.1) :
    (setEntry name value es).Pairwise fun a b => a.1 < b.1 := by
  induction es with
  | nil => simp [setEntry]
  | cons d ds ih =>
    obtain ⟨hd, hds⟩ := List.pairwise_cons.1 h
    simp only [setEntry]
    split
    · rename_i hlt
      refine List.pairwise_cons.2 ⟨fun e he => ?_, h⟩
      rcases List.mem_cons.1 he with rfl | he
      · exact hlt
      · exact String.lt_trans hlt (hd e he)
    · rename_i hlt
      split
      · rename_i heq
        exact List.pairwise_cons.2 ⟨fun e he => heq ▸ hd e he, hds⟩
      · rename_i hne
        refine List.pairwise_cons.2 ⟨fun e he => ?_, ih hds⟩
        rcases mem_setEntry he with rfl | he
        · exact String.not_le.1 fun hle =>
            hne (String.le_antisymm hle (String.not_lt.1 hlt))
        · exact hd e he

/-- The map without entries. -/
def empty : NameMap α :=
  ⟨[], .nil⟩

/-- The map with one more entry, which replaces the entry of the same name. -/
def set (m : NameMap α) (name : String) (value : α) : NameMap α :=
  ⟨setEntry name value m.entries, pairwise_setEntry name value m.increasing⟩

/-- The map with the given entries, of which the last of each name counts. -/
def ofList (entries : List (String × α)) : NameMap α :=
  entries.foldl (fun m e => m.set e.1 e.2) empty

/-- The values in the order of their names. -/
def values (m : NameMap α) : List α :=
  m.entries.map (·.2)

/-- Whether there are no entries. -/
def isEmpty (m : NameMap α) : Bool :=
  m.entries.isEmpty

end NameMap

end SqlWeave
