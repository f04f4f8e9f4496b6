import SqlWeave.Config.Setting

/-!
# Tables of a TOML document

A document defines tables piece by piece: by headers, by dotted keys, and by the headers of arrays
of tables.  Each table remembers how it came about, because that decides what may still be added to
it.

* `TomlTable.assign` — a key with dots and its value.
* `TomlTable.define`, `TomlTable.append` — a header, and a header of an array of tables.
* `TomlTable.setting` — the finished document.
-/

namespace SqlWeave

mutual

/-- What a key of a table stands for. -/
inductive TomlItem where
  /-- A finished value, to which nothing can be added. -/
  | value (content : Setting)
  | table (content : TomlTable)
  /-- An array of tables in reverse order, of which the newest can be added to. -/
  | tables (newest : TomlTable) (older : List TomlTable)

/-- A table under construction. -/
structure TomlTable where
  /-- Whether no header of its own has defined it. -/
  implicit : Bool
  /-- Whether dotted keys have made it. -/
  dotted : Bool
  entries : List (String × TomlItem)

end

namespace TomlTable

/-- The table of a header, still without entries. -/
def headed : TomlTable :=
  ⟨false, false, []⟩

/-- A table that is only passed through. -/
def passed (dotted : Bool) : TomlTable :=
  ⟨true, dotted, []⟩

/-- The item of a key. -/
def get? (t : TomlTable) (key : String) : Option TomlItem :=
  (t.entries.find? fun e => e.1 = key).map (·.2)

/-- Sets the item of a key, in the place of an earlier one. -/
def set (t : TomlTable) (key : String) (item : TomlItem) : TomlTable :=
  if t.entries.any fun e => e.1 = key then
    { t with entries := t.entries.map fun e => if e.1 = key then (key, item) else e }
  else { t with entries := t.entries ++ [(key, item)] }

/-- Changes the table that a key leads to; on the way, missing tables are made and the newest table
of an array is taken.  A dotted key does not lead into a table that a header has defined. -/
def step (dotted : Bool) (change : TomlTable → Option TomlTable) (t : TomlTable) (key : String) :
    Option TomlTable :=
  match t.get? key with
  | none => (change (passed dotted)).map fun inner => t.set key (.table inner)
  | some (.table inner) =>
    if dotted ∧ ¬ inner.implicit then none
    else (change inner).map fun inner => t.set key (.table inner)
  | some (.tables newest older) =>
    (change newest).map fun newest => t.set key (.tables newest older)
  | some (.value _) => none

/-- Changes the table at the end of a path. -/
def walk (dotted : Bool) (change : TomlTable → Option TomlTable) : List String → TomlTable →
    Option TomlTable
  | [], t => change t
  | key :: path, t => t.step dotted (walk dotted change path) key

/-- Gives a key a value, if the key has none yet. -/
def assignKey (viaDots : Bool) (key : String) (content : Setting) (t : TomlTable) :
    Option TomlTable :=
  if t.dotted ≠ viaDots then none
  else
    match t.get? key with
    | none => some (t.set key (.value content))
    | some _ => none

/-- Gives a dotted key a value. -/
def assign (path : List String) (key : String) (content : Setting) (t : TomlTable) :
    Option TomlTable :=
  walk true (assignKey (!path.isEmpty) key content) path t

/-- Defines the table of a header; it may have been passed through before, but not defined. -/
def define (path : List String) (key : String) (t : TomlTable) : Option TomlTable :=
  walk false (fun t =>
    match t.get? key with
    | none => some (t.set key (.table headed))
    | some (.table inner) =>
      if inner.implicit ∧ ¬ inner.dotted then
        some (t.set key (.table { inner with implicit := false }))
      else none
    | some _ => none) path t

/-- Appends a table to an array of tables. -/
def append (path : List String) (key : String) (t : TomlTable) : Option TomlTable :=
  walk false (fun t =>
    match t.get? key with
    | none => some (t.set key (.tables headed []))
    | some (.tables newest older) => some (t.set key (.tables headed (newest :: older)))
    | some _ => none) path t

end TomlTable

mutual

/-- The setting of an item. -/
def TomlItem.setting : TomlItem → Setting
  | .value content => content
  | .table content => content.setting
  | .tables newest older => .list ((newest.setting :: TomlTable.settings older).reverse)

/-- The setting of a table. -/
def TomlTable.setting : TomlTable → Setting
  | ⟨_, _, entries⟩ => .table (TomlTable.entrySettings entries)

/-- The settings of the entries of a table. -/
def TomlTable.entrySettings : List (String × TomlItem) → List (String × Setting)
  | [] => []
  | (key, item) :: r => (key, item.setting) :: TomlTable.entrySettings r

/-- The settings of several tables. -/
def TomlTable.settings : List TomlTable → List Setting
  | [] => []
  | t :: r => t.setting :: TomlTable.settings r

end

end SqlWeave
