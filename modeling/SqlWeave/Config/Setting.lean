import SqlWeave.Config.Topology
import SqlWeave.Json.Reader

/-!
# Settings

A configuration as a tree, whichever of the two formats it was written in, and the topology that it
describes.

A record may be given as a table of its fields or as a list of them in order.  Unknown fields count
for nothing, if only they can be read, and a field that is missing has its usual value.

* `Setting.record?` — the fields of a record.
* `Setting.topology?` — the topology of a tree, or `none` if some field has no value of its type.
-/

namespace SqlWeave

/-- A node of a configuration tree.  What no setting can be is `other`; a number that is too large
for any type is `beyond`, and must not even stand in an unknown field. -/
inductive Setting where
  | null
  | flag (value : Bool)
  | whole (value : Int)
  | text (value : String)
  | other
  | beyond
  | list (items : List Setting)
  | table (fields : List (String × Setting))
  deriving Inhabited

/-- The two formats. -/
inductive SettingFormat where
  | json
  | toml
  deriving DecidableEq, Repr

namespace Setting

/-! ## From JSON -/

mutual

/-- The setting that a JSON text writes. -/
def ofJson : JsonText → Setting
  | .null => .null
  | .bool b => .flag b
  | .number n =>
    match n.value? with
    | some (.whole k) => .whole k
    | _ => .other
  | .text (some s) => .text s
  | .text none => .other
  | .list items => .list (ofJsonItems items)
  | .object fields =>
    match ofJsonFields fields with
    | some fields => .table fields
    | none => .other

/-- The settings of the items of a list. -/
def ofJsonItems : List JsonText → List Setting
  | [] => []
  | t :: r => ofJson t :: ofJsonItems r

/-- The settings of the fields of an object, if all names mean something. -/
def ofJsonFields : List (Option String × JsonText) → Option (List (String × Setting))
  | [] => some []
  | (name, t) :: r =>
    match name, ofJsonFields r with
    | some name, some fields => some ((name, ofJson t) :: fields)
    | _, _ => none

end

/-! ## Values -/

mutual

/-- Whether all numbers of a tree are within reach. -/
def isReadable : Setting → Bool
  | .beyond => false
  | .list items => areReadable items
  | .table fields => fieldsAreReadable fields
  | _ => true

/-- Whether all numbers of several trees are within reach. -/
def areReadable : List Setting → Bool
  | [] => true
  | s :: r => s.isReadable && areReadable r

/-- Whether all numbers of several fields are within reach. -/
def fieldsAreReadable : List (String × Setting) → Bool
  | [] => true
  | (_, s) :: r => s.isReadable && fieldsAreReadable r

end

/-- A truth value. -/
def flag? : Setting → Option Bool
  | .flag b => some b
  | _ => none

/-- A text. -/
def text? : Setting → Option String
  | .text s => some s
  | _ => none

/-- A natural number below a bound. -/
def below? (bound : Nat) : Setting → Option Nat
  | .whole n => if 0 ≤ n ∧ n < bound then some n.toNat else none
  | _ => none

/-- A value that may be absent. -/
def optional? {α : Type} (read : Setting → Option α) : Setting → Option (Option α)
  | .null => some none
  | s => (read s).map some

/-- A table of values of one type. -/
def map? {α : Type} (read : Setting → Option α) : Setting → Option (NameMap α)
  | .table fields =>
    (fields.mapM fun f => (read f.2).map fun v => (f.1, v)).map NameMap.ofList
  | _ => none

/-! ## Records -/

/-- The only field of a name, if there is one; `none` if there are several. -/
def only? (fields : List (String × Setting)) (name : String) : Option (Option Setting) :=
  match fields.filter fun f => f.1 = name with
  | [] => some none
  | [f] => some (some f.2)
  | _ => none

/-- The fields of a record in the order of their names.  Unknown fields of a table only have to be
readable.  A list may be shorter than the record, and longer only where the format allows it. -/
def record? (format : SettingFormat) (names : List String) : Setting →
    Option (List (Option Setting))
  | .table fields =>
    if fields.all fun f => names.contains f.1 || f.2.isReadable then names.mapM (only? fields)
    else none
  | .list items =>
    if items.length ≤ names.length ∨ format = .toml then
      some ((List.range names.length).map fun i => items[i]?)
    else none
  | _ => none

/-- The value of a field, or its usual value if it is missing. -/
def orUsual? {α : Type} (usual : α) (read : Setting → Option α) : Option Setting → Option α
  | some s => read s
  | none => some usual

/-! ## Configuration records -/

/-- The quoting of names; all its fields are needed. -/
def quoting? (format : SettingFormat) (s : Setting) : Option Quoting := do
  let fields ← record? format ["prefix", "suffix", "escape", "replacement"] s
  match fields with
  | [some a, some b, some c, some d] => pure ⟨← a.text?, ← b.text?, ← c.text?, ← d.text?⟩
  | _ => none

/-- The policy of the log. -/
def logPolicy? (format : SettingFormat) (s : Setting) : Option LogPolicy := do
  let fields ← record? format ["enabled", "max_sql_length"] s
  match fields with
  | [enabled, maxBytes] =>
    pure ⟨← orUsual? LogPolicy.usual.enabled flag? enabled,
      ← orUsual? LogPolicy.usual.maxBytes (optional? (below? (Nat.pow 2 64))) maxBytes⟩
  | _ => none

/-- A node. -/
def node? (format : SettingFormat) (s : Setting) : Option NodeConfig := do
  let fields ← record? format ["dsn", "user", "password", "options", "retry"] s
  match fields with
  | [dsn, user, password, options, retry] =>
    pure {
      dsn := ← orUsual? "" text? dsn
      user := ← orUsual? none (optional? text?) user
      password := ← orUsual? none (optional? text?) password
      options := ← orUsual? .empty (map? text?) options
      retry := UInt8.ofNat (← orUsual? 0 (below? 256) retry) }
  | _ => none

/-- The mode of a name. -/
def modeNamed? (name : String) : Option Mode :=
  [Mode.single, .masterSlave, .cluster].find? fun m => m.text = name

/-- Whether a setting says nothing, as what follows the name of a mode must. -/
def saysNothing (format : SettingFormat) : Setting → Bool
  | .null => format = .json
  | .list items => format = .toml && items.isEmpty
  | .table fields => format = .toml && fields.isEmpty
  | _ => false

/-- A mode: its name, or a table with its name as the only entry. -/
def mode? (format : SettingFormat) : Setting → Option Mode
  | .text name => modeNamed? name
  | .table [(name, s)] => if saysNothing format s then modeNamed? name else none
  | _ => none

/-- The topology that a configuration describes. -/
def topology? (format : SettingFormat) (s : Setting) : Option Topology := do
  let fields ← record? format ["driver", "mode", "table_prefix", "quoting", "log", "default",
    "master", "slaves", "writers", "readers", "nodes"] s
  match fields with
  | [driver, mode, tablePrefix, quoting, log, solo, master, slaves, writers, readers, nodes] =>
    pure {
      driver := ← orUsual? none (optional? text?) driver
      mode := ← orUsual? .single (mode? format) mode
      tablePrefix := ← orUsual? "" text? tablePrefix
      quoting := ← orUsual? none (optional? (quoting? format)) quoting
      log := ← orUsual? .usual (logPolicy? format) log
      solo := ← orUsual? none (optional? (node? format)) solo
      master := ← orUsual? none (optional? (node? format)) master
      slaves := ← orUsual? .empty (map? (node? format)) slaves
      writers := ← orUsual? .empty (map? (node? format)) writers
      readers := ← orUsual? .empty (map? (node? format)) readers
      nodes := ← orUsual? .empty (map? (node? format)) nodes }
  | _ => none

end Setting

end SqlWeave
