import TextAdventure.Toml.Document
import TextAdventure.World.File

/-! The reading of world files. A record is written as a table, or as an array of its fields in their
    order, of which those at the end may be left out. Nothing is checked but the shape. -/

namespace TextAdventure
open Toml

/-! ### Reading values -/

namespace Decoding

/-- The only key of a date that is read as a table; its value is the date's text. -/
def dateTimeKey : String := "$__toml_private_datetime"

/-- A text. -/
def text? : Value → Option String
  | .string s => some s
  | _ => none

/-- A truth value. -/
def flag? : Value → Option Bool
  | .boolean b => some b
  | _ => none

/-- An array whose items `item?` reads. -/
def list? {α : Type} (item? : Value → Option α) : Value → Option (List α)
  | .array _ items => items.mapM item?
  | _ => none

/-- A text that stands for a list with one item, or an array of texts. -/
def texts? : Value → Option (List String)
  | .string s => some [s]
  | v => list? text? v

/-- The entries of a table. -/
def entries? : Value → Option Entries
  | .table _ entries => some entries
  | .dateTime t => some [(dateTimeKey, .string t.text)]
  | _ => none

/-- A table whose values `item?` reads, in ascending order of the keys. -/
def map? {α : Type} (item? : Value → Option α) (v : Value) : Option (List (String × α)) := do
  let entries ← (← entries? v).mapM fun (key, v) => do return (key, ← item? v)
  return (Catalog.ofList Prod.fst entries).values

/-- The fields of a record with their names. Fields that the record does not know are passed over, but
    their integers must fit in 128 bits, with or without a sign, and their fractions in 64. -/
def fields? (names : List String) : Value → Option Entries
  | .array _ items => some (names.zip items)
  | v => do
    let entries ← entries? v
    if entriesFit (-0x80000000000000000000000000000000) 0xffffffffffffffffffffffffffffffff
        (entries.filter fun e => !names.contains e.1) then some entries
    else none

/-- A field that must be there. -/
def required? {α : Type} (fields : Entries) (name : String) (read? : Value → Option α) : Option α :=
  (fields.lookup name).bind read?

/-- A field that may be left out. -/
def optional? {α : Type} (fields : Entries) (name : String) (read? : Value → Option α) : Option (Option α) :=
  match fields.lookup name with
  | none => some none
  | some v => (read? v).map some

/-- A field with a value for when it is left out. -/
def withDefault? {α : Type} (default : α) (fields : Entries) (name : String) (read? : Value → Option α) :
    Option α :=
  match fields.lookup name with
  | none => some default
  | some v => read? v

end Decoding

/-! ### Reading records -/

open Decoding

/-- The fields of an effect, in their order. -/
def EffectDecl.fieldNames : List String := ["say", "unblock", "block", "go_to", "give", "consume"]

/-- Reads an effect from its fields among others. -/
def EffectDecl.ofFields? (fields : Entries) : Option EffectDecl := do
  return {
    say := ← optional? fields "say" text?
    unblock := ← withDefault? [] fields "unblock" (list? text?)
    block := ← withDefault? [] fields "block" (list? text?)
    goTo := ← optional? fields "go_to" text?
    give := ← withDefault? [] fields "give" (list? text?)
    consume := ← withDefault? [] fields "consume" (list? text?) }

/-- Reads the effect of a hook. -/
def EffectDecl.ofValue? (v : Value) : Option EffectDecl := do
  EffectDecl.ofFields? (← fields? fieldNames v)

/-- The fields that an action has besides those of its effect. -/
def ActionDecl.fieldNames : List String := ["id", "phrases", "requires", "missing_text"]

/-- Reads an action, which must be a table: the fields of its effect stand among its own. The numbers
    in fields that it does not know must fit in 64 bits. -/
def ActionDecl.ofValue? (v : Value) : Option ActionDecl := do
  let fields ← entries? v
  if entriesFit (-0x8000000000000000) 0xffffffffffffffff (fields.filter fun e => !fieldNames.contains e.1) then
    return {
      id := ← optional? fields "id" text?
      phrases := ← required? fields "phrases" texts?
      requires := ← withDefault? [] fields "requires" texts?
      missingText := ← optional? fields "missing_text" text?
      effect := ← EffectDecl.ofFields? fields }
  else none

/-- Reads an exit. -/
def ExitDecl.ofValue? (v : Value) : Option ExitDecl := do
  let fields ← fields? ["direction", "target", "blocked"] v
  return {
    direction := ← required? fields "direction" text?
    target := ← required? fields "target" text?
    blocked := ← withDefault? false fields "blocked" flag? }

/-- Reads a room. -/
def RoomDecl.ofValue? (v : Value) : Option RoomDecl := do
  let fields ← fields? ["id", "name", "desc", "exit", "action", "on_enter"] v
  return {
    id := ← required? fields "id" text?
    name := ← required? fields "name" text?
    desc := ← withDefault? "" fields "desc" text?
    exits := ← withDefault? [] fields "exit" (list? ExitDecl.ofValue?)
    actions := ← withDefault? [] fields "action" (list? ActionDecl.ofValue?)
    onEnter := ← withDefault? [] fields "on_enter" (list? EffectDecl.ofValue?) }

/-- Reads an item. -/
def ItemDecl.ofValue? (v : Value) : Option ItemDecl := do
  let fields ← fields? ["name", "desc", "room_text", "gettable", "start_location", "action"] v
  return {
    name := ← required? fields "name" text?
    desc := ← withDefault? "" fields "desc" text?
    roomText := ← withDefault? "" fields "room_text" text?
    gettable := ← optional? fields "gettable" flag?
    start := ← optional? fields "start_location" text?
    actions := ← withDefault? [] fields "action" (list? ActionDecl.ofValue?) }

/-- Reads what a file says of its world as a whole. -/
def WorldHeader.ofValue? (v : Value) : Option WorldHeader := do
  let fields ← fields? ["id", "name", "start_room", "prologue"] v
  return {
    id := ← required? fields "id" text?
    name := ← required? fields "name" text?
    startRoom := ← required? fields "start_room" text?
    prologue := ← withDefault? "" fields "prologue" text? }

/-- Reads the junk words and directions of a world. -/
def languageOfValue? (v : Value) : Option (List String × List DirectionName) := do
  let fields ← fields? ["junk", "directions"] v
  let directions ← withDefault? [] fields "directions" (map? text?)
  return (← withDefault? [] fields "junk" (list? text?), directions.map fun (short, full) => ⟨short, full⟩)

/-- Reads the records of a document. -/
def WorldFile.ofEntries? (entries : Entries) : Option WorldFile := do
  let fields ← fields? ["world", "aliases", "language", "room", "item"] (.table .header entries)
  let (junk, directions) ← withDefault? ([], []) fields "language" languageOfValue?
  let aliases ← withDefault? [] fields "aliases" (map? texts?)
  return {
    header := ← required? fields "world" WorldHeader.ofValue?
    aliases := aliases.map fun (root, words) => ⟨root, words⟩
    junk
    directions
    rooms := ← withDefault? [] fields "room" (list? RoomDecl.ofValue?)
    items := ← withDefault? [] fields "item" (list? ItemDecl.ofValue?) }

/-- Reads a world file. -/
def WorldFile.ofText? (text : String) : Option WorldFile := do
  WorldFile.ofEntries? (← document? text)

end TextAdventure
