import TextAdventure.Toml.Reader

/-! Whole documents: lines that assign values, under headers that open tables. A header in double
    brackets opens one more table of an array. -/

namespace TextAdventure.Toml

/-- A line of a document, or several lines that belong together. -/
inductive Statement where
  /-- Opens a table. -/
  | table (path : List String)
  /-- Opens the next table of an array. -/
  | element (path : List String)
  /-- Enters a value into the open table. -/
  | assign (path : List String) (v : Value)

/-! ### Statements -/

/-- Reads one statement, which starts the text. -/
def statement? (cs : List Char) : Option (Statement × List Char) :=
  match cs with
  | '[' :: '[' :: rest => do
    match ← path? maxKeys rest with
    | (path, ']' :: ']' :: rest) => return (.element path, rest)
    | _ => none
  | '[' :: rest => do
    match ← path? maxKeys rest with
    | (path, ']' :: rest) => return (.table path, rest)
    | _ => none
  | _ => do
    match ← path? maxKeys cs with
    | (path, '=' :: rest) =>
      let (v, rest) ← value? maxDepth (skipBlanks rest)
      return (.assign path v, rest)
    | _ => none

/-- Reads all statements of a text, each on lines of its own. Their number is below `bound`. -/
def statements? : (bound : Nat) → List Char → Option (List Statement)
  | 0, _ => none
  | bound + 1, cs => do
    match ← skipGap false cs with
    | [] => return []
    | cs =>
      let (first, rest) ← statement? cs
      return first :: (← statements? bound (← endLine false rest))

/-! ### Tables of a document -/

/-- Changes the table under a path by `f`. The path may run through tables that headers and dotted keys
    made, through the last table of an array of tables, and through tables that are not there yet. -/
def changeAt? (f : Entries → Option Entries) : List String → Entries → Option Entries
  | [], entries => f entries
  | key :: rest, entries =>
    match entries.lookup key with
    | none => do
      return entries ++ [(key, .table .implied (← changeAt? f rest []))]
    | some (.table .inline _) => none
    | some (.table origin inner) => do
      return replaceEntry key (.table origin (← changeAt? f rest inner)) entries
    | some (.array true items) =>
      match items.getLast? with
      | some (.table origin inner) => do
        let inner ← changeAt? f rest inner
        return replaceEntry key (.array true (items.dropLast ++ [.table origin inner])) entries
      | _ => none
    | some _ => none

/-- Opens the table of a key. It must be new, or implied by headers that run through it. -/
def openTable? (key : String) (entries : Entries) : Option Entries :=
  match entries.lookup key with
  | none => some (entries ++ [(key, .table .header [])])
  | some (.table .implied inner) => some (replaceEntry key (.table .header inner) entries)
  | some _ => none

/-- Opens the next table of the array of a key, which is new or made of such tables. -/
def openElement? (key : String) (entries : Entries) : Option Entries :=
  match entries.lookup key with
  | none => some (entries ++ [(key, .array true [.table .header []])])
  | some (.array true items) => some (replaceEntry key (.array true (items ++ [.table .header []])) entries)
  | some _ => none

/-- A document while it is read: its tables so far, and the path of the open one. -/
structure Draft where
  entries : Entries := []
  current : List String := []

/-- The draft after one more statement. -/
def Draft.add? (d : Draft) : Statement → Option Draft
  | .table path => do
    let key ← path.getLast?
    return ⟨← changeAt? (openTable? key) path.dropLast d.entries, path⟩
  | .element path => do
    let key ← path.getLast?
    return ⟨← changeAt? (openElement? key) path.dropLast d.entries, path⟩
  | .assign path v => do
    return ⟨← changeAt? (assign? v path) d.current d.entries, d.current⟩

/-- The text without a byte order mark at its start. -/
def dropByteOrderMark : List Char → List Char
  | '\ufeff' :: cs => cs
  | cs => cs

/-- Reads a document. -/
def document? (text : String) : Option Entries := do
  let cs := dropByteOrderMark text.toList
  let draft ← (← statements? (cs.length + 1) cs).foldlM Draft.add? {}
  return draft.entries

end TextAdventure.Toml
