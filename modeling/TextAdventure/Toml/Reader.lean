import TextAdventure.Toml.DateTime
import TextAdventure.Toml.Quoted

/-! Reading keys and values. Arrays and tables within values may be nested to a fixed depth, by which
    the reader of values recurs. -/

namespace TextAdventure.Toml

/-- How deep arrays and tables may be nested within a value. -/
def maxDepth : Nat := 80

/-- How many keys a path may have. -/
def maxKeys : Nat := 80

/-! ### Keys -/

/-- The character may stand in a key without quotes. -/
def isBareKeyChar (c : Char) : Bool := c.isAlphanum || c == '-' || c == '_'

/-- Reads one key, in quotes or bare. -/
def key? (cs : List Char) : Option (String × List Char) :=
  match cs with
  | '"' :: _ | '\'' :: _ => lineString? cs
  | _ =>
    let key := cs.takeWhile isBareKeyChar
    if key.isEmpty then none else some (String.ofList key, cs.dropWhile isBareKeyChar)

/-- Reads keys with points between them, and blanks around each. No path has more keys than `bound`. -/
def path? : (bound : Nat) → List Char → Option (List String × List Char)
  | 0, _ => none
  | bound + 1, cs => do
    let (key, rest) ← key? (skipBlanks cs)
    match skipBlanks rest with
    | '.' :: rest =>
      let (keys, rest) ← path? bound rest
      return (key :: keys, rest)
    | rest => return ([key], rest)

/-! ### Tables -/

/-- The entries with another value for a key that they have. -/
def replaceEntry (key : String) (v : Value) (entries : Entries) : Entries :=
  entries.map fun e => if e.1 == key then (key, v) else e

/-- Enters a value under a path of keys. The table that takes it, if it is not the first one, must be
    made by dotted keys; on the way there, the path may also run through tables that headers imply and
    through the last table of an array. A key that is there already refuses. -/
def assign? (v : Value) : List String → Entries → Option Entries
  | [], _ => none
  | [key], entries => if (entries.lookup key).isSome then none else some (entries ++ [(key, v)])
  | key :: rest, entries =>
    match entries.lookup key with
    | none => do
      return entries ++ [(key, .table .dotted (← assign? v rest []))]
    | some (.table .dotted inner) => do
      return replaceEntry key (.table .dotted (← assign? v rest inner)) entries
    | some (.table .implied inner) =>
      if rest.length ≤ 1 then none
      else do
        return replaceEntry key (.table .implied (← assign? v rest inner)) entries
    | some (.array true items) =>
      if rest.length ≤ 1 then none
      else
        match items.getLast? with
        | some (.table origin inner) => do
          let inner ← assign? v rest inner
          return replaceEntry key (.array true (items.dropLast ++ [.table origin inner])) entries
        | _ => none
    | some _ => none

/-! ### Values -/

/-- The character may stand in a value without quotes or brackets: it is no blank or end of a line, and
    opens, parts or closes nothing. -/
def isTokenChar (c : Char) : Bool :=
  !isInlineBlank c && c != '\r' && c != '\n' && c != '#' && c != '=' && c != ',' && c != '[' && c != ']'
    && c != '\x7b' && c != '\x7d'

/-- After blanks there follows a character of a value, and no quote that starts a string. -/
def tokenGoesOn (cs : List Char) : Bool :=
  match skipBlanks cs with
  | c :: _ => isTokenChar c && c != '"' && c != '\''
  | [] => false

/-- The text of a value without quotes or brackets, and what follows it. Blanks within it belong to it,
    as in a date with a time. -/
def token : List Char → List Char × List Char
  | [] => ([], [])
  | c :: cs =>
    if isTokenChar c || isInlineBlank c && tokenGoesOn cs then
      let (text, rest) := token cs
      (c :: text, rest)
    else ([], c :: cs)

/-- Reads a value that is neither an array nor a table. -/
def scalar? (cs : List Char) : Option (Value × List Char) :=
  match cs with
  | '"' :: _ | '\'' :: _ => (string? cs).map fun (text, rest) => (.string text, rest)
  | _ =>
    let (text, rest) := token cs
    if text == "true".toList then some (.boolean true, rest)
    else if text == "false".toList then some (.boolean false, rest)
    else
      match dateTime? text with
      | some t => some (.dateTime t, rest)
      | none => (number? text).map fun n => (n, rest)

/-- Reads the items of an array up to its closing bracket. Their number is below `bound`. -/
def items? (item : List Char → Option (Value × List Char)) : (bound : Nat) → List Char →
    Option (List Value × List Char)
  | 0, _ => none
  | bound + 1, cs => do
    match ← skipGap false cs with
    | ']' :: rest => return ([], rest)
    | cs =>
      let (v, rest) ← item cs
      match ← skipGap false rest with
      | ',' :: rest =>
        let (vs, rest) ← items? item bound rest
        return (v :: vs, rest)
      | ']' :: rest => return ([v], rest)
      | _ => none

/-- Reads the entries of a table written as a value up to its closing brace, after those that it has
    already. The equals sign may have lines of its own. The number of entries is below `bound`. -/
def entries? (item : List Char → Option (Value × List Char)) : (bound : Nat) → Entries → List Char →
    Option (Entries × List Char)
  | 0, _, _ => none
  | bound + 1, entries, cs => do
    match ← skipGap false cs with
    | '\x7d' :: rest => return (entries, rest)
    | cs =>
      let (path, rest) ← path? maxKeys cs
      match ← skipGap false rest with
      | '=' :: rest =>
        let (v, rest) ← item (← skipGap false rest)
        let entries ← assign? v path entries
        match ← skipGap false rest with
        | ',' :: rest => entries? item bound entries rest
        | '\x7d' :: rest => return (entries, rest)
        | _ => none
      | _ => none

/-- Reads a value in which arrays and tables are nested at most `depth` deep. -/
def value? : (depth : Nat) → List Char → Option (Value × List Char)
  | 0, cs => scalar? cs
  | depth + 1, cs =>
    match cs with
    | '[' :: rest => (items? (value? depth) (rest.length + 1) rest).map fun (vs, rest) => (.array false vs, rest)
    | '\x7b' :: rest =>
      (entries? (value? depth) (rest.length + 1) [] rest).map fun (es, rest) => (.table .inline es, rest)
    | _ => scalar? cs

end TextAdventure.Toml
