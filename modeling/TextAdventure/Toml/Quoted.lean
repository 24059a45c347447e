import TextAdventure.Toml.Spacing

/-! The four kinds of TOML strings. Double quotes admit escapes, single quotes take every character as
    it stands, and three quotes of either kind enclose text of several lines. A string is read in two
    steps: up to its closing quotes, and then each character of its body. -/

namespace TextAdventure.Toml

/-! ### Bodies -/

/-- Puts a character in front of a body that has been read. -/
def consBody (c : Char) (r : List Char × List Char) : List Char × List Char := (c :: r.1, r.2)

/-- The body of a string up to its closing quote, and what follows. If the kind of string `escapes`,
    a quote after a backslash closes nothing; `escaped` tells that the last character was a
    backslash in force. -/
def lineBody (quote : Char) (escapes escaped : Bool) : List Char → Option (List Char × List Char)
  | [] => none
  | c :: cs =>
    if escaped then (lineBody quote escapes false cs).map (consBody c)
    else if c == quote then some ([], cs)
    else (lineBody quote escapes (escapes && c == '\\') cs).map (consBody c)

/-- The quotes that belong to the body although they touch the closing ones, at most two, and what
    follows the string. -/
def trailingQuotes (quote : Char) : List Char → List Char × List Char
  | a :: b :: cs => if a == quote then if b == quote then ([a, b], cs) else ([a], b :: cs) else ([], a :: b :: cs)
  | [a] => if a == quote then ([a], []) else ([], [a])
  | [] => ([], [])

/-- The body of a string of several lines up to its three closing quotes, and what follows. -/
def blockBody (quote : Char) (escapes escaped : Bool) : List Char → Option (List Char × List Char)
  | [] => none
  | c :: cs =>
    if escaped then (blockBody quote escapes false cs).map (consBody c)
    else if c == quote && cs.take 2 == [quote, quote] then some (trailingQuotes quote (cs.drop 2))
    else (blockBody quote escapes (escapes && c == '\\') cs).map (consBody c)

/-! ### Characters of a body -/

/-- The value of a hexadecimal digit. -/
def hexDigit? (c : Char) : Option Nat :=
  if '0' ≤ c && c ≤ '9' then some (c.toNat - '0'.toNat)
  else if 'a' ≤ c && c ≤ 'f' then some (c.toNat - 'a'.toNat + 10)
  else if 'A' ≤ c && c ≤ 'F' then some (c.toNat - 'A'.toNat + 10)
  else none

/-- The character whose code point has these hexadecimal digits; surrogates are none. -/
def hexChar? (digits : List Char) : Option Char := do
  let n := (← digits.mapM hexDigit?).foldl (fun n d => 16 * n + d) 0
  if n.isValidChar then some (Char.ofNat n) else none

/-- The character that a letter after a backslash stands for. -/
def letterEscape? : Char → Option Char
  | 'b' => some '\x08'
  | 't' => some '\t'
  | 'n' => some '\n'
  | 'f' => some '\x0c'
  | 'r' => some '\r'
  | 'e' => some '\x1b'
  | '"' => some '"'
  | '\\' => some '\\'
  | _ => none

/-- The characters that a body with escapes stands for. In a body of several lines a backslash at the
    end of a line swallows all blanks and ends of lines after it; `swallowing` tells that it is
    still at work. -/
def unescape (severalLines swallowing : Bool) : List Char → Option (List Char)
  | [] => some []
  | c :: cs =>
    if swallowing && (isInlineBlank c || atNewline (c :: cs)) then
      -- of a carriage return and a line feed the latter is swallowed next
      unescape severalLines true cs
    else if c == '\\' then
      match cs with
      | 'x' :: a :: b :: rest => do
        let d ← hexChar? [a, b]
        (d :: ·) <$> unescape severalLines false rest
      | 'u' :: a :: b :: c :: d :: rest => do
        let e ← hexChar? [a, b, c, d]
        (e :: ·) <$> unescape severalLines false rest
      | 'U' :: a :: b :: c :: d :: e :: f :: g :: h :: rest => do
        let i ← hexChar? [a, b, c, d, e, f, g, h]
        (i :: ·) <$> unescape severalLines false rest
      | d :: rest =>
        if severalLines && atNewline (skipBlanks (d :: rest)) then unescape severalLines true (d :: rest)
        else do
          let e ← letterEscape? d
          (e :: ·) <$> unescape severalLines false rest
      | [] => none
    else if isPlainChar c || (severalLines && (c == '\n' || atNewline (c :: cs))) then
      (c :: ·) <$> unescape severalLines false cs
    else none

/-- The body of a string without escapes holds no character that it may not hold. -/
def isLiteral (severalLines : Bool) : List Char → Bool
  | [] => true
  | c :: cs =>
    (isPlainChar c || (severalLines && (c == '\n' || atNewline (c :: cs)))) && isLiteral severalLines cs

/-! ### Strings -/

/-- Reads a string of one line, opening quote included. -/
def lineString? : List Char → Option (String × List Char)
  | '"' :: cs => do
    let (body, rest) ← lineBody '"' true false cs
    return (String.ofList (← unescape false false body), rest)
  | '\'' :: cs => do
    let (body, rest) ← lineBody '\'' false false cs
    if isLiteral false body then some (String.ofList body, rest) else none
  | _ => none

/-- Reads a string of either kind of quotes and of any number of lines. The end of a line right after
    three opening quotes does not count. -/
def string? : List Char → Option (String × List Char)
  | '"' :: '"' :: '"' :: cs => do
    let (body, rest) ← blockBody '"' true false (dropNewline cs)
    return (String.ofList (← unescape true false body), rest)
  | '\'' :: '\'' :: '\'' :: cs => do
    let (body, rest) ← blockBody '\'' false false (dropNewline cs)
    if isLiteral true body then some (String.ofList body, rest) else none
  | cs => lineString? cs

end TextAdventure.Toml
