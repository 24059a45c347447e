import TextAdventure.Toml.Value

/-! TOML numbers. Single underscores may part the digits, and a decimal number starts with a zero only
    if that is all of its whole part. A whole number is known by less than its value takes: digits may be
    missing after the letter of a base, and other characters may follow the first underscore. Such a
    number may be written, but it has no value. -/

namespace TextAdventure.Toml

/-- The number that digits in a base stand for. -/
def ofDigits (base : Nat) (digits : List Char) : Nat :=
  digits.foldl (fun n c => base * n + (if c.isDigit then c.toNat - '0'.toNat else c.toLower.toNat - 'a'.toNat + 10)) 0

/-- The digits without the underscores between them; nothing unless each underscore stands between two
    digits. -/
def ungroup? (isDigit : Char → Bool) (cs : List Char) : Option (List Char) :=
  let groups := cs.splitOn '_'
  if groups.all fun group => !group.isEmpty && group.all isDigit then some groups.flatten else none

/-- An integer with a sign. -/
def signed (negative : Bool) (n : Nat) : Int := if negative then -(n : Int) else n

/-- A number without its sign, which is true for a minus. -/
def splitSign : List Char → Bool × List Char
  | '+' :: cs => (false, cs)
  | '-' :: cs => (true, cs)
  | cs => (false, cs)

/-! ### Whole numbers -/

/-- The character is a hexadecimal digit. -/
def isHexDigit (c : Char) : Bool := c.isDigit || ('a' ≤ c && c ≤ 'f') || ('A' ≤ c && c ≤ 'F')

/-- The text is that of a whole number after its sign: decimal digits without a zero in front come before
    the first underscore, hexadecimal digits surround each underscore, and nothing marks a fraction or
    a second word. -/
def isWhole (cs : List Char) : Bool :=
  let groups := cs.splitOn '_'
  !cs.any (fun c => c == '.' || c == 'e' || c == 'E' || c == ' ')
    && groups.all (fun group => group.head?.any isHexDigit)
    && groups.dropLast.all (fun group => group.getLast?.any isHexDigit)
    && (cs == ['0'] || groups.head?.any fun group => group.all Char.isDigit && group.head? != some '0')

/-- Reads a whole number in decimal notation. -/
def decimal? (cs : List Char) : Option Value :=
  let (negative, body) := splitSign cs
  if isWhole body then
    some (.integer ((ungroup? Char.isDigit body).map fun ds => signed negative (ofDigits 10 ds)))
  else none

/-- Reads a whole number in a base of its own, after the letter of the base. -/
def based? (base : Nat) (isDigit : Char → Bool) (cs : List Char) : Option Value :=
  if cs.isEmpty then some (.integer none)
  else (ungroup? isDigit cs).map fun ds => .integer (some (ofDigits base ds))

/-- Reads a whole number: hexadecimal, octal or binary without a sign, or decimal. -/
def integer? : List Char → Option Value
  | '0' :: 'x' :: cs => based? 16 isHexDigit cs
  | '0' :: 'o' :: cs => based? 8 (fun c => '0' ≤ c && c ≤ '7') cs
  | '0' :: 'b' :: cs => based? 2 (fun c => c == '0' || c == '1') cs
  | cs => decimal? cs

/-! ### Fractions -/

/-- The digits before the point or the exponent. -/
def wholeDigits? (cs : List Char) : Option (List Char) :=
  match ungroup? Char.isDigit cs with
  | some ('0' :: _ :: _) => none
  | digits => digits

/-- Reads an exponent, which follows its letter. -/
def exponent? (cs : List Char) : Option Int :=
  let (negative, digits) := splitSign cs
  (ungroup? Char.isDigit digits).map fun ds => signed negative (ofDigits 10 ds)

/-- Reads the digits before an exponent: the fraction, and how many of its digits follow the point. -/
def mantissa? (cs : List Char) : Option (Nat × Nat) :=
  match cs.splitOn '.' with
  | [whole] => (wholeDigits? whole).map fun ds => (ofDigits 10 ds, 0)
  | [whole, part] => do
    let ds ← wholeDigits? whole
    let es ← ungroup? Char.isDigit part
    return (ofDigits 10 (ds ++ es), es.length)
  | _ => none

/-- Reads a number with a point or an exponent, infinity, or what is not a number. -/
def float? (cs : List Char) : Option Value :=
  let (_, cs) := splitSign cs
  if cs == ['i', 'n', 'f'] || cs == ['n', 'a', 'n'] then some (.float none)
  else
    match cs.splitOnP fun c => c == 'e' || c == 'E' with
    | [mantissa] =>
      if mantissa.contains '.' then do
        let (digits, places) ← mantissa? mantissa
        return .float (some ⟨digits, -places⟩)
      else none
    | [mantissa, exponent] => do
      let (digits, places) ← mantissa? mantissa
      return .float (some ⟨digits, (← exponent? exponent) - places⟩)
    | _ => none

/-- Reads a number. -/
def number? (cs : List Char) : Option Value :=
  match integer? cs with
  | some v => some v
  | none => float? cs

end TextAdventure.Toml
