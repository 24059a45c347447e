/-! The values of TOML: texts, numbers, dates, arrays and tables. Tables remember how they came to be,
    since that decides which later lines of a document may extend them. -/

namespace TextAdventure.Toml

/-! ### Numbers and dates -/

/-- The fraction `digits` times ten to the power `exponent`. -/
structure Decimal where
  digits : Nat
  exponent : Int
deriving DecidableEq, Repr

/-- The fraction rounds to a number beyond the greatest one of 64-bit floating point: it is at least
    half a unit in the last place above that number. -/
def Decimal.isTooLarge (d : Decimal) : Bool :=
  let bound := Nat.pow 2 1024 - Nat.pow 2 970
  if d.digits = 0 then false
  else if d.exponent ≥ 310 then true
  else if d.exponent ≥ 0 then d.digits * Nat.pow 10 d.exponent.toNat ≥ bound
  else if -d.exponent ≥ (Nat.toDigits 10 d.digits).length then false
  else d.digits ≥ bound * Nat.pow 10 (-d.exponent).toNat

/-- A day of the calendar. -/
structure Date where
  year : Nat
  month : Nat
  day : Nat
deriving DecidableEq, Repr

/-- A time of day. -/
structure Time where
  hour : Nat
  minute : Nat
  second : Nat
  /-- The digits after the point of the seconds. -/
  fraction : List Char
deriving DecidableEq, Repr

/-- The distance from universal time. -/
inductive Offset where
  | universal
  | behind (hours minutes : Nat)
  | ahead (hours minutes : Nat)
deriving DecidableEq, Repr

/-- A date, a time of day, or both, then possibly with an offset. -/
structure DateTime where
  date : Option Date
  time : Option Time
  offset : Option Offset
deriving DecidableEq, Repr

/-- A number in at least `width` decimal digits. -/
def padded (width n : Nat) : String :=
  let digits := Nat.toDigits 10 n
  String.ofList (List.replicate (width - digits.length) '0' ++ digits)

/-- The date with all digits of its parts. -/
def Date.text (d : Date) : String := padded 4 d.year ++ "-" ++ padded 2 d.month ++ "-" ++ padded 2 d.day

/-- The time with its seconds and their fraction up to nanoseconds without zeros at the end. -/
def Time.text (t : Time) : String :=
  let fraction := ((t.fraction.take 9).reverse.dropWhile (· == '0')).reverse
  padded 2 t.hour ++ ":" ++ padded 2 t.minute ++ ":" ++ padded 2 t.second
    ++ (if fraction.isEmpty then "" else "." ++ String.ofList fraction)

/-- The offset; universal time has a letter of its own, and none is zero behind it. -/
def Offset.text : Offset → String
  | .universal => "Z"
  | .behind 0 0 => "+00:00"
  | .behind hours minutes => "-" ++ padded 2 hours ++ ":" ++ padded 2 minutes
  | .ahead hours minutes => "+" ++ padded 2 hours ++ ":" ++ padded 2 minutes

/-- The canonical text of a date or time. -/
def DateTime.text (t : DateTime) : String :=
  let date := (t.date.map Date.text).getD ""
  let time := (t.time.map Time.text).getD ""
  date ++ (if t.date.isSome && t.time.isSome then "T" else "") ++ time ++ (t.offset.map Offset.text).getD ""

/-! ### Values -/

/-- How a table came to be. -/
inductive Origin where
  /-- A header names the table itself. -/
  | header
  /-- Only a longer header runs through the table. -/
  | implied
  /-- A dotted key runs through the table. -/
  | dotted
  /-- The table is written in one piece, as a value. -/
  | inline
deriving DecidableEq, Repr

/-- A value of a document. -/
inductive Value where
  | string (text : String)
  /-- A whole number, or nothing if its digits stand for none. -/
  | integer (number : Option Int)
  /-- A finite fraction, or nothing for an infinity or what is not a number. -/
  | float (magnitude : Option Decimal)
  | boolean (b : Bool)
  | dateTime (t : DateTime)
  /-- An array. It `grows` if it is made of headers in double brackets. -/
  | array (grows : Bool) (items : List Value)
  | table (origin : Origin) (entries : List (String × Value))
deriving Inhabited

/-- The keys of a table with their values, in order of appearance. -/
abbrev Entries := List (String × Value)

mutual
/-- All numbers of a value fit: integers have a value from `low` to `high`, and no fraction is too
    large. -/
def Value.numbersFit (low high : Int) : Value → Bool
  | .integer (some n) => low ≤ n && n ≤ high
  | .integer none => false
  | .float (some d) => !d.isTooLarge
  | .array _ items => itemsFit low high items
  | .table _ entries => entriesFit low high entries
  | _ => true

/-- All numbers of the values fit. -/
def itemsFit (low high : Int) : List Value → Bool
  | [] => true
  | v :: rest => v.numbersFit low high && itemsFit low high rest

/-- All numbers of the entries fit. -/
def entriesFit (low high : Int) : List (String × Value) → Bool
  | [] => true
  | (_, v) :: rest => v.numbersFit low high && entriesFit low high rest
end

end TextAdventure.Toml
