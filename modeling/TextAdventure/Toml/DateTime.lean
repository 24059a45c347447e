import TextAdventure.Toml.Number

/-! TOML dates and times. Every part has its fixed number of digits and its range, days that of their
    month; seconds that are left out are zero. -/

namespace TextAdventure.Toml

/-- The value of a row of digits. -/
def digits? (cs : List Char) : Option Nat := if cs.all Char.isDigit then some (ofDigits 10 cs) else none

/-- The year has a 29th of February. -/
def isLeapYear (year : Nat) : Bool := year % 4 == 0 && (year % 100 != 0 || year % 400 == 0)

/-- The number of days of a month. -/
def daysIn (year month : Nat) : Nat :=
  if month == 2 then if isLeapYear year then 29 else 28
  else if month == 4 || month == 6 || month == 9 || month == 11 then 30
  else 31

/-- Reads a date, and what follows it. -/
def date? : List Char → Option (Date × List Char)
  | y₁ :: y₂ :: y₃ :: y₄ :: '-' :: m₁ :: m₂ :: '-' :: d₁ :: d₂ :: rest => do
    let year ← digits? [y₁, y₂, y₃, y₄]
    let month ← digits? [m₁, m₂]
    let day ← digits? [d₁, d₂]
    if 1 ≤ month && month ≤ 12 && 1 ≤ day && day ≤ daysIn year month then some (⟨year, month, day⟩, rest)
    else none
  | _ => none

/-- Reads an hour and a minute, and what follows them. -/
def clock? : List Char → Option ((Nat × Nat) × List Char)
  | h₁ :: h₂ :: ':' :: m₁ :: m₂ :: rest => do
    let hour ← digits? [h₁, h₂]
    let minute ← digits? [m₁, m₂]
    if hour ≤ 23 && minute ≤ 59 then some ((hour, minute), rest) else none
  | _ => none

/-- Reads a time of day, and what follows it. -/
def time? (cs : List Char) : Option (Time × List Char) := do
  let ((hour, minute), rest) ← clock? cs
  match rest with
  | ':' :: s₁ :: s₂ :: rest =>
    let second ← digits? [s₁, s₂]
    if second > 60 then none
    else
      match rest with
      | '.' :: rest =>
        let fraction := rest.takeWhile Char.isDigit
        if fraction.isEmpty then none
        else some (⟨hour, minute, second, fraction⟩, rest.dropWhile Char.isDigit)
      | _ => some (⟨hour, minute, second, []⟩, rest)
  | _ => some (⟨hour, minute, 0, []⟩, rest)

/-- Reads the offset that ends a date with a time. -/
def offset? : List Char → Option (Option Offset)
  | [] => some none
  | ['Z'] | ['z'] => some (some .universal)
  | '+' :: cs =>
    match clock? cs with
    | some ((hours, minutes), []) => some (some (.ahead hours minutes))
    | _ => none
  | '-' :: cs =>
    match clock? cs with
    | some ((hours, minutes), []) => some (some (.behind hours minutes))
    | _ => none
  | _ => none

/-- Reads a date, a time of day, or both with or without an offset. -/
def dateTime? (cs : List Char) : Option DateTime :=
  match date? cs with
  | some (date, []) => some ⟨some date, none, none⟩
  | some (date, c :: rest) =>
    if c == 'T' || c == 't' || c == ' ' then do
      let (time, rest) ← time? rest
      return ⟨some date, some time, ← offset? rest⟩
    else none
  | none =>
    match time? cs with
    | some (time, []) => some ⟨none, some time, none⟩
    | _ => none

end TextAdventure.Toml
