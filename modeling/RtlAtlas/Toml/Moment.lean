/-
Dates and times in a configuration file: a date, a date with a time and perhaps an offset, or a time
alone. No setting takes one, but a file may hold them under other keys; a date that the calendar does
not have is refused.
-/
import RtlAtlas.Toml.Value

namespace RtlAtlas.Toml

def digit? (c : Char) : Option Nat :=
  if '0' ≤ c && c ≤ '9' then some (c.toNat - 48) else none

/-- A number of two digits between bounds, and what follows. -/
def twoDigits? (low high : Nat) : List Char → Option (Nat × List Char)
  | a :: b :: rest => do
    let n := 10 * (← digit? a) + (← digit? b)
    if low ≤ n && n ≤ high then some (n, rest) else none
  | _ => none

/-- What follows a character that must stand in front. -/
def after? (c : Char) : List Char → Option (List Char)
  | d :: rest => if c == d then some rest else none
  | [] => none

/-- What follows the parts of a second in front, if there are any. -/
def skipFraction (cs : List Char) : List Char :=
  match cs with
  | '.' :: c :: rest => if (digit? c).isSome then rest.dropWhile fun d => (digit? d).isSome else cs
  | _ => cs

/-- What follows a time. -/
def skipTime? (cs : List Char) : Option (List Char) := do
  let (_, afterHour) ← twoDigits? 0 23 cs
  let (_, afterMinute) ← twoDigits? 0 59 (← after? ':' afterHour)
  let (_, afterSecond) ← twoDigits? 0 59 (← after? ':' afterMinute)
  return skipFraction afterSecond

/-- What follows an offset from universal time. -/
def skipOffset? : List Char → Option (List Char)
  | c :: rest =>
    if c == 'Z' || c == 'z' then some rest
    else if c == '+' || c == '-' then do
      let (_, afterHour) ← twoDigits? 0 23 rest
      let (_, afterMinute) ← twoDigits? 0 59 (← after? ':' afterHour)
      return afterMinute
    else none
  | [] => none

/-- What follows the time that may stand after a date. -/
def skipClock (cs : List Char) : List Char :=
  match cs with
  | c :: rest =>
    if c == 'T' || c == 't' || c == ' ' then
      match skipTime? rest with
      | some r => (skipOffset? r).getD r
      | none => cs
    else cs
  | [] => cs

def daysOf (year month : Nat) : Nat :=
  if month == 2 then
    if year % 4 == 0 && (year % 100 != 0 || year % 400 == 0) then 29 else 28
  else if month == 4 || month == 6 || month == 9 || month == 11 then 30
  else 31

/-- A date: year, month and day, and what follows. -/
def date? (cs : List Char) : Option ((Nat × Nat × Nat) × List Char) := do
  let (century, afterCentury) ← twoDigits? 0 99 cs
  let (rest, afterYear) ← twoDigits? 0 99 afterCentury
  let (month, afterMonth) ← twoDigits? 1 12 (← after? '-' afterYear)
  let (day, afterDay) ← twoDigits? 1 31 (← after? '-' afterMonth)
  return ((100 * century + rest, month, day), afterDay)

/-- The moment in front, and what follows: nothing if there is none, and no value if the calendar
does not have its date. -/
def moment? (cs : List Char) : Option (Option Toml × List Char) :=
  match date? cs with
  | some ((year, month, day), rest) =>
    let left := skipClock rest
    if 1 ≤ year && day ≤ daysOf year month then
      some (some (.moment (String.ofList (cs.take (cs.length - left.length)))), left)
    else some (none, left)
  | none =>
    (skipTime? cs).map fun left =>
      (some (.moment (String.ofList (cs.take (cs.length - left.length)))), left)

end RtlAtlas.Toml
