import Treedown.Toml.Value
/-!
# TOML — dates and times

A moment is a date, a time of day, or both with or without a distance from
universal time. It is read into one spelling: a `T` between date and time,
no zeros at the end of a fraction, and at most nine digits of it.
-/

namespace Treedown

namespace Toml

/-- A number of so many digits. -/
def fixed? (n : Nat) (t : Text) : Option (Nat × Text) :=
  let digits := t.take n
  if digits.length = n && digits.all Char.isDigit then
    some (digits.foldl (fun k c => 10 * k + (c.toNat - 48)) 0, t.drop n)
  else none

/-- The text behind a character. -/
def behind? (c : Char) : Text → Option Text
  | d :: rest => if c = d then some rest else none
  | [] => none

/-- A number in at least so many digits. -/
def zeroPadded (n k : Nat) : Text :=
  List.replicate (n - (Text.ofNat k).length) '0' ++ Text.ofNat k

/-- The number of days in a month. -/
def daysIn (year month : Nat) : Nat :=
  if month = 2 then
    if year % 4 = 0 && (year % 100 ≠ 0 || year % 400 = 0) then 29 else 28
  else if month = 4 ∨ month = 6 ∨ month = 9 ∨ month = 11 then 30
  else 31

/-- A date. -/
def date? (t : Text) : Option (Text × Text) := do
  let (year, t) ← fixed? 4 t
  let (month, t) ← fixed? 2 (← behind? '-' t)
  let (day, t) ← fixed? 2 (← behind? '-' t)
  if 1 ≤ month && month ≤ 12 && 1 ≤ day && day ≤ daysIn year month then
    some (zeroPadded 4 year ++ '-' :: zeroPadded 2 month ++ '-' :: zeroPadded 2 day, t)
  else none

/-- The fraction of a second, if there is one. -/
def secondFraction? : Text → Option (Text × Text)
  | '.' :: rest =>
    let digits := rest.takeWhile Char.isDigit
    if digits.isEmpty then none
    else
      let kept := Text.dropEndWhile (· == '0') (digits.take 9)
      some (if kept.isEmpty then [] else '.' :: kept, rest.dropWhile Char.isDigit)
  | rest => some ([], rest)

/-- A time of day. -/
def time? (t : Text) : Option (Text × Text) := do
  let (hour, t) ← fixed? 2 t
  let (minute, t) ← fixed? 2 (← behind? ':' t)
  let (second, t) ← fixed? 2 (← behind? ':' t)
  let (fraction, t) ← secondFraction? t
  if hour ≤ 23 && minute ≤ 59 && second ≤ 60 then
    some (zeroPadded 2 hour ++ ':' :: zeroPadded 2 minute ++ ':' :: zeroPadded 2 second ++
      fraction, t)
  else none

/-- A distance from universal time in hours and minutes; none has a minus
in front. -/
def distance? (minus : Char) (t : Text) : Option (Text × Text) := do
  let (hour, t) ← fixed? 2 t
  let (minute, t) ← fixed? 2 (← behind? ':' t)
  if hour ≤ 23 && minute ≤ 59 then
    some ((if hour = 0 ∧ minute = 0 then '+' else minus) ::
      zeroPadded 2 hour ++ ':' :: zeroPadded 2 minute, t)
  else none

/-- The distance from universal time, if one is given. -/
def offset? : Text → Option (Text × Text)
  | 'Z' :: rest | 'z' :: rest => some (['Z'], rest)
  | '+' :: rest => distance? '+' rest
  | '-' :: rest => distance? '-' rest
  | rest => some ([], rest)

/-- The time behind a date, if there is one. -/
def timeOfDate? (t : Text) : Option (Text × Text) :=
  match t with
  | c :: rest =>
    if c = 'T' ∨ c = 't' ∨ c = ' ' then
      match time? rest with
      | some (time, rest) => (offset? rest).map fun (o, rest) => ('T' :: time ++ o, rest)
      | none => some ([], t)
    else some ([], t)
  | [] => some ([], [])

/-- **A moment** in its spelling. -/
def moment? (t : Text) : Option (Text × Text) :=
  match date? t with
  | some (date, rest) => (timeOfDate? rest).map fun (time, rest) => (date ++ time, rest)
  | none => time? t

end Toml

end Treedown
