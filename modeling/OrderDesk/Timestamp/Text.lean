import OrderDesk.Text.Blank
import OrderDesk.Text.Digit
import OrderDesk.Timestamp.Basic

/-!
# Points in time as text

A point in time is written in universal time as `2024-01-02T03:04:05Z`, with 3, 6 or 9 places of
seconds as far as they are needed, and `:60` for a leap second.  Years outside 0 to 9999 carry a
sign and at least four digits.

Reading is more generous: numbers may be short and have blanks in front, a `t` or a blank may stand
between date and time, and the time may be given at any distance from universal time.
-/

namespace OrderDesk.Timestamp

/-! ## Writing -/

/-- A year: four digits, or a sign and at least four outside 0 to 9999. -/
def yearChars (year : Int) : List Char :=
  if 0 ≤ year ∧ year ≤ 9999 then Text.padded 4 year.toNat
  else
    let digits := Nat.toDigits 10 year.natAbs
    (if year < 0 then '-' else '+') ::
      (if digits.length < 4 then Text.padded 4 year.natAbs else digits)

/-- Places of seconds: none, or 3, 6 or 9 of them. -/
def placesChars (nano : Nat) : List Char :=
  if nano = 0 then []
  else if nano % 1000000 = 0 then '.' :: Text.padded 3 (nano / 1000000)
  else if nano % 1000 = 0 then '.' :: Text.padded 6 (nano / 1000)
  else '.' :: Text.padded 9 nano

/-- A point in time in universal time. -/
def chars (t : Timestamp) : List Char :=
  let date := Calendar.dateOf t.day
  let (second, nano) :=
    if 1000000000 ≤ t.nano then (t.second % 60 + 1, t.nano - 1000000000)
    else (t.second % 60, t.nano)
  yearChars date.year ++ '-' :: Text.padded 2 date.month ++ '-' :: Text.padded 2 date.day ++
    'T' :: Text.padded 2 (t.second / 3600) ++ ':' :: Text.padded 2 (t.second / 60 % 60) ++
    ':' :: Text.padded 2 second ++ placesChars nano ++ ['Z']

/-- A point in time in universal time. -/
def text (t : Timestamp) : String := String.ofList t.chars

/-! ## Reading -/

/-- The first digits of a text, `limit` of them at most, and the text after them. -/
def takeDigits : (limit : Nat) → List Char → List Nat × List Char
  | limit + 1, c :: rest =>
    match Text.value? c with
    | some d =>
      let (ds, rest) := takeDigits limit rest
      (d :: ds, rest)
    | none => ([], c :: rest)
  | _, s => ([], s)

/-- A number of at least one and at most `limit` digits. -/
def number? (limit : Nat) (s : List Char) : Option (Nat × List Char) :=
  match takeDigits limit s with
  | ([], _) => none
  | (ds, rest) => some (Text.ofDigits 10 ds, rest)

/-- A number of one or two digits behind blanks. -/
def field? (s : List Char) : Option (Nat × List Char) := number? 2 (Text.trimStart s)

/-- A year behind blanks: up to four digits, or a sign and any number of them. -/
def year? (s : List Char) : Option (Int × List Char) :=
  match Text.trimStart s with
  | '-' :: rest => (number? rest.length rest).map fun (n, rest) => (-(n : Int), rest)
  | '+' :: rest => (number? rest.length rest).map fun (n, rest) => ((n : Int), rest)
  | s => (number? 4 s).map fun (n, rest) => ((n : Int), rest)

/-- A mark behind blanks. -/
def mark? (c : Char) (s : List Char) : Option (List Char) :=
  match Text.trimStart s with
  | d :: rest => if d = c then some rest else none
  | [] => none

/-- Places of a second as nanoseconds; what stands behind the ninth place is passed over. -/
def places? : List Char → Option (Nat × List Char)
  | '.' :: s =>
    match takeDigits 9 s with
    | ([], _) => none
    | (ds, rest) =>
      some (Text.ofDigits 10 ds * Nat.pow 10 (9 - ds.length),
        rest.dropWhile (fun c => (Text.value? c).isSome))
  | s => some (0, s)

/-- Two digits. -/
def twoDigits? : List Char → Option (Nat × List Char)
  | a :: b :: rest => do
    let a ← Text.value? a
    let b ← Text.value? b
    some (10 * a + b, rest)
  | _ => none

/-- A signed distance from universal time in hours and minutes, as seconds. -/
def distance? (negative : Bool) (s : List Char) : Option (Int × List Char) := do
  let (hours, rest) ← twoDigits? s
  let (minutes, rest) ← twoDigits? (rest.dropWhile (fun c => c == ':' || Text.isBlankChar c))
  if minutes < 60 ∧ hours < 24 then
    let seconds : Int := hours * 3600 + minutes * 60
    some (if negative then -seconds else seconds, rest)
  else none

/-- The distance of a time from universal time, as seconds. -/
def zone? (s : List Char) : Option (Int × List Char) :=
  if (s.take 3).map Char.toUpper = ['U', 'T', 'C'] then some (0, s.drop 3)
  else
    match s with
    | 'Z' :: rest => some (0, rest)
    | 'z' :: rest => some (0, rest)
    | '+' :: rest => distance? false rest
    | '-' :: rest => distance? true rest
    | '\u2212' :: rest => distance? true rest
    | _ => none

/-- The point in time of a date and a time of day that is `distance` seconds ahead of universal
time. -/
def assemble? (date : Calendar.Date) (hour minute second nano : Nat) (distance : Int) :
    Option Timestamp :=
  if date.isValid && Calendar.yearInRange date.year && hour < 24 && minute < 60 && second ≤ 60 then
    let (second, nano) := if second = 60 then (59, nano + 1000000000) else (second, nano)
    let seconds := Calendar.dayNumber date * secondsPerDay +
      (hour * 3600 + minute * 60 + second : Nat) - distance
    let day := seconds / secondsPerDay
    if Calendar.yearInRange (Calendar.dateOf day).year then
      some ⟨day, (seconds % secondsPerDay).toNat, nano⟩
    else none
  else none

/-- The point in time that a text stands for. -/
def ofChars? (s : List Char) : Option Timestamp := do
  let (year, s) ← year? s
  let s ← mark? '-' s
  let (month, s) ← field? s
  let s ← mark? '-' s
  let (day, s) ← field? s
  let s ← match s with
    | 'T' :: s | 't' :: s | ' ' :: s => some s
    | _ => none
  let (hour, s) ← field? s
  let s ← mark? ':' s
  let (minute, s) ← field? s
  let s ← mark? ':' s
  let (second, s) ← field? s
  let (nano, s) ← places? s
  let (distance, s) ← zone? (Text.trimStart s)
  if (Text.trimStart s).isEmpty then assemble? ⟨year, month, day⟩ hour minute second nano distance
  else none

/-- The point in time that a text stands for. -/
def ofText? (s : String) : Option Timestamp := ofChars? s.toList

end OrderDesk.Timestamp
