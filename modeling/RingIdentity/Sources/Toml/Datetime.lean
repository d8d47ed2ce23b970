/-!
Dates and times of TOML documents: a date `YYYY-MM-DD`, a time `HH:MM` with optional seconds and
fraction, or both with `T`, `t` or a space between them and an optional offset, `Z` or `±HH:MM`.

Reading checks each field's width and range (the day against the month, February by the leap
year) and names the first field that is wrong: `invalid date, expected month between 01 and 12`.
A value is written back in the canonical form: the `T` separator, an upper-case `Z`, `+00:00`
for a zero offset written with a minus, and the fraction to nanoseconds without trailing zeros
(but one digit at least).
-/
namespace RingIdentity

namespace Toml

/-- The pieces of a date or time text. -/
inductive DatePiece where
  | digits (ds : List Char)
  | dash
  | colon
  | dot
  | separator
  | space
  | zulu
  | plus
  | other
  deriving DecidableEq, Repr, Inhabited

/-- The piece a character other than a digit stands for. -/
def DatePiece.ofChar (c : Char) : DatePiece :=
  if c = '-' then .dash
  else if c = ':' then .colon
  else if c = '.' then .dot
  else if c = 'T' ∨ c = 't' then .separator
  else if c = ' ' then .space
  else if c = 'Z' ∨ c = 'z' then .zulu
  else if c = '+' then .plus
  else .other

/-- Cuts a date or time text into pieces, `run` being the digits read so far; a character of no
piece ends the cutting. -/
def datePieces (run : List Char) : List Char → List DatePiece
  | [] => close []
  | c :: rest =>
    if c.isDigit then datePieces (run ++ [c]) rest
    else
      let p := DatePiece.ofChar c
      close (if p = .other then [.other] else p :: datePieces [] rest)
where
  /-- Puts the digits read before other pieces. -/
  close (ps : List DatePiece) : List DatePiece := if run.isEmpty then ps else .digits run :: ps

/-- Why a date or time does not read: the part that is wrong and what it should be. -/
structure DateFault where
  what : Option String := none
  expected : Option String := none
  deriving DecidableEq, Repr, Inhabited

/-- The message of a date fault. -/
def DateFault.message (f : DateFault) : String :=
  "invalid " ++ f.what.getD "datetime" ++
    match f.expected with
    | some e => ", expected " ++ e
    | none => ""

/-- A date. -/
structure Date where
  year : Nat
  month : Nat
  day : Nat
  deriving DecidableEq, Repr, Inhabited

/-- A time of day; the nanoseconds are there when a fraction is written. -/
structure TimeOfDay where
  hour : Nat
  minute : Nat
  second : Option Nat
  nanosecond : Option Nat
  deriving DecidableEq, Repr, Inhabited

/-- An offset from universal time: `Z`, or a number of minutes. -/
inductive Offset where
  | zulu
  | minutes (m : Int)
  deriving DecidableEq, Repr, Inhabited

/-- A date, a time or both, with an offset when both are there. -/
structure Datetime where
  date : Option Date
  time : Option TimeOfDay
  offset : Option Offset
  deriving DecidableEq, Repr, Inhabited

/-- The value of decimal digits. -/
def digitsValue (ds : List Char) : Nat :=
  ds.foldl (fun n c => 10 * n + (c.toNat - '0'.toNat)) 0

/-- A number written with at least `width` digits. -/
def padded (width n : Nat) : String :=
  let s := toString n
  String.ofList (List.replicate (width - s.length) '0') ++ s

/-- Whether a year is a leap year. -/
def isLeapYear (y : Nat) : Bool := y % 4 = 0 && (y % 100 ≠ 0 || y % 400 = 0)

/-- The last day of a month, and how the range of days is named. -/
def monthDays (year month : Nat) : Nat × String :=
  if month = 2 then
    if isLeapYear year then (29, "day between 01 and 29") else (28, "day between 01 and 28")
  else if month = 4 ∨ month = 6 ∨ month = 9 ∨ month = 11 then (30, "day between 01 and 30")
  else (31, "day between 01 and 31")

/-- Digits as the next piece, or the fault naming them. -/
def expectDigits (what expected : String) :
    List DatePiece → Except DateFault (List Char × List DatePiece)
  | .digits ds :: rest => pure (ds, rest)
  | _ => throw { what, expected }

/-- A given piece next, or the fault naming it. -/
def expectPiece (p : DatePiece) (what expected : String) :
    List DatePiece → Except DateFault (Unit × List DatePiece)
  | q :: rest => if q = p then pure ((), rest) else throw { what, expected }
  | [] => throw { what, expected }

/-- Reads a date after its year digits and dash. -/
def readDate (year : List Char) (pieces : List DatePiece) :
    Except DateFault (Date × List DatePiece) := do
  let (month, pieces) ← expectDigits "date" "month" pieces
  let ((), pieces) ← expectPiece .dash "date" "`-` (MM-DD)" pieces
  let (day, pieces) ← expectDigits "date" "day" pieces
  if year.length ≠ 4 then throw { what := "date", expected := "a four-digit year (YYYY)" }
  if month.length ≠ 2 then throw { what := "date", expected := "a two-digit month (MM)" }
  if day.length ≠ 2 then throw { what := "date", expected := "a two-digit day (DD)" }
  let date : Date := ⟨digitsValue year, digitsValue month, digitsValue day⟩
  if date.month < 1 ∨ date.month > 12 then
    throw { what := "date", expected := "month between 01 and 12" }
  let (last, range) := monthDays date.year date.month
  if date.day < 1 ∨ date.day > last then throw { what := "date", expected := range }
  pure (date, pieces)

/-- The nanoseconds of fraction digits: the first nine, filled up to nine. -/
def nanosOf (ds : List Char) : Nat :=
  let first := ds.take 9
  digitsValue first * Nat.pow 10 (9 - first.length)

/-- Reads a time of day. -/
def readTime (pieces : List DatePiece) : Except DateFault (TimeOfDay × List DatePiece) := do
  let (hour, pieces) ← expectDigits "time" "hour" pieces
  let ((), pieces) ← expectPiece .colon "time" "`:` (HH:MM)" pieces
  let (minute, pieces) ← expectDigits "time" "minute" pieces
  let (second, pieces) ← match pieces with
    | .colon :: rest => do
      let (s, rest) ← expectDigits "time" "second" rest
      pure (some s, rest)
    | _ => pure (none, pieces)
  let (fraction, pieces) ← match second, pieces with
    | some _, .dot :: rest => do
      let (f, rest) ← expectDigits "time" "nanosecond" rest
      pure (some f, rest)
    | _, _ => pure (none, pieces)
  if hour.length ≠ 2 then throw { what := "time", expected := "a two-digit hour (HH)" }
  if minute.length ≠ 2 then throw { what := "time", expected := "a two-digit minute (MM)" }
  if (second.map List.length).getD 2 ≠ 2 then
    throw { what := "time", expected := "a two-digit second (SS)" }
  let time : TimeOfDay :=
    ⟨digitsValue hour, digitsValue minute, second.map digitsValue, fraction.map nanosOf⟩
  if time.hour > 23 then throw { what := "time", expected := "hour between 00 and 23" }
  if time.minute > 59 then throw { what := "time", expected := "minute between 00 and 59" }
  if time.second.getD 0 > 60 then throw { what := "time", expected := "second between 00 and 60" }
  pure (time, pieces)

/-- Reads an offset after a date and time, if one is written. -/
def readOffset : List DatePiece → Except DateFault (Option Offset × List DatePiece)
  | [] => pure (none, [])
  | .zulu :: rest => pure (some Offset.zulu, rest)
  | p :: rest =>
    if p = .plus ∨ p = .dash then do
      let (hours, rest) ← expectDigits "offset" "hour" rest
      let ((), rest) ← expectPiece .colon "offset" "`:` (HH:MM)" rest
      let (minutes, rest) ← expectDigits "offset" "minute" rest
      if hours.length ≠ 2 then throw { what := "offset", expected := "a two-digit hour (HH)" }
      if minutes.length ≠ 2 then throw { what := "offset", expected := "a two-digit minute (MM)" }
      let h := digitsValue hours
      let m := digitsValue minutes
      if h > 23 then throw { what := "offset", expected := "hours between 00 and 23" }
      if m > 59 then throw { what := "offset", expected := "minutes between 00 and 59" }
      let total : Int := h * 60 + m
      pure (some (.minutes (if p = .dash then -total else total)), rest)
    else throw { what := "offset", expected := "`Z`, +OFFSET, -OFFSET" }

/-- Reads a date, a time, or a date and time with an optional offset. -/
def Datetime.parse (text : String) : Except DateFault Datetime := do
  let pieces := datePieces [] text.toList
  let (first, pieces) ← expectDigits "datetime" "year or hour" pieces
  let (dt, rest) ← match pieces with
    | .dash :: pieces => do
      let (date, pieces) ← readDate first pieces
      match pieces with
      | [] => pure (⟨some date, none, none⟩, [])
      | p :: pieces =>
        if p = .separator ∨ p = .space then do
          let (time, pieces) ← readTime pieces
          let (offset, pieces) ← readOffset pieces
          pure (⟨some date, some time, offset⟩, pieces)
        else throw { what := "date-time", expected := "`T` between date and time" }
    | .colon :: _ => do
      let (time, pieces) ← readTime (.digits first :: pieces)
      pure (⟨none, some time, none⟩, pieces)
    | _ => throw { expected := "`-` (YYYY-MM-DD) or `:` (HH:MM)" }
  if rest.isEmpty then pure dt else throw {}

/-- A date written `YYYY-MM-DD`. -/
def Date.render (d : Date) : String :=
  padded 4 d.year ++ "-" ++ padded 2 d.month ++ "-" ++ padded 2 d.day

/-- Fraction digits for nanoseconds, without trailing zeros but one digit at least. -/
def fractionDigits (n : Nat) : String :=
  let ds := (padded 9 n).toList.reverse.dropWhile (· = '0')
  if ds.isEmpty then "0" else String.ofList ds.reverse

/-- A time written `HH:MM[:SS][.fraction]`. -/
def TimeOfDay.render (t : TimeOfDay) : String :=
  padded 2 t.hour ++ ":" ++ padded 2 t.minute ++
    (match t.second with
     | some s => ":" ++ padded 2 s
     | none => "") ++
    match t.nanosecond with
    | some n => "." ++ fractionDigits n
    | none => ""

/-- An offset written `Z` or `±HH:MM`. -/
def Offset.render : Offset → String
  | .zulu => "Z"
  | .minutes m =>
    let sign := if m < 0 then "-" else "+"
    sign ++ padded 2 (m.natAbs / 60) ++ ":" ++ padded 2 (m.natAbs % 60)

/-- A date and time written in the canonical form. -/
def Datetime.render (d : Datetime) : String :=
  (d.date.map Date.render).getD "" ++
    (match d.time with
     | some t => (if d.date.isSome then "T" else "") ++ t.render
     | none => "") ++
    (d.offset.map Offset.render).getD ""

end Toml

end RingIdentity
