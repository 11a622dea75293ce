import Stencil.Decimal.Reader
import Stencil.Json.Basic
import Stencil.Text.Search

/-! Dates, times of day and both together.

In plain data such an instant is an object with one key, `instantKey`. -/

set_option autoImplicit false

namespace Stencil.Toml

open Decimal (ofDigits)
open Text (isDigit splitFirst splitOn)

structure ClockBounds where
  lastHour : Nat
  /-- The last hour and the last minute of an offset from universal time. -/
  lastOffset : Nat × Nat
  /-- The most minutes that an offset may have in all. -/
  lastOffsetMinutes : Nat

def ClockBounds.word : ClockBounds := ⟨23, (23, 59), 1440⟩

/-- The bounds of a string that is read as an instant. -/
def ClockBounds.string : ClockBounds := ⟨24, (99, 99), 1440⟩

/-- A number of two digits within bounds. -/
def readPair? (least most : Nat) (cs : List Char) : Option Nat :=
  if cs.length = 2 && cs.all isDigit then
    let n := ofDigits cs
    if least ≤ n && n ≤ most then some n else none
  else none

def daysOf (year month : Nat) : Nat :=
  if month = 2 then if year % 4 = 0 && (year % 100 != 0 || year % 400 = 0) then 29 else 28
  else if month = 4 || month = 6 || month = 9 || month = 11 then 30
  else 31

def isDate (cs : List Char) : Bool :=
  match splitOn '-' cs with
  | [year, month, day] =>
    year.length == 4 && year.all isDigit &&
      (readPair? 1 12 month).any fun m => (readPair? 1 (daysOf (ofDigits year) m) day).isSome
  | _ => false

namespace ClockBounds

/-- Whether a text is a time of day: hour, minute and second with an optional fraction. -/
def isTime (bounds : ClockBounds) (cs : List Char) : Bool :=
  match splitOn ':' cs with
  | [hour, minute, second] =>
    (readPair? 0 bounds.lastHour hour).isSome && (readPair? 0 59 minute).isSome &&
      (match splitFirst '.' second with
        | some (whole, fraction) =>
          (readPair? 0 60 whole).isSome && !fraction.isEmpty && fraction.all isDigit
        | none => (readPair? 0 60 second).isSome)
  | _ => false

/-- Whether a text is an offset from universal time: hours and minutes behind the sign. -/
def isOffset (bounds : ClockBounds) (cs : List Char) : Bool :=
  match splitOn ':' cs with
  | [hour, minute] =>
    (readPair? 0 bounds.lastOffset.1 hour).any fun h =>
      (readPair? 0 bounds.lastOffset.2 minute).any fun m => h * 60 + m ≤ bounds.lastOffsetMinutes
  | _ => false

/-- Whether a text is a time of day with an optional offset. -/
def isOffsetTime (bounds : ClockBounds) (cs : List Char) : Bool :=
  match cs.getLast? with
  | none => false
  | some last =>
    if last = 'Z' ∨ last = 'z' then bounds.isTime cs.dropLast
    else
      let time := cs.takeWhile fun c => c != '+' && c != '-'
      bounds.isTime time && (time.length == cs.length || bounds.isOffset (cs.drop (time.length + 1)))

/-- Whether a text is a date and a time, joined by a letter or a blank. -/
def isDateTime (bounds : ClockBounds) (cs : List Char) : Bool :=
  isDate (cs.take 10) &&
    match cs.drop 10 with
    | mark :: time => (mark == 'T' || mark == 't' || mark == ' ') && bounds.isOffsetTime time
    | [] => false

end ClockBounds

def instantKey : String := "$__toml_private_datetime"

def instant (cs : List Char) : Json := .object [(instantKey, .string (String.ofList cs))]

def readInstant? (bounds : ClockBounds) (cs : List Char) : Option Json :=
  if isDate cs || bounds.isDateTime cs || bounds.isTime cs then some (instant cs) else none

end Stencil.Toml
