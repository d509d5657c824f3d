/-! # Calendar dates

A date is a year, a month and a day of the Gregorian calendar, written `2020-02-29`. A time of day
or a time zone behind it is dropped.
-/

namespace ShaclQuery

structure Date where
  year : Nat
  month : Nat
  day : Nat
  deriving DecidableEq, Repr

namespace Date

def isLeapYear (year : Nat) : Bool :=
  year % 4 = 0 && (year % 100 ≠ 0 || year % 400 = 0)

def daysInMonth (year month : Nat) : Nat :=
  if month = 2 then (if isLeapYear year then 29 else 28)
  else if [4, 6, 9, 11].contains month then 30 else 31

def isValid (d : Date) : Bool :=
  1 ≤ d.year && 1 ≤ d.month && d.month ≤ 12 && 1 ≤ d.day && d.day ≤ daysInMonth d.year d.month

/-- The text without a time of day or a time zone. -/
def dropZone (text : List Char) : List Char :=
  let text := match text.reverse with
    | 'Z' :: rest => rest.reverse
    | 'z' :: rest => rest.reverse
    | _ => text
  if text.contains 'T' then text.takeWhile (· != 'T')
  else
    match text.drop 10 with
    | '+' :: _ => text.take 10
    | '-' :: _ => text.take 10
    | _ => text

def number? (digits : List Char) : Option Nat :=
  if digits.all Char.isDigit then some (digits.foldl (fun n c => n * 10 + (c.toNat - 48)) 0)
  else none

def read (text : List Char) : Option Date :=
  match dropZone text with
  | [y1, y2, y3, y4, '-', m1, m2, '-', d1, d2] => do
    let date : Date := ⟨← number? [y1, y2, y3, y4], ← number? [m1, m2], ← number? [d1, d2]⟩
    if date.isValid then some date else none
  | _ => none

def padded (width n : Nat) : List Char :=
  let digits := Nat.toDigits 10 n
  List.replicate (width - digits.length) '0' ++ digits

def text (d : Date) : List Char :=
  padded 4 d.year ++ '-' :: padded 2 d.month ++ '-' :: padded 2 d.day

end Date

end ShaclQuery
