import ShaclQuery.Term.Datatype
import ShaclQuery.Term.Date

/-! # Times and durations

The forms that XML Schema gives to times, years and durations; a time zone may follow all but durations.
With them the command decides which texts of foreign datatypes have values. The theory is about every
such decision.
-/

namespace ShaclQuery

namespace Moment

/-! ## 1. Forms -/

def dropZone (text : List Char) : List Char :=
  match text.reverse with
  | 'Z' :: rest => rest.reverse
  | m2 :: m1 :: ':' :: h2 :: h1 :: sign :: rest =>
    if [h1, h2, m1, m2].all Char.isDigit && (sign = '+' || sign = '-') then rest.reverse else text
  | _ => text

def isClock : List Char → Bool
  | h1 :: h2 :: ':' :: m1 :: m2 :: ':' :: s1 :: s2 :: fraction =>
    let below (limit : Nat) (digits : List Char) : Bool := (Date.number? digits).any (· < limit)
    below 24 [h1, h2] && below 60 [m1, m2] && below 60 [s1, s2] &&
      match fraction with
      | [] => true
      | '.' :: digits => !digits.isEmpty && digits.all Char.isDigit
      | _ => false
  | _ => false

def isTime (text : List Char) : Bool := isClock (dropZone text)

def isDateTime (text : List Char) : Bool :=
  let date := text.takeWhile (· != 'T')
  (Date.read date).isSome && isTime (text.drop (date.length + 1))

def isYearNumber (text : List Char) : Bool :=
  let digits := if text.head? = some '-' then text.drop 1 else text
  4 ≤ digits.length && digits.all Char.isDigit

def isYear (text : List Char) : Bool := isYearNumber (dropZone text)

def isYearMonth (text : List Char) : Bool :=
  match (dropZone text).reverse with
  | m2 :: m1 :: '-' :: year =>
    isYearNumber year.reverse && (Date.number? [m1, m2]).any fun month => 1 ≤ month && month ≤ 12
  | _ => false

/-- Drops numbers with their units, which come in the order given, and tells whether there were any. -/
def dropFields : List Char → List Char → Bool × List Char
  | [], text => (false, text)
  | unit :: units, text =>
    let number := text.takeWhile fun c => c.isDigit || (unit = 'S' && c = '.')
    match number, text.drop number.length with
    | _ :: _, mark :: rest =>
      if mark = unit then (true, (dropFields units rest).2) else dropFields units text
    | _, _ => dropFields units text

def isDuration (text : List Char) : Bool :=
  match if text.head? = some '-' then text.drop 1 else text with
  | 'P' :: rest =>
    match dropFields ['Y', 'M', 'D'] rest with
    | (found, []) => found
    | (_, 'T' :: rest) => dropFields ['H', 'M', 'S'] rest = (true, [])
    | _ => false
  | _ => false

end Moment

/-! ## 2. The standard foreign datatypes -/

namespace Standard

open Vocabulary

def isPlainMarkup (text : List Char) : Bool := !(text.contains '<' || text.contains '&')

def foreignForms : List (String × (List Char → Bool)) := [
  (xsd "time", Moment.isTime), (xsd "dateTime", Moment.isDateTime), (xsd "gYear", Moment.isYear),
  (xsd "gYearMonth", Moment.isYearMonth), (xsd "duration", Moment.isDuration),
  (xsd "dayTimeDuration", Moment.isDuration), (xsd "yearMonthDuration", Moment.isDuration),
  (rdf "HTML", isPlainMarkup), (rdf "XMLLiteral", isPlainMarkup)]

/-- A text of the right form has a value, which is written with that text. -/
scoped instance foreignTypes : ForeignTypes where
  canonical? datatype text :=
    if (foreignForms.lookup datatype).any (· text.toList) then some text else none
  canonical?_isSome := by
    intro datatype text value h
    split at h
    · rename_i hform
      cases h
      rw [if_pos hform]
      rfl
    · cases h

end Standard

end ShaclQuery
