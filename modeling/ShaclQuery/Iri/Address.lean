/-! # Numeric hosts

A host in brackets is an address of eight groups of hexadecimal digits, or one of a later version.
A run of zero groups may be left out once, and the last two groups may be four decimal numbers.
-/

namespace ShaclQuery.Iri

def isHexDigit (c : Char) : Bool :=
  c.isDigit || ('a' ≤ c && c ≤ 'f') || ('A' ≤ c && c ≤ 'F')

def isGroup (group : List Char) : Bool :=
  !group.isEmpty && group.length ≤ 4 && group.all isHexDigit

def isOctet (digits : List Char) : Bool :=
  !digits.isEmpty && digits.length ≤ 3 && digits.all Char.isDigit
    && (digits.length == 1 || digits.head? != some '0')
    && digits.foldl (fun n c => 10 * n + (c.toNat - 48)) 0 ≤ 255

def isDottedAddress (text : List Char) : Bool :=
  let octets := text.splitOn '.'
  octets.length == 4 && octets.all isOctet

/-- Reads a dotted end as two groups. -/
def expandDotted? (groups : List (List Char)) : Option (List (List Char)) :=
  match groups.getLast? with
  | some last =>
    if !last.contains '.' then some groups
    else if isDottedAddress last then some (groups.dropLast ++ [['0'], ['0']])
    else none
  | none => none

/-- Whether the texts between the colons of an address make eight groups. An empty text inside
stands for the groups that are left out; one at an end belongs to it. -/
def isGroupList (groups : List (List Char)) : Bool :=
  let inner := (groups.drop 1).dropLast
  match inner.count [] with
  | 0 => groups.length == 8 && groups.all isGroup
  | 1 =>
    let gap := inner.findIdx (·.isEmpty)
    let front := groups.take (gap + 1)
    let back := groups.drop (gap + 2)
    let front := if front = [[]] then [] else front
    let back := if back = [[]] then [] else back
    front.length + back.length < 8 && (front ++ back).all isGroup
  | _ => false

/-- An address of eight groups, perhaps with a zone behind a percent sign. -/
def isGroupedAddress (text : List Char) : Bool :=
  let (address, zone) := text.span (· != '%')
  let groups := address.splitOn ':'
  (zone.isEmpty || (1 < zone.length && !(zone.drop 1).contains '%'))
    && 3 ≤ groups.length && (expandDotted? groups).any isGroupList

def isLaterAddress (text : List Char) : Bool :=
  match text with
  | 'v' :: rest =>
    let (version, rest) := rest.span isHexDigit
    !version.isEmpty && rest.head? == some '.' && 1 < rest.length
  | _ => false

def isBracketed (text : List Char) : Bool :=
  if text.head? = some 'v' then isLaterAddress text else isGroupedAddress text

end ShaclQuery.Iri
