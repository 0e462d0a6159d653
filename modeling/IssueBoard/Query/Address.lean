import IssueBoard.Failure
import IssueBoard.Text.Blank
import IssueBoard.Text.Hex
import IssueBoard.Text.Normal
import IssueBoard.Text.Quoted

/-!
# Addresses

The scheme and the host of an address. A host in square brackets has to be an address of version
six or of a later version, and a host must not hold characters that merely look like the marks that
end it.
-/

namespace IssueBoard.Query

/-- Splits at every occurrence of a character. -/
def splitAt (mark : Char) (cs : List Char) : List (List Char) :=
  cs.foldr (fun c parts =>
    if c == mark then [] :: parts
    else match parts with
      | [] => [[c]]
      | part :: rest => (c :: part) :: rest) [[]]

/-- Whether a part of an address of version four is a number below 256 without leading zeros. -/
def isOctet (part : List Char) : Bool :=
  !part.isEmpty && part.length ≤ 3 && part.all Char.isDigit
    && (part.length == 1 || part.head? != some '0')
    && decide (part.foldl (fun value c => 10 * value + (c.toNat - '0'.toNat)) 0 ≤ 255)

/-- Whether a text is an address of version four. -/
def isVersionFour (cs : List Char) : Bool :=
  let parts := splitAt '.' cs
  parts.length == 4 && parts.all isOctet

/-- Whether a part of an address of version six is a number of at most four hexadecimal digits. -/
def isHextet (part : List Char) : Bool :=
  !part.isEmpty && part.length ≤ 4 && part.all fun c => (Text.hexValue? c).isSome

/-- The parts of an address of version six; one of version four at the end counts as two parts. -/
def hextets? (cs : List Char) : Option (List (List Char)) :=
  let parts := splitAt ':' cs
  let last := parts.getLastD []
  if parts.length < 3 then none
  else if last.contains '.' then
    if isVersionFour last then some (parts.dropLast ++ [['0'], ['0']]) else none
  else some parts

/-- Whether the parts make an address: eight numbers, or fewer with one gap. -/
def fitHextets (parts : List (List Char)) : Bool :=
  let inner := parts.drop 1 |>.dropLast
  let gaps := inner.countP List.isEmpty
  if parts.length > 9 || gaps > 1 then false
  else if gaps = 0 then parts.length == 8 && parts.all isHextet
  else
    let gap := 1 + inner.findIdx List.isEmpty
    let before := parts.take gap
    let after := parts.drop (gap + 1)
    let before := if before == [[]] then [] else before
    let after := if after == [[]] then [] else after
    before.length + after.length < 8 && before.all isHextet && after.all isHextet

/-- Whether a text is an address of version six, with a zone after a percent sign or without. -/
def isVersionSix (cs : List Char) : Bool :=
  let address := cs.takeWhile (· != '%')
  let zoneFits := match cs.drop address.length with
    | [] => true
    | _ :: zone => !zone.isEmpty && !zone.contains '%'
  zoneFits && !cs.contains '/' && (hextets? address).any fitHextets

/-- Whether a text is an address of a version that is still to come. -/
def isLaterVersion (cs : List Char) : Bool :=
  let version := cs.drop 1 |>.takeWhile fun c => (Text.hexValue? c).isSome
  cs.head? == some 'v' && !version.isEmpty &&
    match cs.drop (1 + version.length) with
    | '.' :: rest => !rest.isEmpty && !rest.contains '\n'
    | _ => false

/-- The characters behind the last occurrence of a mark, or all of them if there is none. -/
def afterLast (mark : Char) (cs : List Char) : List Char :=
  (cs.reverse.takeWhile (· != mark)).reverse

/-- Refuses what stands for an address between brackets and is none of version six or later. -/
def checkAddress (address : List Char) : Except AddressFault Unit :=
  if address.head? == some 'v' then
    if isLaterVersion address then .ok () else .error .laterVersion
  else if isVersionFour address then .error .versionFour
  else if isVersionSix address then .ok ()
  else .error (.unknown (Text.quoted (String.ofList address)))

/-- Refuses a host with brackets unless they hold an address: nothing may stand before them and only
a port behind them. What stands before an at sign names a user, brackets or not. -/
def checkBrackets (host : List Char) : Except AddressFault Unit :=
  let place := afterLast '@' host
  let before := place.takeWhile (· != '[')
  match place.drop before.length with
  | [] => checkAddress (place.takeWhile (· != ':'))
  | _ :: inside =>
    let address := inside.takeWhile (· != ']')
    let port := inside.drop (address.length + 1)
    if !before.isEmpty then .error .brackets
    else if port.head?.any (· != ':') then .error .brackets
    else checkAddress address

/-- The marks that separate the parts of an address. -/
def separators : List Char := ['/', '?', '#', '@', ':']

/-- Whether a host holds characters that stand for one of the marks which separate the parts of an
address. -/
def hasLookalike (host : List Char) : Bool :=
  let others := host.filter fun c => c != '@' && c != ':' && c != '#' && c != '?'
  let normal := Text.normalForm others
  normal != others && separators.any normal.contains

/-- Refuses a host whose brackets do not match or hold no address, and one with a character that
only looks like a separator. -/
def checkHost (host : List Char) : Except AddressFault Unit := do
  let opened := host.contains '['
  let closed := host.contains ']'
  if opened != closed then throw .brackets
  if opened then checkBrackets host
  if hasLookalike host then throw (.lookalike (String.ofList host))

/-- Whether a character may stand in the scheme of an address. -/
def isSchemeChar (c : Char) : Bool := c.isAlphanum || c == '+' || c == '-' || c == '.'

/-- The scheme of an address, in lower case, and what follows its colon. -/
def splitScheme (address : List Char) : List Char × List Char :=
  let scheme := address.takeWhile (· != ':')
  match address.drop scheme.length with
  | _ :: rest =>
    if scheme.head?.any Char.isAlpha && scheme.all isSchemeChar then (scheme.map Char.toLower, rest)
    else ([], address)
  | [] => ([], address)

/-- The host that stands behind the scheme, with port and user if there are any. -/
def hostPart : List Char → List Char
  | '/' :: '/' :: rest => rest.takeWhile fun c => c != '/' && c != '?' && c != '#'
  | _ => []

/-- Characters that an address is read without. -/
def isIgnoredInAddress (c : Char) : Bool := c == '\t' || c == '\n' || c == '\r'

/-- The scheme and the host of an address; both may be empty. -/
def schemeAndHost (address : String) : Except Fault (List Char × List Char) :=
  let cleaned := (address.toList.dropWhile fun c => c.toNat ≤ 0x20).filter (!isIgnoredInAddress ·)
  let (scheme, rest) := splitScheme cleaned
  let host := hostPart rest
  match checkHost host with
  | .ok () => .ok (scheme, host)
  | .error cause => .error (.address cause)

example : isVersionSix "::1".toList ∧ isVersionSix "1:2:3:4:5:6:1.2.3.4".toList
    ∧ ¬ isVersionSix "abc".toList ∧ ¬ isVersionSix "1::2::3".toList
    ∧ isVersionSix "::".toList ∧ ¬ isVersionSix ":1::".toList := by decide

end IssueBoard.Query
