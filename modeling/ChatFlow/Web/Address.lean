/-
This file holds web addresses, as far as it takes to tell whether a text is one and how it wants
to be reached.

An address begins with the name of a scheme. Behind it the schemes of the web always name a host,
whatever number of strokes there is before it; files may have one; all other schemes have one
behind two strokes only. What stands behind the host and its port is not looked at, since it
cannot be wrong. Tabs and line ends do not count.
-/

import ChatFlow.Web.Domain
import ChatFlow.Web.Numeric

namespace ChatFlow.Web

/-- Why a text is no address. -/
inductive AddressError where
  | relative
  | emptyHost
  | invalidPort
  | invalidFourBytes
  | invalidSixteenBytes
  | invalidDomain
  | invalidHostCharacter
deriving DecidableEq, Repr

/-- The reason in words. -/
def AddressError.message : AddressError → String
  | relative => "relative URL without a base"
  | emptyHost => "empty host"
  | invalidPort => "invalid port number"
  | invalidFourBytes => "invalid IPv4 address"
  | invalidSixteenBytes => "invalid IPv6 address"
  | invalidDomain => "invalid international domain name"
  | invalidHostCharacter => "invalid domain character"

/-- What an address looks like behind its scheme. -/
inductive SchemeKind where
  | web
  | file
  | other
deriving DecidableEq, Repr

namespace SchemeKind

/-- The kind of a scheme. -/
def ofName (scheme : String) : SchemeKind :=
  if ["http", "https", "ws", "wss", "ftp"].contains scheme then web
  else if scheme = "file" then file
  else other

/-- A character that ends the part of an address that names the host. -/
def endsHost (kind : SchemeKind) (letter : Char) : Bool :=
  letter = '/' || letter = '?' || letter = '#' || (letter = '\\' && kind ≠ other)

end SchemeKind

/-- A stroke in either direction. -/
def isStroke (letter : Char) : Bool :=
  letter = '/' || letter = '\\'

/-- The text of an address without what does not count in it. -/
def addressText (text : String) : List Char :=
  let ends (letter : Char) : Bool := letter ≤ ' '
  let trimmed := ((text.toList.dropWhile ends).reverse.dropWhile ends).reverse
  trimmed.filter fun letter => letter ≠ '\t' && letter ≠ '\n' && letter ≠ '\r'

/-- A character of the name of a scheme. -/
def isSchemeLetter (letter : Char) : Bool :=
  letter.isAlphanum || letter = '+' || letter = '-' || letter = '.'

/-- The scheme that a text begins with, in lower case, and what stands behind its colon. -/
def cutScheme (text : List Char) : Option (String × List Char) :=
  match text.takeWhile isSchemeLetter, text.dropWhile isSchemeLetter with
  | first :: rest, ':' :: behind =>
    if first.isAlpha then some (String.ofList ((first :: rest).map Char.toLower), behind) else none
  | _, _ => none

/-! ### Hosts -/

/-- A host between square brackets. -/
def checkBracketed (text : List Char) : Except AddressError Unit :=
  if text.getLast? = some ']' && isSixteenBytes text.dropLast then .ok ()
  else .error .invalidSixteenBytes

/-- The host of an address of the web or of a file. -/
def checkNamedHost (host : List Char) : Except AddressError Unit :=
  match host with
  | '[' :: rest => checkBracketed rest
  | _ =>
    match domain? host with
    | none => .error .invalidDomain
    | some name =>
      if name.isEmpty then .error .emptyHost
      else if endsInNumber name && !isFourBytes name then .error .invalidFourBytes
      else .ok ()

/-- A character that no host may hold, of whatever scheme. -/
def isHostBreaker (letter : Char) : Bool :=
  "\x00\t\n\r #/:<>?@[\\]^|".toList.contains letter

/-- The host of an address of a scheme, which is not empty or need not be there. -/
def checkHost (kind : SchemeKind) (host : List Char) : Except AddressError Unit :=
  match kind, host with
  | .other, '[' :: rest => checkBracketed rest
  | .other, _ => if host.any isHostBreaker then .error .invalidHostCharacter else .ok ()
  | _, _ => checkNamedHost host

/-! ### What stands between the strokes and the path -/

/-- The part that names the user, if there is one, and what stands behind it. -/
def cutUser (part : List Char) : Option (List Char) × List Char :=
  let behind := (part.reverse.takeWhile (· ≠ '@')).reverse
  if behind.length = part.length then (none, part)
  else (some (part.take (part.length - behind.length - 1)), behind)

/-- What stands before the colon in front of the port, where colons between brackets do not count,
and what stands behind it. -/
def cutPort : (bracketed : Bool) → List Char → List Char × Option (List Char)
  | _, [] => ([], none)
  | bracketed, letter :: rest =>
    if letter = ':' && !bracketed then ([], some rest)
    else
      let (host, port) := cutPort (letter = '[' || (bracketed && letter ≠ ']')) rest
      (letter :: host, port)

/-- The number of a port, up to the first character that may stand behind it. -/
def checkPort : (value : Nat) → List Char → Except AddressError Unit
  | _, [] => .ok ()
  | value, letter :: rest =>
    if letter.isDigit then
      let value := Decimal.digitsValue value [letter]
      if 65535 < value then .error .invalidPort else checkPort value rest
    else if isStroke letter then .ok ()
    else .error .invalidPort

/-- The part of an address that says where it leads, given what stands behind the strokes. -/
def checkAuthority (kind : SchemeKind) (text : List Char) : Except AddressError Unit := do
  let part := text.takeWhile fun letter => !kind.endsHost letter
  let (user, place) := cutUser part
  if user = some [] && place.isEmpty && part.length < text.length then .error .emptyHost
  let (host, port) := cutPort false place
  if kind = .web && host.isEmpty then .error .emptyHost
  checkHost kind host
  if host.isEmpty && (port.isSome || user.any fun user => !user.isEmpty && user ≠ [':']) then
    .error .emptyHost
  match port with
  | some port => checkPort 0 port
  | none => .ok ()

/-- The letter of a drive, as it stands in the place of a host. -/
def isDrive : List Char → Bool
  | [letter, mark] => letter.isAlpha && (mark = ':' || mark = '|')
  | _ => false

/-- What stands behind the scheme of a file. It has a host behind two strokes, unless there is a
drive or nothing in its place. -/
def checkFile : List Char → Except AddressError Unit
  | first :: second :: rest =>
    let host := rest.takeWhile fun letter => !SchemeKind.endsHost .file letter
    if isStroke first && isStroke second && !host.isEmpty && !isDrive host then
      checkNamedHost host
    else .ok ()
  | _ => .ok ()

/-- What stands behind the scheme of an address. -/
def checkBehind (kind : SchemeKind) (behind : List Char) : Except AddressError Unit :=
  match kind, behind with
  | .web, _ => checkAuthority .web (behind.dropWhile isStroke)
  | .file, _ => checkFile behind
  | .other, '/' :: '/' :: rest => checkAuthority .other rest
  | .other, _ => .ok ()

/-- The scheme of an address. -/
def scheme (text : String) : Except AddressError String := do
  match cutScheme (addressText text) with
  | none => .error .relative
  | some (scheme, behind) =>
    checkBehind (.ofName scheme) behind
    return scheme

end ChatFlow.Web
