/-!
# Hosts in brackets

The host of a URL may stand in brackets, and is then an address of version six, or of a later version behind a `v`. Some
characters of a host would be read as delimiters once the host is normalised, and are refused.
-/

namespace GuideSite

/-- Why the host of a URL is refused. -/
inductive HostFault
  /-- A bracket has no partner, or stands in a wrong place. -/
  | malformed
  | futureAddress
  | versionFour
  /-- No address; the text is kept in quoted form. -/
  | noAddress (shown : String)
  /-- Characters that normalise to delimiters. -/
  | delimiters (authority : String)
  deriving DecidableEq, Repr

/-- What a host fault says. -/
def HostFault.message : HostFault → String
  | .malformed => "Invalid IPv6 URL"
  | .futureAddress => "IPvFuture address is invalid"
  | .versionFour => "An IPv4 address cannot be in brackets"
  | .noAddress shown => shown ++ " does not appear to be an IPv4 or IPv6 address"
  | .delimiters authority => s!"netloc '{authority}' contains invalid characters under NFKC normalization"

namespace Url

/-- A hexadecimal digit. -/
def isHexDigit (c : Char) : Bool :=
  c.isDigit || ('a' ≤ c && c ≤ 'f') || ('A' ≤ c && c ≤ 'F')

/-! ## Addresses -/

/-- A number below 256 in one to three digits, without a zero before other digits. -/
def isOctet (cs : List Char) : Bool :=
  cs ≠ [] && cs.length ≤ 3 && cs.all (·.isDigit) && (cs.length == 1 || cs.head? ≠ some '0') &&
    cs.foldl (fun n c => 10 * n + (c.toNat - '0'.toNat)) 0 < 256

/-- Four octets with points between them. -/
def isVersionFour (cs : List Char) : Bool :=
  let parts := cs.splitOn '.'
  parts.length == 4 && parts.all isOctet

/-- One to four hexadecimal digits. -/
def isGroup (cs : List Char) : Bool :=
  cs ≠ [] && cs.length ≤ 4 && cs.all isHexDigit

/-- The groups between the colons; an address of version four at the end counts as two. -/
def groups (cs : List Char) : Option (List (List Char)) :=
  let parts := cs.splitOn ':'
  match parts.reverse with
  | last :: before =>
    if !last.contains '.' then some parts
    else if isVersionFour last then some (before.reverse ++ [['0'], ['0']]) else none
  | [] => none

/-- The empty group is allowed: it is one of those around the only gap. -/
def gapAllowed (parts : List (List Char)) : Bool :=
  let inner := parts.tail.dropLast
  match inner.idxOf? [] with
  | none => parts.length == 8 && parts.all isGroup
  | some i =>
    let before := parts.take (i + 1)
    let after := parts.drop (i + 2)
    let before' := if before.head? = some [] then before.tail else before
    let after' := if after.getLast? = some [] then after.dropLast else after
    let leading := before.head? ≠ some [] || before' == []
    let trailing := after.getLast? ≠ some [] || after' == []
    leading && trailing && before'.length + after'.length < 8 && (before' ++ after').all isGroup

/-- An address of version six, perhaps with a zone after a percent sign. -/
def isVersionSix (cs : List Char) : Bool :=
  let address := cs.takeWhile (· ≠ '%')
  let zone := cs.dropWhile (· ≠ '%')
  (zone = [] || (2 ≤ zone.length && !zone.tail.contains '%')) && !cs.contains '/' &&
    match groups address with
    | some parts => 3 ≤ parts.length && parts.length ≤ 9 && gapAllowed parts
    | none => false

/-- An address of a later version: a `v`, hexadecimal digits, a point, and more on the same line. -/
def isFutureAddress (cs : List Char) : Bool :=
  let digits := cs.tail.takeWhile isHexDigit
  match cs.tail.dropWhile isHexDigit with
  | '.' :: rest => digits ≠ [] && rest ≠ [] && !rest.contains '\n'
  | _ => false

/-! ## Authorities -/

/-- The characters that normalise to a text with a delimiter. -/
def hiddenDelimiters : List Nat := [
  0x2047, 0x2048, 0x2049, 0x2100, 0x2101, 0x2105, 0x2106, 0x2A74, 0xFE13, 0xFE16, 0xFE55, 0xFE56, 0xFE5F, 0xFE6B,
  0xFF03, 0xFF0F, 0xFF1A, 0xFF1F, 0xFF20]

end Url

end GuideSite
