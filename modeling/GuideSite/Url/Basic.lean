import GuideSite.Text.Quoted
import GuideSite.Url.Host

/-!
# URLs

A URL is split into its six parts by the first delimiters that end them, without regard to what the parts mean.

* `Url.parse`: the parts of a text.
* `Url.chars`: the text of the parts.
-/

namespace GuideSite

/-- The parts of a URL; a part that is not there is empty. -/
structure Url where
  scheme : List Char
  authority : List Char
  path : List Char
  params : List Char
  query : List Char
  fragment : List Char
  deriving DecidableEq, Repr

namespace Url

/-! ## Schemes -/

/-- The schemes that relative references are resolved for; none counts as one. -/
def relativeSchemes : List String :=
  ["", "ftp", "http", "gopher", "nntp", "imap", "wais", "file", "https", "shttp", "mms", "prospero", "rtsp",
   "rtspu", "sftp", "svn", "svn+ssh", "ws", "wss"]

/-- The schemes with an authority. -/
def authoritySchemes : List String :=
  ["", "ftp", "http", "gopher", "nntp", "telnet", "imap", "wais", "file", "mms", "https", "shttp", "snews",
   "prospero", "rtsp", "rtspu", "rsync", "svn", "svn+ssh", "sftp", "nfs", "git", "git+ssh", "ws", "wss"]

/-- The schemes whose last segment may have parameters. -/
def paramSchemes : List String :=
  ["", "ftp", "hdl", "prospero", "http", "imap", "https", "shttp", "rtsp", "rtspu", "sip", "sips", "mms", "sftp",
   "tel"]

/-- The scheme is one of a list. -/
def schemeIn (schemes : List String) (scheme : List Char) : Bool :=
  schemes.any fun s => s.toList == scheme

/-- A character of a scheme. -/
def isSchemeChar (c : Char) : Bool :=
  c.isAlphanum || c == '+' || c == '-' || c == '.'

/-! ## Reading -/

/-- The text before the first `d`, and the text after it if there is one. -/
def cutAt (d : Char) (cs : List Char) : List Char × Option (List Char) :=
  match cs.dropWhile (· ≠ d) with
  | [] => (cs, none)
  | _ :: rest => (cs.takeWhile (· ≠ d), some rest)

/-- The text without controls and spaces before it, and without tabs and line breaks anywhere. -/
def cleaned (cs : List Char) : List Char :=
  (cs.dropWhile fun c => c.toNat ≤ 0x20).filter fun c => c ≠ '\t' && c ≠ '\r' && c ≠ '\n'

/-- The scheme in lower case and the text after its colon; a scheme starts with a letter. -/
def cutScheme? (cs : List Char) : Option (List Char × List Char) :=
  match cutAt ':' cs with
  | (c :: before, some rest) =>
    if c.isAlpha && before.all isSchemeChar then some ((c :: before).map Char.toLower, rest) else none
  | _ => none

/-- A character that ends the authority. -/
def endsAuthority (c : Char) : Bool := c == '/' || c == '?' || c == '#'

/-- The authority that follows two slashes, and the text after it. -/
def cutAuthority : List Char → List Char × List Char
  | '/' :: '/' :: rest => (rest.takeWhile (!endsAuthority ·), rest.dropWhile (!endsAuthority ·))
  | cs => ([], cs)

/-- The host of an authority that has brackets, which stand right after the user, and a port alone may follow them. If
only the user has brackets, the host is what comes before the port. -/
def bracketedHost (authority : List Char) : Except HostFault (List Char) :=
  let address := (authority.reverse.takeWhile (· ≠ '@')).reverse
  match cutAt '[' address with
  | (before, some inside) =>
    let (host, port) := cutAt ']' inside
    if before ≠ [] ∨ port.any (·.head?.any (· ≠ ':')) then .error .malformed else .ok host
  | (_, none) => .ok (cutAt ':' address).1

/-- The host is an address that may stand in brackets. -/
def checkHost (host : List Char) : Except HostFault Unit :=
  if host.head? = some 'v' then
    if isFutureAddress host then .ok () else .error .futureAddress
  else if isVersionFour host then .error .versionFour
  else if isVersionSix host then .ok ()
  else .error (.noAddress (Text.quoted (String.ofList host)))

/-- The authority is accepted. -/
def checkAuthority (authority : List Char) : Except HostFault Unit := do
  if authority.contains '[' != authority.contains ']' then throw .malformed
  if authority.contains '[' then checkHost (← bracketedHost authority)
  if authority.any fun c => hiddenDelimiters.contains c.toNat then throw (.delimiters (String.ofList authority))

/-- The path and the parameters of its last segment. -/
def cutParams (cs : List Char) : List Char × List Char :=
  let last := (cs.reverse.takeWhile (· ≠ '/')).reverse
  match cutAt ';' last with
  | (before, some params) => (cs.take (cs.length - last.length) ++ before, params)
  | (_, none) => (cs, [])

/-- The parts of a text; without a scheme of its own it has the one given. -/
def parse (scheme : List Char) (text : List Char) : Except HostFault Url := do
  let (scheme, rest) := (cutScheme? (cleaned text)).getD (scheme, cleaned text)
  let (authority, rest) := cutAuthority rest
  checkAuthority authority
  let (rest, fragment) := cutAt '#' rest
  let (path, query) := cutAt '?' rest
  let (path, params) := if schemeIn paramSchemes scheme then cutParams path else (path, [])
  return { scheme, authority, path, params, query := query.getD [], fragment := fragment.getD [] }

/-! ## Writing -/

/-- A part after its delimiter, unless it is empty. -/
def part (delimiter : Char) (cs : List Char) : List Char :=
  if cs = [] then [] else delimiter :: cs

/-- The path after the authority. Schemes with an authority have its slashes even where it is empty. -/
def authorityAndPath (u : Url) : List Char :=
  let path := u.path ++ part ';' u.params
  if u.authority ≠ [] ∨ (u.scheme ≠ [] ∧ schemeIn authoritySchemes u.scheme) ∨ path.take 2 = ['/', '/'] then
    let path := if path ≠ [] ∧ path.head? ≠ some '/' then '/' :: path else path
    '/' :: '/' :: (u.authority ++ path)
  else path

/-- The parts as text. -/
def chars (u : Url) : List Char :=
  (if u.scheme = [] then [] else u.scheme ++ [':']) ++ u.authorityAndPath ++ part '?' u.query ++ part '#' u.fragment

end Url

end GuideSite
