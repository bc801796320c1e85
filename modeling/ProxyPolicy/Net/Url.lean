import ProxyPolicy.Net.Address
import ProxyPolicy.Net.Idna
import ProxyPolicy.Text.Percent

/-!
# Absolute URLs

Which texts are absolute URLs (the URL standard, without a base URL). Only a scheme, an authority
and a host can make a text invalid: any path, query or fragment is accepted. `isUrl` decides it.
-/

namespace ProxyPolicy.Net.Url

open ProxyPolicy.Text

/-- The kinds of scheme that the standard tells apart. -/
inductive SchemeKind where
  /-- The scheme of local files, whose host may be missing. -/
  | file
  /-- A scheme with a required host, which is a domain name or an address. -/
  | network
  /-- Any other scheme. -/
  | other
  deriving DecidableEq, Repr

/-- The schemes with a required host. -/
def networkSchemes : List String := ["http", "https", "ws", "wss", "ftp"]

/-- The kind of a scheme given in lower case. -/
def SchemeKind.of (scheme : List Char) : SchemeKind :=
  if scheme == "file".toList then .file
  else if (networkSchemes.map String.toList).contains scheme then .network
  else .other

/-- Whether a character may stand in a scheme after its first letter. -/
def isSchemeChar (c : Char) : Bool := c.isAlphanum || c == '+' || c == '-' || c == '.'

/-- The scheme of a text, in lower case, and what follows its colon. -/
def splitScheme? (cs : List Char) : Option (List Char × List Char) :=
  match cs with
  | c :: _ =>
    if c.isAlpha then
      match cs.dropWhile isSchemeChar with
      | ':' :: rest => some ((cs.takeWhile isSchemeChar).map Char.toLower, rest)
      | _ => none
    else none
  | [] => none

/-- A text as the standard reads it: without the controls and spaces around it and without tabs and
line breaks anywhere. -/
def trim (cs : List Char) : List Char :=
  let outer (c : Char) : Bool := c.toNat ≤ 0x20
  (((cs.dropWhile outer).reverse.dropWhile outer).reverse).filter fun c =>
    c != '\t' && c != '\n' && c != '\r'

/-! ## Hosts -/

/-- The number that a part of an IPv4 host writes: hexadecimal after `0x`, octal after another
leading zero, and decimal otherwise. -/
def hostNumber? (cs : List Char) : Option Nat :=
  match cs with
  | [] => none
  | '0' :: 'x' :: digits | '0' :: 'X' :: digits =>
    if digits.all isHexDigit then some (ofHex digits) else none
  | '0' :: d :: digits =>
    if (d :: digits).all (fun c => '0' ≤ c ∧ c ≤ '7') then
      some ((d :: digits).foldl (fun n c => 8 * n + (c.toNat - 48)) 0)
    else none
  | _ => if cs.all Char.isDigit then some (ofDecimal cs) else none

/-- Whether numbers write an IPv4 address: all but the last are octets, and the last fills the
octets that remain. -/
def isAddressValue (numbers : List Nat) : Bool :=
  match numbers.reverse with
  | [] => false
  | last :: firsts =>
    firsts.length ≤ 3 && last < Nat.pow 256 (4 - firsts.length) && firsts.all (· ≤ 255)

/-- The labels of a name without the empty label after a final dot. -/
def dropRoot (ls : List Label) : List Label :=
  if 1 < ls.length ∧ ls.getLast? = some [] then ls.dropLast else ls

/-- Whether a domain name must be an IPv4 address: its last label is a number. -/
def endsInNumber (ls : List Label) : Bool :=
  match (dropRoot ls).getLast? with
  | some last => (last != [] && last.all Char.isDigit) || (hostNumber? last).isSome
  | none => false

/-- Whether the labels of a prepared domain name make a host. -/
def isDomainHost (ls : List Label) : Bool :=
  ls != [[]] &&
    (!endsInNumber ls ||
      match (dropRoot ls).mapM hostNumber? with
      | some numbers => isAddressValue numbers
      | none => false)

/-- Whether a text is an IPv6 literal in brackets; its first character is known to be a bracket. -/
def isBracketedAddress (cs : List Char) : Bool :=
  cs.getLast? == some ']' && isIPv6 (cs.drop 1).dropLast

/-- Whether a text is a host of a URL with a domain name or an address. -/
def isNetworkHost (cs : List Char) : Bool :=
  if cs.head? = some '[' then isBracketedAddress cs
  else
    match Idna.toLabels? (Utf8.decodeLossy (Percent.octets cs)) with
    | some ls => isDomainHost ls
    | none => false

/-- Whether a text is a host of a URL whose scheme gives hosts no meaning of their own. -/
def isPlainHost (cs : List Char) : Bool :=
  if cs.head? = some '[' then isBracketedAddress cs
  else !cs.any "\x00\t\n\r #/:<>?@[\\]^|".toList.contains

/-! ## Authorities -/

/-- Whether a character ends an authority. -/
def endsAuthority (kind : SchemeKind) (c : Char) : Bool :=
  c == '/' || c == '?' || c == '#' || (c == '\\' && kind != .other)

/-- The part of an authority before its port: it ends at the first colon outside brackets. -/
def hostText (inBrackets : Bool) : List Char → List Char
  | [] => []
  | c :: cs =>
    if c == ':' && !inBrackets then []
    else c :: hostText (c == '[' || (c != ']' && inBrackets)) cs

/-- Whether what follows a host is nothing or a port. The digits of a port may be missing. -/
def isPortText : List Char → Bool
  | ':' :: port =>
    ofDecimal (port.takeWhile Char.isDigit) ≤ 65535 &&
      match port.dropWhile Char.isDigit with
      | [] => true
      | c :: _ => c == '\\'
  | _ => true

/-- The user information of an authority, if it has any, and what follows it. The last `@` ends
it. -/
def splitUser (authority : List Char) : Option (List Char) × List Char :=
  if authority.contains '@' then
    let host := (authority.reverse.takeWhile (· != '@')).reverse
    (some (authority.take (authority.length - host.length - 1)), host)
  else (none, authority)

/-- Whether user information gives a user or a password. -/
def hasCredentials (user : Option (List Char)) : Bool :=
  match user with
  | some u => u != [] && u != [':']
  | none => false

/-- Whether an authority, followed by the rest of the text, is one of a URL of this kind. -/
def isAuthority (kind : SchemeKind) (authority rest : List Char) : Bool :=
  let (user, hostPort) := splitUser authority
  let host := hostText false hostPort
  let port := hostPort.drop host.length
  if user = some [] ∧ hostPort = [] ∧ rest ≠ [] then false
  else if host = [] then
    kind == .other && port == [] && !hasCredentials user
  else
    (if kind == .other then isPlainHost host else isNetworkHost host) && isPortText port

/-- Whether two characters and a text are a drive letter, which stands in the place of a host. -/
def isDriveLetter (cs : List Char) : Bool :=
  match cs with
  | [c, d] => c.isAlpha && (d == ':' || d == '|')
  | _ => false

/-- Whether a slash of either kind. -/
def isSlash (c : Char) : Bool := c == '/' || c == '\\'

/-- Whether what follows the scheme of a URL of this kind is acceptable. -/
def isHierarchy (kind : SchemeKind) (rest : List Char) : Bool :=
  match kind with
  | .network =>
    let text := rest.dropWhile isSlash
    isAuthority kind (text.takeWhile (!endsAuthority kind ·))
      (text.dropWhile (!endsAuthority kind ·))
  | .file =>
    match rest with
    | a :: b :: text =>
      if isSlash a && isSlash b then
        let host := text.takeWhile (!endsAuthority kind ·)
        host == [] || isDriveLetter host || isNetworkHost host
      else true
    | _ => true
  | .other =>
    match rest with
    | '/' :: '/' :: text =>
      isAuthority kind (text.takeWhile (!endsAuthority kind ·))
        (text.dropWhile (!endsAuthority kind ·))
    | _ => true

/-- Whether a text is an absolute URL. -/
def isUrl (cs : List Char) : Bool :=
  match splitScheme? (trim cs) with
  | some (scheme, rest) => isHierarchy (SchemeKind.of scheme) rest
  | none => false

end ProxyPolicy.Net.Url
