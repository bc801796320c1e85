import ProxyPolicy.Net.HostPort
import ProxyPolicy.Net.Url
import ProxyPolicy.Text.Lowercase
import ProxyPolicy.Text.Percent

/-!
# Request targets

What a request was for. A target is an absolute URL or, for a tunnel, a host with an optional port.
Both forms give the host in lower case and without its port; a URL also gives its path, with escapes
decoded and without query and fragment. The path is that of the logged text: dot segments stay.
-/

namespace ProxyPolicy.AccessLog

open ProxyPolicy.Net ProxyPolicy.Text

/-- The host and the path of a request. -/
structure Target where
  /-- The host in lower case, without a port. -/
  host : List Char
  /-- The decoded path; empty for a tunnel. -/
  path : List Char
  deriving DecidableEq, Repr

/-- The host of an authority: what follows the last `@`, without its port and brackets. -/
def hostOfAuthority (authority : List Char) : List Char :=
  let hostPort := (authority.reverse.takeWhile (· != '@')).reverse
  match splitHostPort? hostPort with
  | some (host, _) => host
  | none => ((hostPort.dropWhile (· == '[')).reverse.dropWhile (· == ']')).reverse

/-- The target that a URL names, read off its text. A URL without an authority has no host, and one
whose scheme is not followed by a slash has no path either. -/
def Target.ofUrl (text : List Char) : Target :=
  let rest := ((text.dropWhile (· != ':')).drop 1).takeWhile fun c => c != '?' && c != '#'
  match rest with
  | '/' :: '/' :: hierarchy =>
    ⟨lowercase (hostOfAuthority (hierarchy.takeWhile (· != '/'))),
      Percent.decode (hierarchy.dropWhile (· != '/'))⟩
  | '/' :: _ => ⟨[], Percent.decode rest⟩
  | _ => ⟨[], []⟩

/-- The target of a tunnel. -/
def Target.ofHost (text : List Char) : Target :=
  match splitHostPort? text with
  | some (host, _) => ⟨lowercase host, []⟩
  | none => ⟨lowercase text, []⟩

/-- The target that a logged text names: that of a URL if the text is one and has a slash, and that
of a tunnel otherwise. -/
def Target.ofText (text : List Char) : Target :=
  if text.contains '/' && Url.isUrl text then Target.ofUrl text else Target.ofHost text

end ProxyPolicy.AccessLog
