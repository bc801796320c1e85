/-!
# Host and port

A host with a port is written `host:port`, or `[host]:port` when the host itself holds colons.
`splitHostPort?` accepts these two forms only; a bare IPv6 literal is not one of them.
-/

namespace ProxyPolicy.Net

/-- Whether a character separates a host from a port or encloses a host. -/
def isHostDelimiter (c : Char) : Bool := c == ':' || c == '[' || c == ']'

/-- The host and the port of a text of the form `host:port` or `[host]:port`. Neither part holds a
colon or a bracket, except that a bracketed host may hold any character but the closing bracket. -/
def splitHostPort? (cs : List Char) : Option (List Char × List Char) :=
  match cs with
  | '[' :: rest =>
    match rest.dropWhile (· != ']') with
    | _ :: ':' :: port =>
      if port.any isHostDelimiter then none else some (rest.takeWhile (· != ']'), port)
    | _ => none
  | _ =>
    match cs.dropWhile (· != ':') with
    | _ :: port =>
      let host := cs.takeWhile (· != ':')
      if host.any isHostDelimiter || port.any isHostDelimiter then none else some (host, port)
    | [] => none

end ProxyPolicy.Net
