import HttpAuth.Url.DomainName
import HttpAuth.Url.Ipv4
import HttpAuth.Url.Ipv6
import HttpAuth.Url.Percent

namespace HttpAuth.Host

/-- An address in brackets. -/
def bracketed? (cs : List Char) : Option String :=
  if cs.getLast? = some ']' then
    (Ipv6.parse? cs.dropLast).map fun groups => "[" ++ Ipv6.text groups ++ "]"
  else none

/-- The host of a special scheme is a domain name or an address. -/
def parse? (cs : List Char) : Option String :=
  match cs with
  | '[' :: rest => bracketed? rest
  | _ => do
    let decoded ← Utf8.decodeChars? (Percent.decode (Utf8.encodeChars cs))
    let name ← DomainName.toAscii? decoded
    if name.isEmpty then none
    else if Ipv4.looksLikeAddress name then (Ipv4.parse? name).map Ipv4.text
    else some (String.ofList name)

def isForbidden (c : Char) : Bool :=
  c ∈ ['\x00', '\t', '\n', '\r', ' ', '#', '/', ':', '<', '>', '?', '@', '[', '\\', ']', '^', '|']

/-- The host of any other scheme is kept as it is written. -/
def parseOpaque? (cs : List Char) : Option String :=
  match cs with
  | '[' :: rest => bracketed? rest
  | _ => if cs.any isForbidden then none else some (Percent.encode Percent.isControl cs)

end HttpAuth.Host
