import LogDelivery.Text.Basic

/-!
# Addresses of proxies

The address of a proxy names a host. Its scheme may be left out and counts as `http` then. Only the form of
an address is checked here: the host's characters, a numeric host's numbers, and the port.
-/
namespace LogDelivery.ProxyAddress

inductive Verdict where
  | usable
  | bare
  | malformed
  deriving DecidableEq, Repr

def scheme? (cs : List Char) : Option (List Char × List Char) :=
  let name := cs.takeWhile fun c => c.isAlphanum || c = '+' || c = '-' || c = '.'
  match name, cs.drop name.length with
  | first :: _, ':' :: rest => if first.isAlpha then some (name.map Char.toLower, rest) else none
  | _, _ => none

/-- Schemes whose addresses always have a host. -/
def isWebScheme (name : List Char) : Bool :=
  ["http", "https", "ws", "wss", "ftp"].any fun s => s.toList = name

def isForbidden (c : Char) : Bool := c.toNat ≤ 0x20 || "#/:<>?@[\\]^|%".toList.contains c || c.toNat = 0x7F

/-- The labels of a host; a dot at its end does not count. -/
def labels (host : List Char) : List String :=
  let parts := (String.ofList host).splitOn "."
  if parts.length ≥ 2 && parts.getLast? = some "" then parts.dropLast else parts

def number? (label : String) : Option Nat :=
  let digit := fun (base : Nat) (c : Char) =>
    let d := if c.isDigit then c.toNat - 48 else if c.toLower.isAlpha then c.toLower.toNat - 87 else 36
    if d < base then some d else none
  let value := fun (base : Nat) (cs : List Char) =>
    cs.foldl (fun n c => do pure ((← n) * base + (← digit base c))) (some 0)
  match label.toList with
  | [] => none
  | '0' :: x :: rest => if x = 'x' || x = 'X' then value 16 rest else value 8 (x :: rest)
  | cs => value 10 cs

/-- A host whose last label is numeric has at most four numbers that fit into an address. -/
def isNumericHost (parts : List String) : Bool :=
  match parts.mapM number? with
  | none => false
  | some ns =>
    ns.length ≤ 4 && ns.dropLast.all (· ≤ 255) && ns.getLastD 0 < 256 ^ (5 - ns.length)

def isHost (host : List Char) : Bool :=
  match host with
  | [] => false
  | '[' :: rest =>
    let inside := rest.dropLast
    rest.getLast? = some ']' && !inside.isEmpty && inside.contains ':' &&
      inside.all fun c => c = ':' || c = '.' || c.isDigit || ('a' ≤ c.toLower && c.toLower ≤ 'f')
  | host =>
    let parts := labels host
    let numeric := parts.getLast?.any fun l => (number? l).isSome || (!l.isEmpty && l.toList.all Char.isDigit)
    !host.any isForbidden && (!numeric || isNumericHost parts)

def isPort (port : List Char) : Bool :=
  port.isEmpty || (Text.digits? port).any (· ≤ 65535)

def isAuthority (cs : List Char) : Bool :=
  let place := (cs.reverse.takeWhile (· ≠ '@')).reverse
  let tail := (place.reverse.takeWhile fun c => c ≠ ':' && c ≠ ']').reverse
  let host := place.take (place.length - tail.length - 1)
  if tail.length < place.length && place[place.length - tail.length - 1]? = some ':' then
    isHost host && isPort tail
  else isHost place

def verdict (cs : List Char) : Verdict :=
  match scheme? cs with
  | none => .bare
  | some (name, rest) =>
    let ends := fun c => c = '/' || c = '?' || c = '#' || (c = '\\' && isWebScheme name)
    let behind := if isWebScheme name then rest.dropWhile (fun c => c = '/' || c = '\\')
      else match rest with
        | '/' :: '/' :: more => more
        | _ => []
    let authority := behind.takeWhile fun c => !ends c
    if isWebScheme name then if isAuthority authority then .usable else .malformed
    else if authority.isEmpty then .bare
    else if isAuthority authority then .usable else .malformed

def cleaned (s : String) : List Char :=
  let isEdge := fun (c : Char) => decide (c.toNat ≤ 0x20)
  (Text.dropEndWhile isEdge (s.toList.dropWhile isEdge)).filter fun c =>
    c ≠ '\t' && c ≠ '\n' && c ≠ '\r'

def isUsable (s : String) : Bool :=
  match verdict (cleaned s) with
  | .usable => true
  | .malformed => false
  | .bare => verdict ("http://".toList ++ cleaned s) = .usable

end LogDelivery.ProxyAddress
