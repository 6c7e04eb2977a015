import LogDelivery.Payload
import LogDelivery.Text.Basic

/-!
# Requests

An HTTP request that posts a body, and what may stand in its first line and in the values of its headers.
-/
namespace LogDelivery

structure Request where
  target : String
  body : Body
  compressed : Bool := false
  accessKey : Option String := none
  /-- requests that carry batches name the version of their form -/
  versioned : Bool := true
  deriving DecidableEq, Repr

namespace Request

def formVersion : String := "1"

def startLine (r : Request) : String := "POST " ++ r.target ++ " HTTP/1.1"

def isPadding (c : Char) : Bool := c = ' ' || c = '\t'

def received (value : String) : String :=
  String.ofList (Text.dropEndWhile isPadding (value.toList.dropWhile isPadding))

/-- The headers that tell about the request, in the order of their names. The length of a compressed body
depends on the compressor and is left out. -/
def headers (r : Request) : List (String × String) :=
  (if r.compressed then [("content-encoding", "zstd")]
    else [("content-length", toString r.body.size)]) ++
  [("content-type", r.body.contentType)] ++
  (r.accessKey.map fun k => ("x-api-key", received k)).toList ++
  if r.versioned then [("x-protocol-version", formVersion)] else []

def brokenText (url : String) : String := "error sending request for url (" ++ url ++ ")"

def isHeaderValue (s : String) : Bool :=
  s.toList.all fun c => (0x20 ≤ c.toNat && c.toNat ≠ 0x7F) || c = '\t'

def isPathChar (c : Char) : Bool :=
  let n := c.toNat
  n = 0x21 || (0x24 ≤ n && n ≤ 0x3B) || n = 0x3D || (0x40 ≤ n && n ≤ 0x5F) ||
  (0x61 ≤ n && n ≤ 0x7A) || n = 0x7C || n = 0x7E || c = '"' || c = '\x7b' || c = '\x7d' ||
  0x7F ≤ n

def isQueryChar (c : Char) : Bool :=
  let n := c.toNat
  n = 0x21 || (0x24 ≤ n && n ≤ 0x3B) || n = 0x3D || (0x3F ≤ n && n ≤ 0x7E) || 0x7F ≤ n

def maxTarget : Nat := 65534

def targetOf (path : String) : Except String String :=
  if maxTarget < path.utf8ByteSize then .error "uri too long"
  else
    let named := path.toList.takeWhile (· ≠ '#')
    let steps := named.takeWhile (· ≠ '?')
    let query := (named.drop steps.length).drop 1
    if steps.all isPathChar && query.all isQueryChar then .ok (String.ofList named)
    else .error "invalid uri character"

end Request
end LogDelivery
