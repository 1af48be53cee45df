import ClusterClient.Http.Host
import ClusterClient.Text.Encoding
namespace ClusterClient.Http

inductive Method where
  | get | put | delete
deriving DecidableEq

def Method.name : Method → String
  | .get => "GET"
  | .put => "PUT"
  | .delete => "DELETE"

structure Request where
  method : Method
  authority : String
  target : String
  body : List UInt8
  timeoutMs : UInt32
deriving DecidableEq

def accept : String := "application/json"

def connection : String := "close"

structure Reply where
  status : Nat
  body : List UInt8
  -- The encoding that the header declares.
  decode : List UInt8 → String := Utf8.decode

namespace Reply

def isSuccess (reply : Reply) : Bool := 200 ≤ reply.status && reply.status ≤ 299

def hasBody (reply : Reply) : Bool := reply.status != 204 && reply.status != 304

def text (reply : Reply) : String := if reply.hasBody then Encoded.read reply.decode reply.body else ""

end Reply

-- The segments of a path after those of dots have been resolved; the ones already settled come
-- last first. A segment of dots at the end leaves an empty one, so that the path ends in a slash.
def resolve : List (List Char) → List (List Char) → List (List Char)
  | settled, [] => settled.reverse
  | settled, [last] =>
    if last = ['.'] then ([] :: settled).reverse
    else if last = ['.', '.'] then ([] :: settled.tail).reverse
    else (last :: settled).reverse
  | settled, segment :: next :: rest =>
    if segment = ['.'] then resolve settled (next :: rest)
    else if segment = ['.', '.'] then resolve settled.tail (next :: rest)
    else resolve (segment :: settled) (next :: rest)

def resolvePath : List Char → List Char
  | '/' :: path => '/' :: Text.join ['/'] (resolve [] (Text.split '/' path))
  | _ => ['/']

def scheme : List Char := "http://".toList

def server (authority : List Char) : List Char := (authority.reverse.takeWhile fun c => c != '@').reverse

-- Tabs and line ends do not count, and a backslash is a slash.
def clean (url : String) : List Char :=
  (url.toList.filter fun c => !(c == '\t' || c == '\n' || c == '\r')).map fun c => if c = '\\' then '/' else c

def cut? (naming : Naming) (url : String) : Option (String × String) :=
  let rest := (clean url).drop scheme.length
  let authority := rest.takeWhile fun c => !(c == '/' || c == '?' || c == '#')
  let whole := rest.dropWhile fun c => !(c == '/' || c == '?' || c == '#')
  let path := whole.takeWhile fun c => !(c == '?' || c == '#')
  let query := (whole.dropWhile fun c => !(c == '?' || c == '#')).takeWhile fun c => c != '#'
  if scheme.isPrefixOf (clean url) then
    (readServer naming (server authority)).map fun found =>
      (String.ofList found, String.ofList (resolvePath path ++ query))
  else none

end ClusterClient.Http
