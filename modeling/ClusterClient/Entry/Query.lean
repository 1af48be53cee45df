import ClusterClient.Text.Decimal
import ClusterClient.Text.Percent
import ClusterClient.Text.Basic
namespace ClusterClient

structure Query where
  cluster : Option String := none
  recurse : Bool := false
  cas : Option UInt64 := none
  acquire : Option String := none
  release : Option String := none
  flags : Option UInt64 := none
deriving DecidableEq

namespace Query

def recursive : Query := { recurse := true }

-- Only a query that names no cluster, not even an empty one, takes the default.
def withDefaultCluster (query : Query) (cluster : Option String) : Query :=
  match query.cluster with
  | some _ => query
  | none => { query with cluster }

def textPart (name : String) : Option String → List (List Char)
  | none => []
  | some s => if s = "" then [] else [name.toList ++ '=' :: Percent.encode Percent.isUnreserved s.toList]

def wordPart (name : String) : Option UInt64 → List (List Char)
  | none => []
  | some n => [name.toList ++ '=' :: (Decimal.text n.toNat).toList]

def parts (query : Query) : List (List Char) :=
  textPart "dc" query.cluster ++ (if query.recurse then ["recurse".toList] else []) ++
    wordPart "cas" query.cas ++ wordPart "flags" query.flags ++
    textPart "acquire" query.acquire ++ textPart "release" query.release

def text (query : Query) : String := String.ofList (Text.join ['&'] query.parts)

def apply (query : Query) (url : String) : String :=
  if query.text = "" then url else url ++ "?" ++ query.text

end Query
end ClusterClient
