import ClusterClient.Failure
import ClusterClient.Json.Basic
import ClusterClient.Text.Base64
import ClusterClient.Text.Encoding
namespace ClusterClient

namespace Value

def encode (value : List UInt8) : String := String.ofList (Base64.encode value)

-- A refused text is reported as it came, blanks included.
def decode (encoded : String) : Except Failure (List UInt8) :=
  match Base64.decode encoded.toList with
  | some value => .ok value
  | none => .error (.range "Value" "base64 string" encoded)

def header : String := "-----BEGIN BASE64 ENCODED STREAM-----"

def footer : String := "-----END BASE64 ENCODED STREAM-----"

def armor (encoded : String) : String := header ++ "\n" ++ encoded ++ "\n" ++ footer

end Value

structure Entry where
  createIndex : UInt64 := 0
  modifyIndex : UInt64 := 0
  lockIndex : UInt64 := 0
  flags : UInt64 := 0
  session : String := ""
  key : String := ""
  value : List UInt8 := []
deriving DecidableEq

namespace Entry

def word (n : UInt64) : String := Decimal.text n.toNat

def valueText (e : Entry) : String := Utf8.decode e.value

def armoredValue (e : Entry) : String := Value.armor (Value.encode e.value)

-- The counters are written as strings of digits, although they are read as numbers.
def toJson (e : Entry) : Json :=
  .object (Json.Members.ofList [
    ("CreateIndex", .string (word e.createIndex)),
    ("ModifyIndex", .string (word e.modifyIndex)),
    ("LockIndex", .string (word e.lockIndex)),
    ("Flags", .string (word e.flags)),
    ("Session", .string e.session),
    ("Key", .string e.key),
    ("Value", .string (Value.encode e.value))])

def json (e : Entry) : String := e.toJson.text

end Entry
end ClusterClient
