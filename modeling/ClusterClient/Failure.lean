import ClusterClient.Json.Basic
import ClusterClient.Text.Decimal
namespace ClusterClient

inductive ShapeCause where
  | notAnEntry (found : Json.Kind)
  | emptyEntry
  | missingField (field : String)
  | notAnArray (found : Json.Kind)
  | noPeers
  | notAText (found : Json.Kind)
  | severalEntries (count : Nat)
  | stated (text : String)
deriving DecidableEq

inductive FormatCause where
  | notAnAddress (text : String)
  | portRefused (port : String)
  | portRefusedIn (port text : String)
  | notAVerdict (text : String)
  | stated (text : String)
deriving DecidableEq

-- Something the operator gave that cannot be used; the blank host comes already quoted.
inductive UsageCause where
  | port (text : String)
  | host (quoted : String)
  | stated (text : String)
deriving DecidableEq

-- A failure is its cause. The wording, the kind and the exit code are functions of it.
inductive Failure where
  | status (status : Nat) (url : String)
  | transport (url : String)
  | parse (detail : String)
  | shape (cause : ShapeCause)
  | fieldType (field : String) (expected found : Json.Kind)
  | range (field expected text : String)
  | format (cause : FormatCause)
  | usage (cause : UsageCause)
  | within (context : String) (source : Failure)
deriving DecidableEq

namespace Failure

inductive Kind where
  | transport | parse | shape | fieldType | range | format | usage
deriving DecidableEq

def Kind.name : Kind → String
  | .transport => "transport"
  | .parse => "parse"
  | .shape => "shape"
  | .fieldType => "field_type"
  | .range => "range"
  | .format => "format"
  | .usage => "usage"

def kind : Failure → Kind
  | .status .. => .transport
  | .transport .. => .transport
  | .parse .. => .parse
  | .shape .. => .shape
  | .fieldType .. => .fieldType
  | .range .. => .range
  | .format .. => .format
  | .usage .. => .usage
  | .within _ source => source.kind

end Failure

namespace ExitCode

def ok : UInt8 := 0
def usage : UInt8 := 64
def software : UInt8 := 70
def temporary : UInt8 := 75
def protocol : UInt8 := 76
def config : UInt8 := 78

end ExitCode

namespace Failure

-- A refusal may pass, a missing answer is a fault of the connection, and an answer that cannot
-- be understood is a fault of the protocol.
def exitCode : Failure → UInt8
  | .status .. => ExitCode.temporary
  | .transport .. => ExitCode.software
  | .usage .. => ExitCode.usage
  | .within _ source => source.exitCode
  | _ => ExitCode.protocol

end Failure

def ShapeCause.message : ShapeCause → String
  | .notAnEntry found => "Expected a JSON object in KV Pair response, received " ++ found.name
  | .emptyEntry => "Unexpected empty object in KV Pair response"
  | .missingField field => "KV Pair response is missing the \"" ++ field ++ "\" field"
  | .notAnArray found => "Expected array, received " ++ found.name ++ " as input."
  | .noPeers => "Unexpected empty array of peers"
  | .notAText found => "Expected a JSON string as input, received " ++ found.name
  | .severalEntries count =>
    "Expected a single KV Pair for a non-recursive request, received " ++ Decimal.text count
  | .stated text => text

def FormatCause.message : FormatCause → String
  | .notAnAddress text => "Expected a host:port pattern from string \"" ++ text ++ "\""
  | .portRefused port => "Failed to set port: " ++ port
  | .portRefusedIn port text => "Failed to set port: " ++ port ++ " (from string \"" ++ text ++ "\")"
  | .notAVerdict text => "Expected true or false from the KV endpoint, received \"" ++ text ++ "\""
  | .stated text => text

def UsageCause.message : UsageCause → String
  | .port text => "Invalid consul port specification: " ++ text
  | .host quoted => "Invalid consul host: " ++ quoted
  | .stated text => text

def Failure.message : Failure → String
  | .status code url => "consul agent returned error " ++ Decimal.text code ++ " for " ++ url
  | .transport url => "request to " ++ url ++ " failed"
  | .parse detail => "Parsing JSON failed: " ++ detail
  | .shape cause => cause.message
  | .fieldType field expected found =>
    field ++ "'s value is not a " ++ expected.name ++ ": " ++ found.name
  | .range field expected text => field ++ " is not a valid " ++ expected ++ ": " ++ text
  | .format cause => cause.message
  | .usage cause => cause.message
  | .within context source => context ++ ": " ++ source.message

end ClusterClient
