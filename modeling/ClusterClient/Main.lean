import ClusterClient.Command.Arguments
import ClusterClient.Command.Run
import ClusterClient.Http.Wire
import Std.Async.DNS
import Std.Async.TCP
import Std.Async.Timer
namespace ClusterClient
open Std.Async Std.Net

def addressOf (host : String) (port : UInt16) : Async (Option SocketAddress) := do
  let bare := String.ofList (host.toList.filter fun c => c != '[' && c != ']')
  match IPv4Addr.ofString bare, IPv6Addr.ofString bare with
  | some addr, _ => return some (.v4 ⟨addr, port⟩)
  | none, some addr => return some (.v6 ⟨addr, port⟩)
  | none, none =>
    let found ← DNS.getAddrInfo bare (Agent.portText port)
    match found.toList with
    | IPAddr.v4 addr :: _ => return some (.v4 ⟨addr, port⟩)
    | IPAddr.v6 addr :: _ => return some (.v6 ⟨addr, port⟩)
    | [] => return none

def receiveAll (client : TCP.Socket.Client) : Nat → ByteArray → Async ByteArray
  | 0, got => return got
  | turns + 1, got => do
    match ← client.recv? 65536 with
    | some piece => receiveAll client turns (got ++ piece)
    | none => return got

def mostPieces : Nat := 1000000

def converse (request : Http.Request) : Async (Option Http.Reply) := do
  let authority := request.authority.toList
  let (host, port) := (Http.cutPort Http.asciiNaming authority).getD ([], [])
  match ← addressOf (String.ofList host) ((Decimal.word16? (String.ofList (port.drop 1))).getD 80) with
  | none => return none
  | some address =>
    let client ← TCP.Socket.Client.mk
    client.connect address
    client.send ⟨request.bytes.toArray⟩
    let got ← receiveAll client mostPieces .empty
    return Http.Reply.ofBytes? got.toList

-- An exchange that fails or takes too long has no reply.
def exchange (request : Http.Request) : IO (Option Http.Reply) := do
  let late : Async (Option Http.Reply) := do
    sleep (Std.Time.Millisecond.Offset.ofNat request.timeoutMs.toNat)
    return none
  try (Async.race (converse request) late).block catch _ => return none

def find (path : String) : IO Found := do
  try return .content (← IO.FS.readBinFile path).toList
  catch
    | .noFileOrDirectory .. => return .nothing
    | _ => return .unreadable

-- Counts are only for who looks at them, and nobody does here.
def carry {α : Type} : Dialog α → IO α
  | .done x => return x
  | .ask request next => do
    let reply ← exchange request
    carry (next reply)
  | .look path next => do
    let found ← find path
    carry (next found)
  | .note _ next => carry next
  | .say line next => do
    IO.println line
    carry next

end ClusterClient

open ClusterClient in
def main (args : List String) : IO UInt32 := do
  let ending ← carry (Command.run .plain args)
  if ending = .helped then Command.usage.forM fun line => IO.println line
  match ending.complaint with
  | some text => IO.eprint text
  | none => Command.usage.forM fun line => IO.eprintln line
  return ending.code.toUInt32
