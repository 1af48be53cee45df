import ClusterClient.Http.Basic
import ClusterClient.Text.Basic
import ClusterClient.Text.Decimal
import ClusterClient.Text.Percent
namespace ClusterClient.Http

def lineEnd : String := "\r\n"

def Request.head (r : Request) : List String :=
  [r.method.name ++ " " ++ r.target ++ " HTTP/1.1", "Host: " ++ r.authority, "Accept: " ++ accept,
    "Connection: " ++ connection] ++
    (if r.method = .put then ["Content-Length: " ++ Decimal.text r.body.length] else [])

def Request.bytes (r : Request) : List UInt8 :=
  Utf8.bytes (String.join (r.head.map (· ++ lineEnd)) ++ lineEnd) ++ r.body

def cutLine : List UInt8 → Option (List UInt8 × List UInt8)
  | [] => none
  | 13 :: 10 :: rest => some ([], rest)
  | b :: rest =>
    match cutLine rest with
    | some (line, after) => some (b :: line, after)
    | none => none

def readHead : Nat → List UInt8 → Option (List String × List UInt8)
  | 0, _ => none
  | turns + 1, bytes =>
    match cutLine bytes with
    | none => none
    | some ([], rest) => some ([], rest)
    | some (line, rest) =>
      match readHead turns rest with
      | some (lines, after) => some (Utf8.decode line :: lines, after)
      | none => none

def statusOf? (line : String) : Option Nat :=
  match Text.split ' ' line.toList with
  | _ :: code :: _ => if code.length = 3 then Decimal.natural? code else none
  | _ => none

def lowered (cs : List Char) : List Char := cs.map Char.toLower

def headerOf? (name : String) : List String → Option String
  | [] => none
  | line :: rest =>
    let cs := line.toList
    if lowered (cs.takeWhile (· != ':')) = lowered name.toList then
      some (Text.trim (String.ofList ((cs.dropWhile (· != ':')).drop 1)))
    else headerOf? name rest

def joinChunks : Nat → List UInt8 → Option (List UInt8)
  | 0, _ => none
  | turns + 1, bytes => do
    let (line, rest) ← cutLine bytes
    let size ← Radix.value? 16 ((Utf8.decode line).toList.takeWhile fun c => c != ';' && c != ' ')
    if size = 0 then return []
    else if rest.length < size + 2 then none
    else return rest.take size ++ (← joinChunks turns (rest.drop (size + 2)))

-- Encodings by their labels. Who declares none of them, or nothing, means UTF-8.
def encodings : List (String × (List UInt8 → String)) :=
  [("utf-16", Utf16.decode false), ("utf-16le", Utf16.decode false), ("utf-16be", Utf16.decode true)]

def parameterOf? (name : String) (field : String) : Option String :=
  (Text.split ';' field.toList).findSome? fun part =>
    let part := Text.trimChars part
    if lowered (part.takeWhile (· != '=')) = name.toList then
      some (String.ofList (lowered (((part.dropWhile (· != '=')).drop 1).filter (· != '"'))))
    else none

def declaredEncoding (fields : List String) : List UInt8 → String :=
  (((headerOf? "Content-Type" fields).bind (parameterOf? "charset")).bind (encodings.lookup ·)).getD Utf8.decode

def Reply.ofBytes? (bytes : List UInt8) : Option Reply := do
  let (head, rest) ← readHead (bytes.length + 1) bytes
  match head with
  | [] => none
  | line :: fields =>
    let status ← statusOf? line
    let reply : Reply := { status, body := [], decode := declaredEncoding fields }
    if !reply.hasBody then return reply
    match headerOf? "Transfer-Encoding" fields, headerOf? "Content-Length" fields with
    | some _, _ => return { reply with body := ← joinChunks (rest.length + 1) rest }
    | none, some size =>
      let n ← Decimal.natural? size.toList
      if rest.length < n then none else return { reply with body := rest.take n }
    | none, none => return { reply with body := rest }

end ClusterClient.Http
