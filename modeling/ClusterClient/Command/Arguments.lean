import ClusterClient.Command.Basic
import ClusterClient.Command.Numeral
import ClusterClient.Text.Similar
namespace ClusterClient.Command

inductive Level where
  | root | kv | get | put | delete | encode | decode | leader | peers | status | ping
  | help
deriving DecidableEq

inductive Setting where
  | host | port | cluster | timeout | config | flags | cas | acquire | release | status
deriving DecidableEq

inductive Switch where
  | debug | recurse | rows
deriving DecidableEq

inductive Choice where
  | setting (s : Setting)
  | switch (s : Switch)
  | help
  | version
deriving DecidableEq

def Setting.name : Setting → String
  | .host => "host"
  | .port => "port"
  | .cluster => "cluster"
  | .timeout => "timeout"
  | .config => "config"
  | .flags => "flags"
  | .cas => "cas"
  | .acquire => "acquire"
  | .release => "release"
  | .status => "status"

def Setting.shown (s : Setting) : String :=
  "--" ++ s.name ++ " <" ++ String.ofList (s.name.toList.map Char.toUpper) ++ ">"

def Choice.long : Choice → String
  | .setting s => s.name
  | .switch .debug => "debug"
  | .switch .recurse => "recurse"
  | .switch .rows => "rows"
  | .help => "help"
  | .version => "version"

def Choice.short : Choice → Option Char
  | .setting .host => some 'H'
  | .setting .port => some 'p'
  | .setting .cluster => some 'c'
  | .setting .status => some 's'
  | .switch .debug => some 'd'
  | .help => some 'h'
  | .version => some 'V'
  | _ => none

def everywhere : List Choice :=
  [.setting .host, .setting .port, .setting .cluster, .setting .timeout, .switch .debug, .setting .config, .help]

def Level.own : Level → List Choice
  | .root => [.version]
  | .get => [.switch .recurse, .switch .rows]
  | .put => [.setting .flags, .setting .cas, .setting .acquire, .setting .release]
  | .delete => [.switch .recurse, .setting .cas]
  | .status => [.setting .status]
  | _ => []

def Level.choices (level : Level) : List Choice := level.own ++ everywhere

def Level.children : Level → List (String × Level)
  | .root => [("kv", .kv), ("leader", .leader), ("peers", .peers), ("status", .status), ("ping", .ping), ("help", .help)]
  | .kv =>
    [("get", .get), ("put", .put), ("delete", .delete), ("encode", .encode), ("decode", .decode), ("help", .help)]
  | _ => []

def Level.child? (level : Level) (name : String) : Option Level :=
  (level.children.find? fun c => c.1 == name).map (·.2)

def Level.mostWords : Level → Option Nat
  | .get => none
  | .put => some 2
  | .delete => some 1
  | .encode => some 1
  | .decode => some 1
  | _ => some 0

def Level.leastWords : Level → Nat
  | .get => 1
  | level => level.mostWords.getD 0

inductive Misuse where
  | noValue (s : Setting)
  | badNumber (s : Setting) (value : String) (fault : Numeral.Fault)
  | badReport (value : String)
  | unusable
deriving DecidableEq

inductive Stop where
  | helped
  | version
  | misused (m : Misuse)
deriving DecidableEq

def reportNames : List String := Report.every.map Report.name

def possibleReports : String := "\n  [possible values: " ++ String.intercalate ", " reportNames ++ "]"

namespace Misuse

-- A value that is empty counts as none.
def text : Misuse → Option String
  | .noValue s =>
    some ("a value is required for '" ++ s.shown ++ "' but none was supplied" ++
      if s = .status then possibleReports else "")
  | .badNumber s value fault => some ("invalid value '" ++ value ++ "' for '" ++ s.shown ++ "': " ++ fault.text)
  | .badReport value =>
    some ("invalid value '" ++ value ++ "' for '" ++ Setting.shown .status ++ "'" ++ possibleReports ++
      match Similar.best value reportNames with
      | some name => "\n\n  tip: a similar value exists: '" ++ name ++ "'"
      | none => "")
  | .unusable => none

def complaint (m : Misuse) : Option String :=
  m.text.map fun text => "error: " ++ text ++ "\n\nFor more information, try '--help'.\n"

end Misuse

structure Given where
  overrides : Overrides := {}
  config : Option String := none
  debug : Bool := false
  recurse : Bool := false
  rows : Bool := false
  flags : Option UInt64 := none
  cas : Option UInt64 := none
  acquire : Option String := none
  release : Option String := none
  reports : List Report := []
  words : List String := []
  -- A value is checked only when the next option or argument of its level is read, or at the
  -- level's end, so until then it waits here.
  pending : Option (Setting × Option String) := none

namespace Given

def isSet (g : Given) : Setting → Bool
  | .host => g.overrides.host.isSome
  | .port => g.overrides.port.isSome
  | .cluster => g.overrides.cluster.isSome
  | .timeout => g.overrides.timeoutMs.isSome
  | .config => g.config.isSome
  | .flags => g.flags.isSome
  | .cas => g.cas.isSome
  | .acquire => g.acquire.isSome
  | .release => g.release.isSome
  | .status => false

def number {α : Type} (s : Setting) (value : String) : Except Numeral.Fault α → Except Stop α
  | .ok x => .ok x
  | .error fault => .error (.misused (.badNumber s value fault))

def set (g : Given) (s : Setting) (value : String) : Except Stop Given :=
  match s with
  | .host => .ok { g with overrides := { g.overrides with host := value } }
  | .port => .ok { g with overrides := { g.overrides with port := value } }
  | .cluster => .ok { g with overrides := { g.overrides with cluster := value } }
  | .timeout => do
    let ms ← number s value (Numeral.timeout value)
    return { g with overrides := { g.overrides with timeoutMs := ms } }
  | .config => if value = "" then .error (.misused (.noValue s)) else .ok { g with config := value }
  | .flags => do return { g with flags := ← number s value (Numeral.word64 value) }
  | .cas => do return { g with cas := ← number s value (Numeral.word64 value) }
  | .acquire => .ok { g with acquire := value }
  | .release => .ok { g with release := value }
  | .status =>
    match Report.ofName? false value with
    | some r => .ok { g with reports := g.reports ++ [r] }
    | none => .error (.misused (if value = "" then .noValue s else .badReport value))

def take (g : Given) (s : Setting) (value : String) : Except Stop Given :=
  if g.isSet s then .error (.misused .unusable) else g.set s value

def settle (g : Given) : Except Stop Given :=
  match g.pending with
  | none => .ok g
  | some (s, none) => .error (.misused (.noValue s))
  | some (s, some value) => { g with pending := none }.take s value

def flip (g : Given) (s : Switch) : Except Stop Given := do
  let g ← g.settle
  match s with
  | .debug => if g.debug then .error (.misused .unusable) else return { g with debug := true }
  | .recurse => if g.recurse then .error (.misused .unusable) else return { g with recurse := true }
  | .rows => if g.rows then .error (.misused .unusable) else return { g with rows := true }

def give (g : Given) (s : Setting) (attached : Option String) : Except Stop Given := do
  let g ← g.settle
  match attached with
  | some value => g.take s value
  | none => return { g with pending := some (s, none) }

def isAwaiting (g : Given) : Bool :=
  match g.pending with
  | some (_, none) => true
  | _ => false

def bare (g : Given) : Choice → Except Stop Given
  | .setting s => g.give s none
  | .switch s => g.flip s
  | .help => do
    let _ ← g.settle
    .error .helped
  | .version => do
    let _ ← g.settle
    .error .version

def word (level : Level) (trailing : Bool) (g : Given) (w : String) : Except Stop Given :=
  match g.pending, trailing with
  | some (s, none), false => .ok { g with pending := some (s, some w) }
  | _, _ =>
    if (level.mostWords.map fun most => decide (g.words.length < most)).getD true then do
      let g ← g.settle
      return { g with words := g.words ++ [w] }
    else .error (.misused .unusable)

end Given

def cutAtEquals : List Char → List Char × Option (List Char)
  | [] => ([], none)
  | c :: rest => if c = '=' then ([], some rest) else (c :: (cutAtEquals rest).1, (cutAtEquals rest).2)

def longWord (level : Level) (g : Given) (cs : List Char) : Except Stop Given :=
  let (name, attached) := cutAtEquals cs
  match level.choices.find? (fun c => c.long == String.ofList name), attached with
  | none, _ => .error (.misused .unusable)
  | some choice, none => g.bare choice
  | some (.setting s), some value => g.give s (some (String.ofList value))
  | some _, some _ => .error (.misused .unusable)

-- Letters after one hyphen. The first that is an option with a value takes the rest as its value,
-- without an equals sign in front.
def shortWord (level : Level) (g : Given) : List Char → Except Stop Given
  | [] => .ok g
  | c :: rest =>
    match level.choices.find? (fun choice => choice.short == some c), rest with
    | none, _ => .error (.misused .unusable)
    | some (.setting s), [] => g.give s none
    | some (.setting s), '=' :: value => g.give s (some (String.ofList value))
    | some (.setting s), value => g.give s (some (String.ofList value))
    | some choice, rest => do
      let g ← g.bare choice
      shortWord level g rest

def helpOn (level : Level) : List String → Stop
  | [] => .helped
  | name :: rest =>
    match level.child? name with
    | some child => helpOn child rest
    | none => .misused .unusable

-- A level after its last word. It has what it needs, unless a command was to be named.
def finishLevel (level : Level) (g : Given) : Except Stop Given := do
  let g ← g.settle
  if !level.children.isEmpty || g.words.length < level.leastWords then .error (.misused .unusable)
  else return g

-- The levels that were gone through, with what was set on each. The flag tells that two hyphens
-- have been read, after which every word is an argument.
def readWords : Level → Given → Bool → List String → Except Stop (List (Level × Given))
  | level, g, _, [] => do return [(level, ← finishLevel level g)]
  | level, g, true, w :: rest => do
    let g ← g.word level true w
    readWords level g true rest
  | level, g, false, w :: rest =>
    match if g.isAwaiting then none else level.child? w with
    | some .help => .error (helpOn level rest)
    | some child => do
      let below ← readWords child {} false rest
      let g ← g.settle
      return (level, g) :: below
    | none =>
      match w.toList with
      | ['-', '-'] => readWords level g true rest
      | '-' :: '-' :: cs => do
        let g ← longWord level g cs
        readWords level g false rest
      | '-' :: c :: cs => do
        let g ← shortWord level g (c :: cs)
        readWords level g false rest
      | _ => do
        let g ← g.word level false w
        readWords level g false rest

def merge (upper lower : Given) : Given :=
  { lower with
    overrides :=
      { host := lower.overrides.host <|> upper.overrides.host
        port := lower.overrides.port <|> upper.overrides.port
        cluster := lower.overrides.cluster <|> upper.overrides.cluster
        timeoutMs := lower.overrides.timeoutMs <|> upper.overrides.timeoutMs }
    config := lower.config <|> upper.config
    debug := lower.debug || upper.debug }

def actionOf? (level : Level) (g : Given) : Option Action :=
  match level, g.words with
  | .get, keys => some (.get keys g.recurse g.rows)
  | .put, [key, value] => some (.put key value g.flags g.cas g.acquire g.release)
  | .delete, [key] => some (.delete key g.recurse g.cas)
  | .encode, [text] => some (.encode text)
  | .decode, [encoded] => some (.decode encoded)
  | .leader, _ => some .leader
  | .peers, _ => some .peers
  | .status, _ => some (.status g.reports)
  | .ping, _ => some .ping
  | _, _ => none

def invocationOf (levels : List (Level × Given)) : Except Stop Invocation :=
  let g := levels.foldl (fun g l => merge g l.2) {}
  match levels.getLast? with
  | none => .error (.misused .unusable)
  | some (level, last) =>
    match actionOf? level last with
    | none => .error (.misused .unusable)
    | some action => .ok { overrides := g.overrides, verbose := g.debug, config := g.config, action }

def Invocation.ofWords (words : List String) : Except Stop Invocation := do
  invocationOf (← readWords .root {} false words)

def usage : List String :=
  ["Usage: pgconsul [OPTIONS] <COMMAND>",
   "",
   "Commands:",
   "  kv get [--recurse] [--rows] <KEYS>...",
   "  kv put [--flags N] [--cas INDEX] [--acquire SESSION] [--release SESSION] <KEY> <VALUE>",
   "  kv delete [--recurse] [--cas INDEX] <KEY>",
   "  kv encode <TEXT>",
   "  kv decode <BASE64>",
   "  leader",
   "  peers",
   "  status [-s all|leader|peers|self]...",
   "  ping",
   "",
   "Options:",
   "  -H, --host <HOST>        host name or address of the agent",
   "  -p, --port <PORT>        port of the agent",
   "  -c, --cluster <CLUSTER>  cluster for key/value requests",
   "      --timeout <TIMEOUT>  milliseconds a request may take",
   "      --config <CONFIG>    configuration file",
   "  -d, --debug              tell more",
   "  -h, --help               show this text",
   "  -V, --version            show the version"]

end ClusterClient.Command
