import ClusterClient.Failure
namespace ClusterClient

inductive Measure where
  | request (endpoint method status : String)
  | decodeError (kind : Failure.Kind)
deriving DecidableEq

-- A family of series. Durations are summed up, of which only their number is counted here.
inductive Family where
  | requests | durations | decodeErrors
deriving DecidableEq

namespace Family

def name : Family → String
  | .requests => "pgconsul_requests_total"
  | .durations => "pgconsul_request_duration_seconds"
  | .decodeErrors => "pgconsul_decode_errors_total"

def help : Family → String
  | .requests => "Total requests sent to the consul agent"
  | .durations => "Consul agent request duration in seconds"
  | .decodeErrors => "Agent replies that failed to decode"

def type : Family → String
  | .durations => "summary"
  | _ => "counter"

def sample : Family → String
  | .durations => Family.durations.name ++ "_count"
  | family => family.name

def every : List Family := [.requests, .durations, .decodeErrors]

end Family

structure Series where
  family : Family
  labels : List (String × String)
deriving DecidableEq

def Measure.series : Measure → List Series
  | .request endpoint method status =>
    [⟨.requests, [("endpoint", endpoint), ("method", method), ("status", status)]⟩,
     ⟨.durations, [("endpoint", endpoint), ("method", method)]⟩]
  | .decodeError kind => [⟨.decodeErrors, [("kind", kind.name)]⟩]

def Measure.noStatus : String := "error"

abbrev Tally := List (Series × Nat)

namespace Tally

def increment (series : Series) : Tally → Tally
  | [] => [(series, 1)]
  | (s, n) :: rest => if s = series then (s, n + 1) :: rest else (s, n) :: increment series rest

def record (tally : Tally) (m : Measure) : Tally := m.series.foldl (fun t s => increment s t) tally

def ofMeasures (ms : List Measure) : Tally := ms.foldl record []

def count (series : Series) : Tally → Nat
  | [] => 0
  | (s, n) :: rest => if s = series then n else count series rest

-- Line feeds, quotes and backslashes are escaped. A backslash is held back until the next
-- character shows whether the text had escaped it already.
def escapeLabel : Bool → List Char → List Char
  | held, [] => if held then ['\\', '\\'] else []
  | held, '\n' :: rest => '\\' :: 'n' :: escapeLabel held rest
  | _, '"' :: rest => '\\' :: '"' :: escapeLabel false rest
  | true, '\\' :: rest => '\\' :: '\\' :: escapeLabel false rest
  | false, '\\' :: rest => escapeLabel true rest
  | true, c :: rest => '\\' :: '\\' :: c :: escapeLabel false rest
  | false, c :: rest => c :: escapeLabel false rest

def labelText (label : String × String) : String :=
  label.1 ++ "=\"" ++ String.ofList (escapeLabel false label.2.toList) ++ "\""

def sampleLine (entry : Series × Nat) : String :=
  entry.1.family.sample ++ "\x7b" ++ String.intercalate "," (entry.1.labels.map labelText) ++ "\x7d " ++
    Decimal.text entry.2

def familyLines (tally : Tally) (family : Family) : List String :=
  if tally.any (fun entry => entry.1.family == family) then
    ["# HELP " ++ family.name ++ " " ++ family.help, "# TYPE " ++ family.name ++ " " ++ family.type]
  else []

def lines (tally : Tally) : List String :=
  (Family.every.flatMap (familyLines tally) ++ tally.map sampleLine).mergeSort (fun a b => decide (a ≤ b))

end Tally
end ClusterClient
