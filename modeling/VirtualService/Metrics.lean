/-
  VirtualService/Metrics.lean
  ===========================
  **What has been measured, and its text.**

  Every resolution, proxy call and recording is a measurement.  The counters are
  read off the measurements made so far and are shown family by family, in the
  order of their names, each series under the values of its labels.

  `lines` is the text of `collect_metrics`; the measurements are those of
  `record_resolution`, `record_proxy_call` and `record_recording`.
-/
import VirtualService.Json.Basic
import VirtualService.Number.Digits

namespace VirtualService

/-- Something that is counted. -/
inductive Measurement where
  | resolution (outcome : String)
  /-- A call of an origin, with its duration in milliseconds. -/
  | proxyCall (mode result : String) (latency : Double)
  | recording (mode change : String)
deriving Repr, Inhabited

/-- The measurements made so far, in order. -/
abbrev Metrics := List Measurement

namespace Metrics

/-! ### Counting -/

/-- How many resolutions had an outcome. -/
def resolutions (m : Metrics) (outcome : String) : Nat :=
  m.countP fun measured =>
    match measured with
    | .resolution o => o == outcome
    | _ => false

/-- How many calls of a mode had a result. -/
def proxyCalls (m : Metrics) (mode result : String) : Nat :=
  m.countP fun measured =>
    match measured with
    | .proxyCall o r _ => o == mode && r == result
    | _ => false

/-- How many recordings of a mode made a change. -/
def recordings (m : Metrics) (mode change : String) : Nat :=
  m.countP fun measured =>
    match measured with
    | .recording o c => o == mode && c == change
    | _ => false

/-- The durations of the calls of a mode, in order. -/
def latencies (m : Metrics) (mode : String) : List Double :=
  m.filterMap fun measured =>
    match measured with
    | .proxyCall o _ latency => if o == mode then some latency else none
    | _ => none

/-! ### Series -/

/-- The values of the labels of the series, in ascending order and each once. -/
def series (seen : List (List String)) : List (List String) :=
  seen.foldl insertOnce []
where
  insertOnce (sorted : List (List String)) (labels : List String) : List (List String) :=
    match sorted with
    | [] => [labels]
    | first :: rest =>
        if labels = first then first :: rest
        else if labels < first then labels :: first :: rest
        else first :: insertOnce rest labels

/-- A label value within quotes. -/
def escapedLabel (value : String) : String :=
  String.join <| value.toList.map fun c =>
    if c = '\\' then "\\\\"
    else if c = '"' then "\\\""
    else if c = '\n' then "\\n"
    else String.singleton c

/-- One line: a name, its labels and a value. -/
def sampleLine (name : String) (labels : List (String × String)) (value : String) : String :=
  let pairs := labels.map fun (label, text) => label ++ "=\"" ++ escapedLabel text ++ "\""
  name ++ "\x7b" ++ ",".intercalate pairs ++ "\x7d " ++ value

def countText (n : Nat) : String := String.ofList (Digits.ofNat n)

/-- The lines of a family: what it is, its kind and its series; nothing without series. -/
def familyLines (name help kind : String) (lines : List String) : List String :=
  if lines.isEmpty then []
  else ("# HELP " ++ name ++ " " ++ help) :: ("# TYPE " ++ name ++ " " ++ kind) :: lines

/-! ### Families -/

/-- The upper bounds of the buckets of durations. -/
def bounds : List Nat := [1, 5, 10, 25, 50, 100, 250, 500, 1000, 2500, 5000]

/-- The sum of durations, added up in order. -/
def total (latencies : List Double) : Double :=
  latencies.foldl (fun sum x => Double.ofFloat (sum.toFloat + x.toFloat)) (Double.ofInt 0)

/-- The lines of one histogram of durations. -/
def latencyLines (name mode : String) (latencies : List Double) : List String :=
  let bucket (bound : String) (n : Nat) : String :=
    sampleLine (name ++ "_bucket") [("mode", mode), ("le", bound)] (countText n)
  let within (bound : Nat) : Nat :=
    latencies.countP fun x => x.toFloat ≤ (Double.ofInt bound).toFloat
  (bounds.map fun bound => bucket (countText bound) (within bound)) ++
    [bucket "+Inf" latencies.length,
     sampleLine (name ++ "_sum") [("mode", mode)] (String.ofList (Digits.plain (total latencies))),
     sampleLine (name ++ "_count") [("mode", mode)] (countText latencies.length)]

def proxyCallLines (m : Metrics) : List String :=
  let name := "rift_proxy_calls_total"
  let seen := series <| m.filterMap fun measured =>
    match measured with
    | .proxyCall mode result _ => some [mode, result]
    | _ => none
  familyLines name "Total number of proxied requests" "counter" <|
    seen.map fun labels =>
      let mode := labels.headD ""
      let result := labels.getLastD ""
      sampleLine name [("mode", mode), ("result", result)] (countText (m.proxyCalls mode result))

def latencyFamilyLines (m : Metrics) : List String :=
  let name := "rift_proxy_latency_ms"
  let seen := series <| m.filterMap fun measured =>
    match measured with
    | .proxyCall mode _ _ => some [mode]
    | _ => none
  familyLines name "Histogram of proxied call latency in milliseconds" "histogram" <|
    seen.flatMap fun labels => latencyLines name (labels.headD "") (m.latencies (labels.headD ""))

def recordingLines (m : Metrics) : List String :=
  let name := "rift_recordings_total"
  let seen := series <| m.filterMap fun measured =>
    match measured with
    | .recording mode change => some [change, mode]
    | _ => none
  familyLines name "Total number of proxy recordings applied to stub stores" "counter" <|
    seen.map fun labels =>
      let change := labels.headD ""
      let mode := labels.getLastD ""
      sampleLine name [("change", change), ("mode", mode)] (countText (m.recordings mode change))

def resolutionLines (m : Metrics) : List String :=
  let name := "rift_resolutions_total"
  let seen := series <| m.filterMap fun measured =>
    match measured with
    | .resolution outcome => some [outcome]
    | _ => none
  familyLines name "Total number of requests resolved against stubs" "counter" <|
    seen.map fun labels =>
      let outcome := labels.headD ""
      sampleLine name [("outcome", outcome)] (countText (m.resolutions outcome))

/-- All families that have series, in the order of their names. -/
def lines (m : Metrics) : List String :=
  m.proxyCallLines ++ m.latencyFamilyLines ++ m.recordingLines ++ m.resolutionLines

end Metrics

end VirtualService
