import MallFabric.Json.Printer
import MallFabric.Rehearsal.Peers

/-!
# Reports

What came of the steps of a rehearsal, as JSON.
-/

namespace MallFabric.Rehearsal.Report

def hex (value : Bytes) : Json := Json.text (Hex.encode value)

/-- A span of time as seconds and nanoseconds. -/
def span (value : Duration) : Json :=
  .array [Json.nat value.seconds, Json.nat value.subsecondNanos]

def optional {Value : Type} (report : Value -> Json) : Option Value -> Json
  | some value => report value
  | none => .null

def nothing : Unit -> Json := fun _ => .null

def texts (values : List String) : Json := .array (values.map Json.text)

/-- The name of a kind of fault. -/
def kind : Fault -> String
  | .unknownService _ => "UnknownService"
  | .connection _ _ => "Connection"
  | .methodNotFound _ => "MethodNotFound"
  | .invalidContract _ _ => "InvalidContract"
  | .circuitOpen _ => "CircuitOpen"
  | .saturated _ => "Saturated"
  | .serviceUnavailable _ _ _ => "ServiceUnavailable"
  | .registration _ => "Registration"
  | .notFound _ => "NotFound"
  | .downstream _ _ => "Downstream"
  | .invalidArgument _ => "InvalidArgument"
  | .timeout => "Timeout"
  | .cancelled => "Cancelled"
  | .cache _ => "Cache"

def fault (cause : Fault) : Json :=
  match cause with
  | .downstream code content =>
      Json.record [("error", Json.text (kind cause)), ("code", Json.int code),
        ("message", Json.text content)]
  | _ => Json.record [("error", Json.text (kind cause)), ("message", Json.text cause.message)]

/-- A value or a fault. -/
def outcome {Value : Type} (report : Value -> Json) : Except Fault Value -> Json
  | .ok value => Json.record [("ok", report value)]
  | .error cause => fault cause

/-- A task that broke down. -/
def crash : Json := Json.record [("error", Json.text "panic")]

def reply {Value : Type} (report : Value -> Json) : Reply Value -> Json
  | .answer value => outcome report (.ok value)
  | .fault cause => fault cause
  | .crash => crash

/-- The result of a call, if its task did not break down. -/
def result (report : Except Fault Bytes -> Json) : Option (Except Fault Bytes) -> Json
  | some result => report result
  | none => crash

def circuitState : CircuitState -> String
  | .closed => "closed"
  | .opened => "open"
  | .halfOpen => "half_open"

/-- What a circuit shows of itself. -/
def circuit (circuit : Circuit) (now : Instant) : Json :=
  let counts := circuit.counts now
  Json.record [("state", Json.text (circuitState circuit.state)),
    ("successes", Json.nat counts.successes), ("failures", Json.nat counts.failures),
    ("timeouts", Json.nat counts.timeouts), ("rejections", Json.nat counts.rejections),
    ("error_percent", Json.nat counts.errorPercent)]

/-- The cache of a proxy: its size and how often it was asked. -/
def cache (link : CacheLink) : Json :=
  .array [optional (fun store => Json.nat store.size) link.store, Json.nat link.lookups]

def hits (peers : Peers) : Json :=
  Json.record (peers.hits.map fun entry => (entry.1, Json.nat entry.2))

/-- A forwarded id: a question mark if it is not plain text. -/
def forwardedId (id : RequestId) : Json :=
  if id.shown.toList.all Headers.isVisible then Json.text id.masked else Json.text "?"

/-- What a service received. -/
def sent (sent : Grpc.Sent) : Json :=
  Json.record [("path", Json.text sent.path), ("request", hex sent.request),
    ("request_id", optional forwardedId sent.requestId),
    ("timeout", optional Json.text sent.timeout)]

/-- Runs of equal reports, each with its length. -/
def runs (reports : List Json) : Json :=
  let counted := reports.foldl
    (fun (done : List (Nat × Json)) report =>
      match done with
      | (count, last) :: rest =>
          if last.print = report.print then (count + 1, last) :: rest else (1, report) :: done
      | [] => [(1, report)])
    []
  .array (counted.reverse.map fun run => .array [Json.nat run.1, run.2])

end MallFabric.Rehearsal.Report
