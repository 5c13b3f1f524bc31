import OneTimeCode.Verification.Handling

/-!
# Carrying out effects

Effects are carried out in their order. A sink of counts may refuse any of them: then nothing is
counted and an error is logged instead, while all else stays the same.
-/
namespace OneTimeCode

/-- A sink of counts. Whether it refuses one is told by how many were tried before. -/
structure Sink where
  refuses : Nat → Bool

namespace Sink

def working : Sink := ⟨fun _ => false⟩

def broken : Sink := ⟨fun _ => true⟩

end Sink

/-- A sink of counts, the counters it keeps, and the names of all counts that were tried. -/
structure Metrics where
  sink : Sink
  counters : Counters := .empty
  tried : List Text := []

namespace Metrics

def countFailed (name : Text) : LogEntry :=
  ⟨.error, Handling.source, "Failed to record metric " ++ name⟩

def count (metrics : Metrics) (name : Text) (tags : List (Text × Text)) :
    Metrics × List LogEntry :=
  let tried := metrics.tried ++ [name]
  if metrics.sink.refuses metrics.tried.length then
    ({ metrics with tried := tried }, [countFailed name])
  else
    let texts : Named Json := tags.map fun tag => (tag.1, .text tag.2)
    ({ metrics with counters := metrics.counters.increment name texts 1, tried := tried }, [])

def perform (metrics : Metrics) : List Effect → Metrics × List LogEntry
  | [] => (metrics, [])
  | .note entry :: rest =>
    let (last, log) := metrics.perform rest
    (last, entry :: log)
  | .count name tags :: rest =>
    let (next, log) := metrics.count name tags
    let (last, later) := next.perform rest
    (last, log ++ later)

end Metrics
end OneTimeCode
