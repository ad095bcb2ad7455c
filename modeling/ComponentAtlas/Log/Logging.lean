import ComponentAtlas.Log.Format

/-!
# The state of the log

Entries reach the handlers of the root. A handler may belong to the log itself or to a host
that was there before; the host's handlers are never touched. The log's own handler is as a
rule a queue, which a listener drains into its sinks. A queue that no listener drains loses
what it is given. When the sinks cannot be built, a direct handler takes their place, so that
entries are still seen.

`Logging.configure` sets the log up anew. It does nothing when that was done before, unless it
is forced to.
-/

namespace ComponentAtlas.Log

/-- Where a listener writes, from which level on. -/
inductive Sink where
  | console (threshold : Level) (format : Format)
  | file (threshold : Level) (format : Format) (path : String) (maxBytes backupCount : Int)
  deriving Repr, DecidableEq

/-- The level from which on a sink writes. -/
def Sink.threshold : Sink → Level
  | console threshold _ | file threshold .. => threshold

/-- A handler of the root. -/
inductive Handler where
  | queue (number : Nat)
  | direct
  | foreign (name : String)
  deriving Repr, DecidableEq

/-- A handler that belongs to the log itself. -/
def Handler.isOurs : Handler → Bool
  | foreign _ => false
  | _ => true

/-- What drains a queue into sinks. -/
structure Listener where
  queue : Nat
  sinks : List Sink
  deriving Repr, DecidableEq

/-- The handlers of the root, and what stands behind them. -/
structure Logging where
  level : Level
  handlers : List Handler
  listener : Option Listener
  /-- The log was set up with sinks at some time. -/
  configured : Bool
  /-- The number of the next queue. -/
  nextQueue : Nat
  deriving Repr, DecidableEq

namespace Logging

/-- A log that was never set up. -/
def initial : Logging := ⟨.warning, [], none, false, 0⟩

/-- Without the log's own handlers and without a listener. -/
def cleared (logging : Logging) : Logging :=
  { logging with handlers := logging.handlers.filter (!·.isOurs), listener := none }

/-- With a new queue and a listener that drains it. -/
def attach (logging : Logging) (sinks : List Sink) : Logging :=
  { logging with
    handlers := logging.handlers ++ [.queue logging.nextQueue]
    listener := some ⟨logging.nextQueue, sinks⟩
    configured := true
    nextQueue := logging.nextQueue + 1 }

/-- With a direct handler. -/
def direct (logging : Logging) : Logging :=
  { logging with level := .info, handlers := logging.handlers ++ [.direct] }

/-- Nothing is to be set up again. -/
def isSettled (logging : Logging) (force : Bool) : Bool := logging.configured && !force

/-- Sets the log up for a level, given the sinks that were built, or nothing if that failed. -/
def configure (logging : Logging) (level : Level) (force : Bool) (built : Option (List Sink)) :
    Logging :=
  if logging.isSettled force then logging
  else
    let fresh := { logging.cleared with level }
    match built with
    | none => fresh.direct
    | some [] => fresh
    | some sinks => fresh.attach sinks

/-- Stops the listener. Its queue stays, and loses what comes. -/
def shutdown (logging : Logging) : Logging := { logging with listener := none }

/-- The host adds a handler. -/
def addForeign (logging : Logging) (name : String) : Logging :=
  { logging with handlers := logging.handlers ++ [.foreign name] }

/-- The host takes its handlers of a name away. -/
def removeForeign (logging : Logging) (name : String) : Logging :=
  { logging with handlers := logging.handlers.filter (· != .foreign name) }

/-! ## Where entries go -/

/-- Where an entry arrives. -/
inductive Delivery where
  | sink (sink : Sink)
  | direct
  | lastResort
  deriving Repr, DecidableEq

/-- What the listener of a queue does with an entry. -/
def drained (logging : Logging) (number : Nat) (entry : Entry) : List Delivery :=
  match logging.listener with
  | some listener =>
    if listener.queue == number then
      (listener.sinks.filter (entry.level.reaches ·.threshold)).map .sink
    else []
  | none => []

/-- Where a handler passes an entry on to. -/
def passed (logging : Logging) (entry : Entry) : Handler → List Delivery
  | .queue number => logging.drained number entry
  | .direct => [.direct]
  | .foreign _ => []

/-- Where an entry arrives. One below the root's level arrives nowhere. Without any handler,
warnings and worse are still shown. -/
def deliveries (logging : Logging) (entry : Entry) : List Delivery :=
  if !entry.level.reaches logging.level then []
  else if logging.handlers.isEmpty then
    if entry.level.reaches .warning then [.lastResort] else []
  else logging.handlers.flatMap (logging.passed entry)

end Logging

end ComponentAtlas.Log
