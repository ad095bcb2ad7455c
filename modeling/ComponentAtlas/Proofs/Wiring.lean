import ComponentAtlas.Proofs.Lifecycle
import Mathlib.Logic.Relation

/-!
# Handlers and running listeners

A log remembers one listener, but a listener runs from the moment it is started until it is
stopped, remembered or not. Setting the log up is therefore told here in single moves on a wiring,
which is a log with the listeners that run: the log's own handlers are taken off the root, the
remembered listener is stopped, and then the sinks are built. If that fails, a direct handler is
put up. Otherwise a new listener is started, its queue is put up, and the listener is remembered.

The moves together do to the log what `Logging.configure` does. No move touches a handler of the
host. The laws of a wiring are that the listeners that run are those that are remembered, that the
log has at most one handler of its own, and that this is the queue of the listener if one runs.
They hold between calls, whatever was built; within a call there is never a second handler of the
log's own, nor a second listener.
-/

namespace ComponentAtlas.Log

/-- A log with the listeners that run. -/
structure Wiring where
  logging : Logging
  running : List Listener
  deriving Repr, DecidableEq

namespace Wiring

variable {wiring : Wiring}

/-- The log's own handlers at the root. -/
def ours (wiring : Wiring) : List Handler := wiring.logging.handlers.filter (·.isOurs)

/-- The host's handlers at the root. -/
def foreign (wiring : Wiring) : List Handler := wiring.logging.handlers.filter (!·.isOurs)

/-! ## Moves -/

/-- What is done to a wiring at a time. -/
inductive Move where
  | setLevel (level : Level)
  | takeDown
  | stop
  | start (listener : Listener)
  | putUpQueue (number : Nat)
  | putUpDirect
  | remember (listener : Listener)
  | settle
  deriving Repr, DecidableEq

/-- Makes a move. Stopping ends the listener that is remembered, and forgets it. -/
def Move.make (wiring : Wiring) : Move → Wiring
  | setLevel level => { wiring with logging.level := level }
  | takeDown =>
    { wiring with logging.handlers := wiring.logging.handlers.filter (!·.isOurs) }
  | stop =>
    { logging := { wiring.logging with listener := none }
      running := wiring.logging.listener.elim wiring.running wiring.running.erase }
  | start listener =>
    { logging := { wiring.logging with nextQueue := listener.queue + 1 }
      running := listener :: wiring.running }
  | putUpQueue number =>
    { wiring with logging.handlers := wiring.logging.handlers ++ [.queue number] }
  | putUpDirect =>
    { wiring with logging.handlers := wiring.logging.handlers ++ [.direct] }
  | remember listener => { wiring with logging.listener := some listener }
  | settle => { wiring with logging.configured := true }

/-- Makes moves in turn. -/
def after (wiring : Wiring) (moves : List Move) : Wiring := moves.foldl Move.make wiring

/-- The moves that follow when the sinks were built, or could not be built. -/
def movesFor (number : Nat) : Option (List Sink) → List Move
  | none => [.setLevel .info, .takeDown, .putUpDirect]
  | some [] => []
  | some sinks =>
    [.start ⟨number, sinks⟩, .putUpQueue number, .remember ⟨number, sinks⟩, .settle]

/-- The moves of a set-up. -/
def setUpMoves (wiring : Wiring) (level : Level) (built : Option (List Sink)) : List Move :=
  [.setLevel level, .takeDown, .stop] ++ movesFor wiring.logging.nextQueue built

/-- Sets the log up by its moves, unless nothing is to be set up again. -/
def configure (wiring : Wiring) (level : Level) (force : Bool) (built : Option (List Sink)) :
    Wiring :=
  if wiring.logging.isSettled force then wiring
  else wiring.after (wiring.setUpMoves level built)

/-- Stops the listener that is remembered. -/
def shutdown (wiring : Wiring) : Wiring := wiring.after [.stop]

/-- By its moves a set-up does to the log what it does at once. -/
theorem logging_configure (wiring : Wiring) (level : Level) (force : Bool)
    (built : Option (List Sink)) :
    (wiring.configure level force built).logging = wiring.logging.configure level force built := by
  rw [configure, Logging.configure]
  split
  case isTrue => rfl
  case isFalse =>
    cases built with
    | none => simp [after, setUpMoves, movesFor, Move.make, Logging.cleared, Logging.direct]
    | some sinks => cases sinks <;> rfl

/-- By its one move a shutdown does to the log what it does at once. -/
theorem logging_shutdown (wiring : Wiring) :
    wiring.shutdown.logging = wiring.logging.shutdown := rfl

/-! ## The host's handlers -/

/-- No move touches a handler of the host. -/
theorem foreign_make (wiring : Wiring) (move : Move) :
    (move.make wiring).foreign = wiring.foreign := by
  cases move <;> simp [Move.make, foreign, Handler.isOurs]

/-- So no row of moves does. -/
theorem foreign_after (wiring : Wiring) (moves : List Move) :
    (wiring.after moves).foreign = wiring.foreign := by
  induction moves generalizing wiring with
  | nil => rfl
  | cons move rest ih => exact (ih (move.make wiring)).trans (foreign_make wiring move)

/-- A set-up leaves the host's handlers as they are. -/
theorem foreign_configure (wiring : Wiring) (level : Level) (force : Bool)
    (built : Option (List Sink)) :
    (wiring.configure level force built).foreign = wiring.foreign := by
  rw [configure]
  split
  · rfl
  · exact foreign_after wiring _

/-! ## The log's own handler and its listener -/

/-- The listeners that run are those that are remembered, there is at most one handler of the
log's own, and if a listener runs it is the queue that feeds it. -/
structure Sound (wiring : Wiring) : Prop where
  remembered : wiring.running = wiring.logging.listener.toList
  single : wiring.ours.length ≤ 1
  fed : ∀ listener ∈ wiring.running, wiring.ours = [.queue listener.queue]

/-- Nothing is up and nothing runs. -/
structure Clear (wiring : Wiring) : Prop where
  down : wiring.ours = []
  quiet : wiring.running = []
  forgotten : wiring.logging.listener = none

/-- Where nothing is up and nothing runs, nothing is out of order. -/
theorem Clear.sound (clear : wiring.Clear) : wiring.Sound where
  remembered := by rw [clear.quiet, clear.forgotten, Option.toList_none]
  single := by simp [clear.down]
  fed := by simp [clear.quiet]

/-- Taken down, none of the log's own handlers is left. -/
theorem ours_takeDown (wiring : Wiring) : (Move.takeDown.make wiring).ours = [] := by
  simp [Move.make, ours]

/-- Stopping the listener that is remembered leaves none that runs. -/
theorem Sound.running_stop (sound : wiring.Sound) : (Move.stop.make wiring).running = [] := by
  have remembered := sound.remembered
  cases known : wiring.logging.listener with
  | none => simpa [Move.make, known] using remembered
  | some listener => simp [Move.make, known, remembered]

/-- The moves before the sinks are built clear a wiring. -/
theorem Sound.clear (sound : wiring.Sound) (level : Level) :
    (wiring.after [.setLevel level, .takeDown, .stop]).Clear where
  down := ours_takeDown _
  quiet := sound.running_stop
  forgotten := rfl

/-- The moves after the sinks were built, or not, leave a clear wiring in order. -/
theorem Clear.sound_movesFor (clear : wiring.Clear) (number : Nat) (built : Option (List Sink)) :
    (wiring.after (movesFor number built)).Sound := by
  have down := clear.down
  rw [ours] at down
  match built with
  | none =>
    refine ⟨?_, ?_, ?_⟩ <;>
      simp [after, movesFor, Move.make, ours, clear.quiet, clear.forgotten, Handler.isOurs]
  | some [] => exact clear.sound
  | some (sink :: rest) =>
    have up : (wiring.after (movesFor number (some (sink :: rest)))).ours = [.queue number] := by
      change (wiring.logging.handlers ++ [Handler.queue number]).filter Handler.isOurs = _
      rw [List.filter_append, down]
      rfl
    refine ⟨?_, by simp [up], ?_⟩
    · simp [after, movesFor, Move.make, clear.quiet]
    · rw [up]
      simp [after, movesFor, Move.make, clear.quiet]

/-- Moves in two rows are one row of moves. -/
theorem after_append (wiring : Wiring) (front back : List Move) :
    wiring.after (front ++ back) = (wiring.after front).after back := List.foldl_append

/-- A set-up takes everything down before it puts anything up, and leaves the wiring sound. -/
theorem Sound.configure (sound : wiring.Sound) (level : Level) (force : Bool)
    (built : Option (List Sink)) : (wiring.configure level force built).Sound := by
  rw [Wiring.configure]
  split
  case isTrue => exact sound
  case isFalse =>
    rw [setUpMoves, after_append]
    exact (sound.clear level).sound_movesFor _ built

/-- A shutdown leaves a handler without its listener, which is sound. -/
theorem Sound.shutdown (sound : wiring.Sound) : wiring.shutdown.Sound where
  remembered := sound.running_stop
  single := sound.single
  fed := by
    intro listener runs
    rw [show wiring.shutdown.running = [] from sound.running_stop] at runs
    cases runs

/-- The host may change its handlers. -/
theorem Sound.of_ours {handlers : List Handler} (sound : wiring.Sound)
    (kept : handlers.filter (·.isOurs) = wiring.ours) :
    Sound { wiring with logging.handlers := handlers } where
  remembered := sound.remembered
  single := by
    rw [ours, kept]
    exact sound.single
  fed := by
    rw [ours, kept]
    exact sound.fed

/-! ## Within a call -/

/-- There is at most one handler of the log's own and at most one listener. -/
structure Tight (wiring : Wiring) : Prop where
  single : wiring.ours.length ≤ 1
  alone : wiring.running.length ≤ 1

/-- What is sound is tight. -/
theorem Sound.tight (sound : wiring.Sound) : wiring.Tight where
  single := sound.single
  alone := by
    rw [sound.remembered]
    cases wiring.logging.listener <;> simp

/-- A move that starts a listener or puts a handler up is made when there is none. -/
def Move.Fits (wiring : Wiring) : Move → Prop
  | start _ => wiring.running = []
  | putUpQueue _ | putUpDirect => wiring.ours = []
  | _ => True

/-- A move that is made in its place keeps the wiring tight. -/
theorem Tight.make {move : Move} (tight : wiring.Tight) (fits : move.Fits wiring) :
    (move.make wiring).Tight := by
  cases move with
  | setLevel level => exact ⟨tight.single, tight.alone⟩
  | takeDown =>
    refine ⟨?_, tight.alone⟩
    rw [ours_takeDown]
    exact Nat.zero_le 1
  | stop =>
    refine ⟨tight.single, ?_⟩
    rw [Move.make]
    cases wiring.logging.listener with
    | none => exact tight.alone
    | some listener => exact Nat.le_trans List.length_erase_le tight.alone
  | start listener =>
    refine ⟨tight.single, ?_⟩
    rw [Move.make, show wiring.running = [] from fits]
    exact Nat.le_refl 1
  | putUpQueue number =>
    refine ⟨?_, tight.alone⟩
    rw [Move.make, ours, List.filter_append, show List.filter _ _ = [] from fits]
    exact Nat.le_refl 1
  | putUpDirect =>
    refine ⟨?_, tight.alone⟩
    rw [Move.make, ours, List.filter_append, show List.filter _ _ = [] from fits]
    exact Nat.le_refl 1
  | remember listener => exact ⟨tight.single, tight.alone⟩
  | settle => exact ⟨tight.single, tight.alone⟩

/-- Moves in turn each fit where they are made. -/
def Fit (wiring : Wiring) : List Move → Prop
  | [] => True
  | move :: rest => move.Fits wiring ∧ (move.make wiring).Fit rest

/-- While moves are made that fit, there is never a second handler of the log's own nor a second
listener. -/
theorem Tight.after {moves front : List Move} (tight : wiring.Tight) (fit : wiring.Fit moves)
    (part : front <+: moves) : (wiring.after front).Tight := by
  induction front generalizing wiring moves with
  | nil => exact tight
  | cons move rest ih =>
    obtain ⟨back, rfl⟩ := part
    exact ih (tight.make fit.1) fit.2 (List.prefix_append rest back)

/-- The moves of a set-up fit where they are made. -/
theorem Sound.fit (sound : wiring.Sound) (level : Level) (built : Option (List Sink)) :
    wiring.Fit (wiring.setUpMoves level built) := by
  have clear := sound.clear level
  refine ⟨trivial, trivial, trivial, ?_⟩
  match built with
  | none => exact ⟨trivial, trivial, ours_takeDown _, trivial⟩
  | some [] => trivial
  | some (sink :: rest) => exact ⟨clear.quiet, clear.down, trivial, trivial, trivial⟩

/-! ## Whatever happens -/

/-- What may happen to a wiring: the log is set up, whatever was built, or shut down, or the host
changes handlers of its own. -/
inductive Happens : Wiring → Wiring → Prop
  | configure (wiring : Wiring) (level : Level) (force : Bool) (built : Option (List Sink)) :
      Happens wiring (wiring.configure level force built)
  | shutdown (wiring : Wiring) : Happens wiring wiring.shutdown
  | host (wiring : Wiring) (handlers : List Handler)
      (kept : handlers.filter (·.isOurs) = wiring.ours) :
      Happens wiring { wiring with logging.handlers := handlers }

/-- Whatever happens to a log, its wiring stays sound. -/
theorem Sound.happens {later : Wiring} (sound : wiring.Sound) (happens : Happens wiring later) :
    later.Sound := by
  cases happens with
  | configure level force built => exact sound.configure level force built
  | shutdown => exact sound.shutdown
  | host handlers kept => exact sound.of_ours kept

/-- So it is sound whenever it is looked at. -/
theorem Sound.reaches {later : Wiring} (sound : wiring.Sound)
    (path : Relation.ReflTransGen Happens wiring later) : later.Sound := by
  induction path with
  | refl => exact sound
  | tail _ step ih => exact ih.happens step

/-- What is done to a log in a session happens to its wiring. -/
theorem exists_happens {session : Session} (same : wiring.logging = session.logging)
    (event : Session.Event) :
    ∃ later, Happens wiring later ∧ later.logging = (event.carryOut.run session).2.logging := by
  cases event with
  | configure settings force =>
    obtain ⟨built, -, changed⟩ := Session.logging_configureLogging settings force session
    refine ⟨_, .configure wiring settings.level force built, ?_⟩
    rw [logging_configure, same, Session.Event.carryOut, changed]
  | shutdown => exact ⟨_, .shutdown wiring, by rw [logging_shutdown, same]; rfl⟩
  | addForeign name =>
    refine ⟨_, .host wiring (wiring.logging.handlers ++ [.foreign name]) ?_, ?_⟩
    · simp [ours, Handler.isOurs]
    · rw [same]
      rfl
  | removeForeign name =>
    refine ⟨_, .host wiring (wiring.logging.handlers.filter (· != .foreign name)) ?_, ?_⟩
    · rw [ours, List.filter_filter]
      apply List.filter_congr
      rintro (number | _ | other) _ <;> simp [Handler.isOurs]
    · rw [same]
      rfl

/-- What is done to a log in the course of a session happens to its wiring in turn. -/
theorem exists_reaches {session : Session} (same : wiring.logging = session.logging)
    (events : List Session.Event) :
    ∃ later, Relation.ReflTransGen Happens wiring later ∧
      later.logging = (session.after events).logging := by
  induction events generalizing wiring session with
  | nil => exact ⟨wiring, .refl, same⟩
  | cons event rest ih =>
    obtain ⟨next, step, kept⟩ := exists_happens same event
    obtain ⟨later, path, reached⟩ := ih kept
    exact ⟨later, .head step path, reached⟩

/-- Starting with handlers of the host only and no listener, and whatever happens, the log has at
most one handler of its own and at most one listener runs; if one does, the log's own handler is
the queue that feeds it. No call touches a handler of the host, and at no time within a call there
is a second handler of the log's own or a second listener. What is done to a log in a session is
among what may happen. -/
theorem one_handler_one_listener {start : Wiring} (foreign : start.ours = [])
    (unlistened : start.logging.listener = none) (quiet : start.running = []) :
    (∀ wiring, Relation.ReflTransGen Happens start wiring →
      wiring.ours.length ≤ 1 ∧ wiring.running.length ≤ 1 ∧
      (∀ listener ∈ wiring.running, wiring.ours = [.queue listener.queue]) ∧
      (∀ level force built,
        (wiring.configure level force built).foreign = wiring.foreign) ∧
      wiring.shutdown.foreign = wiring.foreign ∧
      ∀ level built front, front <+: wiring.setUpMoves level built →
        (wiring.after front).foreign = wiring.foreign ∧
        (wiring.after front).ours.length ≤ 1 ∧ (wiring.after front).running.length ≤ 1) ∧
    ∀ session : Session, start.logging = session.logging → ∀ events,
      ∃ wiring, Relation.ReflTransGen Happens start wiring ∧
        wiring.logging = (session.after events).logging := by
  have clear : start.Clear := ⟨foreign, quiet, unlistened⟩
  refine ⟨?_, fun session same events => exists_reaches same events⟩
  intro wiring path
  have sound : wiring.Sound := clear.sound.reaches path
  refine ⟨sound.single, sound.tight.alone, sound.fed, foreign_configure wiring,
    foreign_after wiring _, ?_⟩
  intro level built front part
  have tight := sound.tight.after (sound.fit level built) part
  exact ⟨foreign_after wiring front, tight.single, tight.alone⟩

/-- Set up with a console beside a handler of the host, the log has one queue, which its listener
drains. Forced again without success it has the direct handler instead and no listener, and the
host's handler is still there. -/
theorem one_handler_one_listener_refused :
    let start : Wiring := ⟨{ Logging.initial with handlers := [.foreign "NullHandler"] }, []⟩
    let first := start.configure .info false (some [.console .info ⟨"%(message)s", ""⟩])
    let later := first.configure .debug true none
    start.ours = [] ∧ start.logging.listener = none ∧ start.running = [] ∧
      first.running.map (·.queue) = [0] ∧ first.ours = [.queue 0] ∧
      later.ours = [.direct] ∧ later.running.length ≤ 1 ∧
      later.foreign = [.foreign "NullHandler"] := by
  intro start first later
  have laws := (@one_handler_one_listener start rfl rfl rfl).1
  have once : Relation.ReflTransGen Happens start first := .single (.configure start _ _ _)
  have twice : Relation.ReflTransGen Happens start later := .tail once (.configure first _ _ _)
  have runs : ∃ listener ∈ first.running, listener.queue = 0 := ⟨_, List.mem_cons_self, rfl⟩
  obtain ⟨listener, member, number⟩ := runs
  refine ⟨rfl, rfl, rfl, rfl, ?_, by decide, (laws later twice).2.1, ?_⟩
  · rw [(laws first once).2.2.1 listener member, number]
  · rw [(laws first once).2.2.2.1, (laws start .refl).2.2.2.1]
    rfl

end Wiring

end ComponentAtlas.Log
