import ComponentAtlas.Session

/-!
# The life of a log

What is done to a log in the course of time: it is set up, with or without force, and shut down,
and the host adds and takes away handlers of its own. Everything else that a session does leaves
the log as it is. So setting the log up changes it by one operation on the log alone, which is
given the sinks that were built, and what holds of every log that was reached is shown for each
of four operations.
-/

namespace ComponentAtlas.Session

/-! ## Steps that leave the log alone -/

/-- The step leaves the log as it is, and gives a value of which something is known. -/
def Keeps {α : Type} (step : Step α) (known : α → Prop) : Prop :=
  ∀ session, (step.run session).2.logging = session.logging ∧ known (step.run session).1

section

variable {α β : Type}

/-- A value that is there needs no step. -/
theorem keeps_pure {value : α} {known : α → Prop} (here : known value) :
    Keeps (pure value : Step α) known := fun _ => ⟨rfl, here⟩

/-- Looking at the session leaves the log alone. -/
theorem keeps_get : Keeps (get : Step Session) fun _ => True := fun _ => ⟨rfl, trivial⟩

/-- Two steps in turn leave the log alone if each does. -/
theorem keeps_bind {first : Step α} {next : α → Step β} {known : α → Prop} {result : β → Prop}
    (one : Keeps first known) (other : ∀ value, known value → Keeps (next value) result) :
    Keeps (first >>= next) result := by
  intro session
  obtain ⟨kept, here⟩ := one session
  obtain ⟨later, there⟩ := other _ here (first.run session).2
  exact ⟨later.trans kept, there⟩

/-- So does all that is done on the disk. -/
theorem keeps_onDisk {ε : Type} (action : ExceptT ε (StateM Disk) α) :
    Keeps (onDisk action) fun _ => True := fun _ => ⟨rfl, trivial⟩

/-- So does a line on the stream for errors. -/
theorem keeps_complain (line : String) : Keeps (complain line) fun _ => True :=
  fun _ => ⟨rfl, trivial⟩

end

/-- Wherever an entry arrives, it is written without a change of the log. -/
theorem keeps_deliver (entry : Log.Entry) (arrival : Log.Logging.Delivery) :
    Keeps (deliver entry arrival) fun _ => True := by
  cases arrival with
  | sink sink =>
    cases sink with
    | console threshold format =>
      refine keeps_bind keeps_get fun session _ => ?_
      split
      · exact fun _ => ⟨rfl, trivial⟩
      · exact keeps_pure trivial
    | file threshold format path maxBytes backupCount =>
      refine keeps_bind keeps_get fun session _ => ?_
      split
      · exact keeps_bind (keeps_onDisk _) fun _ _ => keeps_pure trivial
      · exact keeps_pure trivial
  | direct =>
    refine keeps_bind keeps_get fun session _ => ?_
    split
    · exact keeps_complain _
    · exact keeps_pure trivial
  | lastResort => exact keeps_complain _

/-- Steps for the values of a row leave the log alone if each does. -/
theorem keeps_forM {α : Type} {step : α → Step Unit} (values : List α)
    (each : ∀ value, Keeps (step value) fun _ => True) :
    Keeps (values.forM step) fun _ => True := by
  induction values with
  | nil => exact keeps_pure trivial
  | cons value rest ih => exact keeps_bind (each value) fun _ _ => ih

/-- An entry is delivered, and the log stays as it is. -/
theorem keeps_log (entry : Log.Entry) : Keeps (log entry) fun _ => True :=
  keeps_bind keeps_get fun _ _ => keeps_forM _ (keeps_deliver entry)

/-! ## Building sinks -/

/-- An opened log file writes from the level of the settings on. -/
theorem keeps_openLogFile (settings : Log.Settings) (path : String) :
    Keeps (openLogFile settings path) fun opening =>
      ∀ sink, opening = .opened sink → sink.threshold = settings.level := by
  refine keeps_bind keeps_get fun session _ => ?_
  refine keeps_bind (keeps_onDisk _) fun made _ => ?_
  split
  · exact keeps_pure (by simp)
  · split
    · refine keeps_bind (keeps_onDisk _) fun opened _ => ?_
      split
      · exact keeps_pure (by simp)
      · refine keeps_pure ?_
        rintro sink ⟨⟩
        rfl
    · exact keeps_pure (by simp)

/-- The sinks are what the settings ask for: all of them write from their level on, and the
console is among them if it is wanted. -/
structure AskedFor (settings : Log.Settings) (sinks : List Log.Sink) : Prop where
  level : ∀ sink ∈ sinks, sink.threshold = settings.level
  console : settings.console = true →
    .console settings.level ⟨settings.shownFormat, ""⟩ ∈ sinks

/-- Sinks for files write from the level of the settings on. -/
theorem keeps_fileSinks (settings : Log.Settings) :
    Keeps (fileSinks settings) fun built =>
      ∀ sinks ∈ built, ∀ sink ∈ sinks, sink.threshold = settings.level := by
  rw [fileSinks]
  split
  · exact keeps_pure (by simp)
  · split
    · exact keeps_pure (by simp)
    · refine keeps_bind (keeps_openLogFile settings _) fun opening level => ?_
      split
      · exact keeps_pure (by simpa using level)
      · exact keeps_bind (keeps_complain _) fun _ _ => keeps_pure (by simp)
      · exact keeps_pure (by simp)

/-- The sinks for the console are what the settings ask for. -/
theorem askedFor_consoleSinks {settings : Log.Settings} {sinks : List Log.Sink}
    (built : consoleSinks settings = some sinks) : AskedFor settings sinks := by
  rw [consoleSinks] at built
  split at built
  case isTrue silent =>
    cases built
    exact ⟨List.forall_mem_nil _, fun wanted => by simp [wanted] at silent⟩
  case isFalse =>
    split at built
    · cases built
      exact ⟨List.forall_mem_singleton.mpr rfl, fun _ => List.mem_cons_self⟩
    · cases built

/-- The sinks that are built are what the settings ask for, and the log is left alone till they are
used. -/
theorem keeps_buildSinks (settings : Log.Settings) :
    Keeps (buildSinks settings) fun built => ∀ sinks ∈ built, AskedFor settings sinks := by
  rw [buildSinks]
  split
  · exact keeps_pure (by simp)
  case h_2 console built =>
    have asked := askedFor_consoleSinks built
    refine keeps_bind (keeps_fileSinks settings) fun file level => keeps_pure ?_
    intro sinks whole
    obtain ⟨found, present, rfl⟩ := Option.map_eq_some_iff.mp whole
    refine ⟨?_, fun wanted => List.mem_append_left _ (asked.console wanted)⟩
    exact List.forall_mem_append.mpr ⟨asked.level, level found present⟩

/-! ## What is done to a log -/

/-- Sets the log up, whatever was done before. -/
def setUp (settings : Log.Settings) (force : Bool) : Step Unit := do
  let built ← buildSinks settings
  modify fun session =>
    { session with logging := session.logging.configure settings.level force built }
  if built.isNone then log setupWarning

/-- A log that is settled is not set up again. -/
theorem run_configureLogging (settings : Log.Settings) (force : Bool) (session : Session) :
    (configureLogging settings force).run session =
      if session.logging.isSettled force then ((), session)
      else (setUp settings force).run session := by
  change (if session.logging.isSettled force then pure () else _ : Step Unit).run session = _
  split <;> rfl

/-- Setting the log up changes it by one operation, with what was built of the sinks that the
settings ask for. -/
theorem logging_configureLogging (settings : Log.Settings) (force : Bool) (session : Session) :
    ∃ built : Option (List Log.Sink), (∀ sinks ∈ built, AskedFor settings sinks) ∧
      ((configureLogging settings force).run session).2.logging =
        session.logging.configure settings.level force built := by
  rw [run_configureLogging]
  split
  case isTrue settled => exact ⟨none, by simp, by rw [Log.Logging.configure, if_pos settled]⟩
  case isFalse =>
    obtain ⟨kept, asked⟩ := keeps_buildSinks settings session
    refine ⟨_, asked, ?_⟩
    have warned : ∀ built : Option (List Log.Sink),
        Keeps (if built.isNone then log setupWarning else pure ()) fun _ => True := by
      intro built
      split
      · exact keeps_log setupWarning
      · exact keeps_pure trivial
    rw [← kept]
    exact (warned _ _).1

/-- What may be done to a log. -/
inductive Event where
  | configure (settings : Log.Settings) (force : Bool)
  | shutdown
  | addForeign (name : String)
  | removeForeign (name : String)
  deriving Repr

/-- Does what is to be done. -/
def Event.carryOut : Event → Step Unit
  | configure settings force => configureLogging settings force
  | shutdown => shutdownLogging
  | addForeign name =>
    modify fun session => { session with logging := session.logging.addForeign name }
  | removeForeign name =>
    modify fun session => { session with logging := session.logging.removeForeign name }

/-- The session after events in turn. -/
def after (session : Session) (events : List Event) : Session :=
  events.foldl (fun session event => (event.carryOut.run session).2) session

/-- Events in two rows are one row of events. -/
theorem after_append (session : Session) (first second : List Event) :
    session.after (first ++ second) = (session.after first).after second := List.foldl_append

/-- After one event the session is what that event has left. -/
theorem after_singleton (session : Session) (event : Event) :
    session.after [event] = (event.carryOut.run session).2 := rfl

/-- What holds of a log at first and is kept by each of four operations holds after all events.
The induction is on the events, with the session left open. -/
theorem after_induction {holds : Log.Logging → Prop} {session : Session}
    (start : holds session.logging)
    (configure : ∀ {logging settings built}, (∀ sinks ∈ built, AskedFor settings sinks) →
      ∀ force, holds logging → holds (logging.configure settings.level force built))
    (shutdown : ∀ {logging}, holds logging → holds logging.shutdown)
    (addForeign : ∀ {logging} name, holds logging → holds (logging.addForeign name))
    (removeForeign : ∀ {logging} name, holds logging → holds (logging.removeForeign name))
    (events : List Event) : holds (session.after events).logging := by
  induction events generalizing session with
  | nil => exact start
  | cons event rest ih =>
    refine @ih (event.carryOut.run session).2 ?_
    cases event with
    | configure settings force =>
      obtain ⟨built, asked, changed⟩ := logging_configureLogging settings force session
      rw [Event.carryOut, changed]
      exact configure asked force start
    | shutdown => exact shutdown start
    | addForeign name => exact addForeign name start
    | removeForeign name => exact removeForeign name start

end ComponentAtlas.Session
