import ComponentAtlas.Proofs.Lifecycle

/-!
# Whether entries are written

An entry is written if it comes to a queue that is drained, or to the direct handler. Setting the
log up with a console brings one or the other about, except where it does nothing because the log
was set up before. Then the log is as it was: it may have been shut down in the meantime, or set
up without any sink, and entries are lost.
-/

namespace ComponentAtlas.Log.Logging

open Session (AskedFor Event)

variable {logging : Logging}

/-- A listener drains a queue to which entries come, or they come to the direct handler. -/
def Live (logging : Logging) : Prop :=
  (∃ listener ∈ logging.listener, .queue listener.queue ∈ logging.handlers) ∨
    .direct ∈ logging.handlers

/-- The listener is looked up, and then the handlers. -/
instance (logging : Logging) : Decidable logging.Live :=
  inferInstanceAs (Decidable (_ ∨ _))

/-- The log counts as set up, but nothing writes what it is given. -/
structure Stranded (logging : Logging) : Prop where
  configured : logging.configured = true
  unlistened : logging.listener = none
  indirect : .direct ∉ logging.handlers

/-! ## What a listener drains -/

/-- The listener drains a queue to which entries come, into sinks that write all that the root
lets pass. The log counts as set up, and nothing but the queue takes entries. -/
structure Drains (logging : Logging) (listener : Listener) : Prop where
  fed : .queue listener.queue ∈ logging.handlers
  filled : listener.sinks ≠ []
  level : ∀ sink ∈ listener.sinks, sink.threshold = logging.level
  configured : logging.configured = true
  indirect : .direct ∉ logging.handlers

/-- A listener that runs has something to drain. -/
def Linked (logging : Logging) : Prop := ∀ listener ∈ logging.listener, logging.Drains listener

/-- Where no listener runs, nothing has to be drained. -/
theorem linked_of_unlistened (unlistened : logging.listener = none) : logging.Linked := by
  simp [Linked, unlistened]

/-- The host's handlers may come and go. -/
theorem Linked.of_ours {handlers : List Handler} (linked : logging.Linked)
    (kept : ∀ handler, handler.isOurs = true → (handler ∈ handlers ↔ handler ∈ logging.handlers)) :
    Linked { logging with handlers } := by
  intro listener runs
  have drains := linked listener runs
  exact { drains with
    fed := (kept _ rfl).mpr drains.fed
    indirect := fun present => drains.indirect ((kept _ rfl).mp present) }

/-- A handler of the host may be added. -/
theorem Linked.addForeign (name : String) (linked : logging.Linked) :
    (logging.addForeign name).Linked := by
  refine linked.of_ours fun handler ours => ?_
  cases handler <;> simp_all [Handler.isOurs]

/-- It may be taken away again. -/
theorem Linked.removeForeign (name : String) (linked : logging.Linked) :
    (logging.removeForeign name).Linked := by
  refine linked.of_ours fun handler ours => ?_
  cases handler <;> simp_all [Handler.isOurs]

/-- A log that is cleared has no direct handler. -/
theorem direct_not_mem_cleared : .direct ∉ logging.cleared.handlers := by
  simp [cleared, Handler.isOurs]

/-- A listener that is attached drains the queue that is put up with it. -/
theorem drains_attach {sinks : List Sink} (filled : sinks ≠ [])
    (level : ∀ sink ∈ sinks, sink.threshold = logging.level)
    (indirect : .direct ∉ logging.handlers) :
    (logging.attach sinks).Drains ⟨logging.nextQueue, sinks⟩ :=
  { fed := List.mem_append_right _ List.mem_cons_self
    filled
    level
    configured := rfl
    indirect := by simp [attach, indirect] }

/-- A set-up attaches a listener to sinks that write all that passes, or leaves none. -/
theorem Linked.configure {settings : Settings} {built : Option (List Sink)}
    (asked : ∀ sinks ∈ built, AskedFor settings sinks) (force : Bool) (linked : logging.Linked) :
    (logging.configure settings.level force built).Linked := by
  rw [Logging.configure]
  split
  case isTrue => exact linked
  case isFalse =>
    split
    case h_1 => exact linked_of_unlistened rfl
    case h_2 => exact linked_of_unlistened rfl
    case h_3 sinks filled =>
      rintro listener ⟨⟩
      exact drains_attach (by simpa using filled) (asked sinks rfl).level direct_not_mem_cleared

/-- Whatever is done to a log on which no listener runs, a listener that runs later has something
to drain. -/
theorem linked_after {session : Session} (unlistened : session.logging.listener = none)
    (events : List Event) : (session.after events).logging.Linked :=
  Session.after_induction (linked_of_unlistened unlistened)
    (fun asked force => Linked.configure asked force)
    (fun _ => linked_of_unlistened rfl)
    (fun name => Linked.addForeign name) (fun name => Linked.removeForeign name) events

/-- A log that counts as set up is live or stranded. -/
theorem Linked.live_iff (linked : logging.Linked) (configured : logging.configured = true) :
    logging.Live ↔ ¬logging.Stranded := by
  constructor
  · rintro (⟨listener, runs, -⟩ | direct) stranded
    · exact absurd (stranded.unlistened ▸ runs) (by simp)
    · exact stranded.indirect direct
  · intro safe
    by_cases direct : .direct ∈ logging.handlers
    · exact .inr direct
    · obtain ⟨listener, runs⟩ : ∃ listener, logging.listener = some listener :=
        Option.ne_none_iff_exists'.mp fun unlistened => safe ⟨configured, unlistened, direct⟩
      exact .inl ⟨listener, runs, (linked listener runs).fed⟩

/-! ## Where entries arrive -/

/-- What arrives elsewhere than at the last resort was passed on by a handler. -/
theorem mem_deliveries {entry : Entry} {arrival : Delivery} (handled : arrival ≠ .lastResort) :
    arrival ∈ logging.deliveries entry ↔
      entry.level.reaches logging.level ∧
        ∃ handler ∈ logging.handlers, arrival ∈ logging.passed entry handler := by
  cases reaches : entry.level.reaches logging.level with
  | false => simp [deliveries, reaches]
  | true =>
    cases none : logging.handlers with
    | nil => simp [deliveries, reaches, none, handled]
    | cons => simp [deliveries, reaches, none]

/-- A queue that takes an entry is drained into the sinks that write from the entry's level on. -/
theorem mem_passed_queue {number : Nat} {entry : Entry} {arrival : Delivery} :
    arrival ∈ logging.passed entry (.queue number) ↔
      ∃ listener ∈ logging.listener, listener.queue = number ∧
        ∃ sink ∈ listener.sinks, entry.level.reaches sink.threshold ∧ .sink sink = arrival := by
  rw [passed, drained]
  cases logging.listener with
  | none => simp
  | some listener =>
    by_cases same : listener.queue = number <;> simp [same, and_assoc]

/-- What handlers pass on comes from a drained queue or from the direct handler. -/
theorem live_of_passed {entry : Entry} {handler : Handler} {arrival : Delivery}
    (present : handler ∈ logging.handlers) (passes : arrival ∈ logging.passed entry handler) :
    logging.Live := by
  cases handler with
  | queue number =>
    obtain ⟨listener, runs, rfl, -⟩ := mem_passed_queue.mp passes
    exact .inl ⟨listener, runs, present⟩
  | direct => exact .inr present
  | foreign name => simp [passed] at passes

/-- Where the log is live, what passes arrives, and not at the last resort. -/
theorem arrives_of_live {entry : Entry} (linked : logging.Linked) (live : logging.Live)
    (reaches : entry.level.reaches logging.level) :
    ∃ arrival ∈ logging.deliveries entry, arrival ≠ .lastResort := by
  rcases live with ⟨listener, runs, fed⟩ | direct
  · have drains := linked listener runs
    obtain ⟨sink, present⟩ := List.exists_mem_of_ne_nil _ drains.filled
    have writes : entry.level.reaches sink.threshold := drains.level sink present ▸ reaches
    refine ⟨.sink sink, (mem_deliveries (by simp)).mpr ⟨reaches, _, fed, ?_⟩, by simp⟩
    exact mem_passed_queue.mpr ⟨listener, runs, rfl, sink, present, writes, rfl⟩
  · refine ⟨.direct, (mem_deliveries (by simp)).mpr ⟨reaches, _, direct, ?_⟩, by simp⟩
    exact List.mem_singleton.mpr rfl

/-- Every level reaches the most severe one. -/
theorem reaches_critical (threshold : Level) : Level.critical.reaches threshold := by
  cases threshold <;> rfl

/-- A log is live exactly if every entry that the root lets pass arrives somewhere other than at
the last resort. -/
theorem live_iff_arrives (linked : logging.Linked) :
    logging.Live ↔ ∀ entry : Entry, entry.level.reaches logging.level →
      ∃ arrival ∈ logging.deliveries entry, arrival ≠ .lastResort := by
  constructor
  · intro live entry reaches
    exact arrives_of_live linked live reaches
  · intro arrives
    obtain ⟨arrival, delivered, handled⟩ :=
      arrives ⟨.critical, "", ""⟩ (reaches_critical logging.level)
    obtain ⟨-, handler, present, passes⟩ := (mem_deliveries handled).mp delivered
    exact live_of_passed present passes

/-! ## Setting the log up -/

/-- What is set up with a console, or cannot be set up, is live. -/
theorem live_configure {settings : Settings} {force : Bool} {built : Option (List Sink)}
    (wanted : settings.console = true) (asked : ∀ sinks ∈ built, AskedFor settings sinks)
    (unsettled : logging.isSettled force = false) :
    (logging.configure settings.level force built).Live := by
  rw [Logging.configure, if_neg (by simp [unsettled])]
  split
  case h_1 => exact .inr (List.mem_append_right _ List.mem_cons_self)
  case h_2 => exact absurd ((asked [] rfl).console wanted) List.not_mem_nil
  case h_3 => exact .inl ⟨_, rfl, List.mem_append_right _ List.mem_cons_self⟩

/-- Without force, what is stranded stays so. With force, and wherever the log is not stranded,
setting it up with a console makes it live. -/
theorem Linked.live_configure_iff {settings : Settings} {built : Option (List Sink)}
    (wanted : settings.console = true) (asked : ∀ sinks ∈ built, AskedFor settings sinks)
    (force : Bool) (linked : logging.Linked) :
    (logging.configure settings.level force built).Live ↔ force = true ∨ ¬logging.Stranded := by
  cases settled : logging.isSettled force with
  | false =>
    refine iff_of_true (live_configure wanted asked settled) ?_
    cases force with
    | true => exact .inl rfl
    | false => exact .inr fun stranded => by simp [isSettled, stranded.configured] at settled
  | true =>
    obtain ⟨configured, gentle⟩ : logging.configured = true ∧ force = false := by
      simpa [isSettled] using settled
    rw [Logging.configure, if_pos settled, linked.live_iff configured]
    simp [gentle]

/-- Whatever was done to a log on which no listener ran, setting it up with a console makes it
live, unless it is stranded and no force is used. A log is live exactly if every entry that the
root lets pass arrives at a sink or at the direct handler. -/
theorem live_after_configure {session : Session} {settings : Settings}
    (unlistened : session.logging.listener = none) (wanted : settings.console = true)
    (events : List Event) (force : Bool) :
    let before := (session.after events).logging
    let later := (session.after (events ++ [.configure settings force])).logging
    (later.Live ↔ force = true ∨ ¬before.Stranded) ∧
      (later.Live ↔ ∀ entry : Entry, entry.level.reaches later.level →
        ∃ arrival ∈ later.deliveries entry, arrival ≠ .lastResort) := by
  refine ⟨?_, live_iff_arrives (linked_after unlistened _)⟩
  obtain ⟨built, asked, changed⟩ :=
    Session.logging_configureLogging settings force (session.after events)
  rw [Session.after_append, Session.after_singleton, Event.carryOut, changed]
  exact (linked_after unlistened events).live_configure_iff wanted asked force

/-- With force, a log that was shut down is live again. -/
theorem live_after_forced_restart :
    let session := Session.start ⟨.directory true [], "/"⟩ ⟨0⟩
    let earlier : List Event := [.configure .standard false, .shutdown]
    let later := (session.after (earlier ++ [.configure .standard true])).logging
    session.logging.listener = none ∧ Settings.standard.console = true ∧ later.Live ∧
      ∀ entry : Entry, entry.level.reaches later.level →
        ∃ arrival ∈ later.deliveries entry, arrival ≠ .lastResort := by
  intro session earlier later
  have restarted := @live_after_configure session .standard rfl rfl earlier true
  have live : later.Live := restarted.1.mpr (.inl rfl)
  exact ⟨rfl, rfl, live, restarted.2.mp live⟩

/-- Wherever a listener runs, a restart without force strands the log, whatever the settings. -/
theorem stranded_restart {session : Session} (unlistened : session.logging.listener = none)
    (events : List Event) (listened : (session.after events).logging.listener ≠ none)
    (settings : Settings) :
    ((session.after events).after [.shutdown, .configure settings false]).logging.Stranded := by
  obtain ⟨listener, runs⟩ := Option.ne_none_iff_exists'.mp listened
  have drains := linked_after unlistened events listener runs
  have stopped : ((session.after events).after [.shutdown]).logging.Stranded :=
    ⟨drains.configured, rfl, drains.indirect⟩
  obtain ⟨built, -, changed⟩ := Session.logging_configureLogging settings false
    ((session.after events).after [.shutdown])
  have settled := stopped.configured
  rw [← List.singleton_append, Session.after_append, Session.after_singleton, Event.carryOut,
    changed, Logging.configure, if_pos (by simp [isSettled, settled])]
  exact stopped

/-- An error that is logged after such a restart is lost. -/
theorem lost_after_restart :
    let session := Session.start ⟨.directory true [], "/"⟩ ⟨0⟩
    let earlier : List Event := [.configure .standard false, .shutdown]
    let later := (session.after (earlier ++ [.configure .standard false])).logging
    Settings.standard.console = true ∧ ¬later.Live ∧
      later.deliveries ⟨.error, "component_inventory", "seen"⟩ = [] := by
  decide +kernel

end ComponentAtlas.Log.Logging
