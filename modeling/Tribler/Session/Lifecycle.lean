import Tribler.Session.Init
import Mathlib.Data.List.Count
import Mathlib.Data.List.Nodup

/-!
# `Session.start` and `Session.shutdown`: the calls, in order, and where they stop

Both methods are straight-line sequences of calls to collaborators (the REST manager, the
SOCKS servers, the download manager, the community loader, IPv8, the databases); the shutdown
puts a `notifier.notify(Notification.tribler_shutdown_state, ...)` before each phase.  A call
may raise, and neither method catches anything, so the first call that raises ends the method
and its exception propagates.  `runEvents` runs such a sequence of events:

    (runEvents raises es).exec t = (.ok (), t ++ es)           if no call of es raises
                                                              (exec_runEvents_of_forall)
    (runEvents raises (pre ++ .call c :: post)).exec t = (.error c, t ++ pre ++ [.call c])
                                  if c raises and no call of pre does (exec_runEvents_of_first_raise)

and the shutdown is the run of its phases, in the order of the source:

    Session.shutdown raises s = runEvents raises (shutdownEvents s)   (shutdown_eq_runEvents)

so a stop that raises leaves every later subsystem running.  The start is the run of
`startBody` and then the REST manager's start, so the REST manager starts only once every
earlier call has returned, and nothing is stopped when a start raises; whatever a start started,
the shutdown's phases stop exactly once.  A session has one SOCKS server per configured
`libtorrent/socks_listen_ports` entry, and its start hands their ports to the download manager
only after every server's start has been called.
-/

namespace Tribler

/-! ## Calls and events -/

/-- A subsystem the session starts or stops; `socksServer k` is the `k`-th server object. -/
inductive Subsystem where
  | torrentChecker
  | ipv8
  | downloadManager
  | socksServer (k : Nat)
  | db
  | mds
  | restManager
deriving DecidableEq, Repr

/-- A call to a collaborator, the kind of step that may raise. -/
inductive Call where
  /-- `rest_manager.add_endpoint(<endpoint>(...))`. -/
  | addEndpoint (endpoint : String)
  /-- `<target>.initialize(...)`. -/
  | init (target : String)
  /-- `loader.set_launcher(<component>())`. -/
  | setLauncher (component : String)
  /-- `loader.load(self.ipv8, self)`. -/
  | load
  /-- `...endpoints["/overlays"].enable_overlay_statistics(True, None, True)`. -/
  | enableOverlayStatistics
  | start (s : Subsystem)
  | stop (s : Subsystem)
deriving DecidableEq, Repr

/-- What the lifecycle methods do, as observed from outside. -/
inductive Event where
  /-- `notifier.notify(Notification.tribler_shutdown_state, state=...)`. -/
  | notify (state : String)
  /-- `self.download_manager.socks_listen_ports = [s.port for s in self.socks_servers]`: the
  port each server's `start` left in `s.port`.  `Socks5Server.start` binds the port and is not in
  the source, so the values are not modelled. -/
  | socksListenPorts
  | call (c : Call)
deriving DecidableEq, Repr

/-- The lifecycle methods: they record their events and may raise at a call. -/
abbrev LifeM := ExceptT Call (StateM (List Event))

/-- Running `x` after the events `trace`: its result or the call that raised, and the events. -/
def LifeM.exec {α : Type} (x : LifeM α) (trace : List Event) : Except Call α × List Event :=
  x.run.run trace

/-- An event that cannot raise. -/
def emit (e : Event) : LifeM Unit := modify (· ++ [e])

/-- A call; `raises` says which calls raise. -/
def call (raises : Call → Bool) (c : Call) : LifeM Unit := do
  emit (.call c)
  if raises c then throw c

/-! ## Running a sequence of events -/

/-- One event; only a call may raise. -/
def runEvent (raises : Call → Bool) : Event → LifeM Unit
  | .call c => call raises c
  | e => emit e

/-- A sequence of events, in order, ending at the first call that raises. -/
def runEvents (raises : Call → Bool) (es : List Event) : LifeM Unit := es.forM (runEvent raises)

/-! ## `Session.start` -/

/-- `Session.register_rest_endpoints`. -/
def Session.registerRestEndpoints (raises : Call → Bool) : LifeM Unit := do
  call raises (.addEndpoint "CreateTorrentEndpoint")
  call raises (.addEndpoint "DownloadsEndpoint")
  call raises (.addEndpoint "EventsEndpoint")
  call raises (.addEndpoint "IPv8RootEndpoint")
  call raises (.init "IPv8RootEndpoint")
  call raises (.addEndpoint "LibTorrentEndpoint")
  call raises (.addEndpoint "SettingsEndpoint")
  call raises (.addEndpoint "ShutdownEndpoint")
  call raises (.addEndpoint "StatisticsEndpoint")
  call raises (.addEndpoint "TorrentInfoEndpoint")

/-- `Session.register_launchers`. -/
def Session.registerLaunchers (raises : Call → Bool) : LifeM Unit := do
  call raises (.setLauncher "ContentDiscoveryComponent")
  call raises (.setLauncher "DatabaseComponent")
  call raises (.setLauncher "DHTDiscoveryComponent")
  call raises (.setLauncher "KnowledgeComponent")
  call raises (.setLauncher "RendezvousComponent")
  call raises (.setLauncher "TorrentCheckerComponent")
  call raises (.setLauncher "TunnelComponent")

/-- `Session.start`; `statistics` is what `self.config.get("statistics")` is truthy as. -/
def Session.start (raises : Call → Bool) (statistics : Bool) (s : Session) : LifeM Unit := do
  Session.registerRestEndpoints raises
  (List.range s.socksServers.length).forM fun k => call raises (.start (.socksServer k))
  emit .socksListenPorts
  call raises (.init "DownloadManager")
  call raises (.start .downloadManager)
  Session.registerLaunchers raises
  call raises .load
  call raises (.start .ipv8)
  if statistics then call raises .enableOverlayStatistics
  call raises (.start .restManager)

/-! ## `Session.shutdown` -/

/-- A notification of `tribler_shutdown_state`. -/
def notify (state : String) : LifeM Unit := emit (.notify state)

/-- `Session.shutdown`.  `if self.ipv8:` is always taken: `__init__` always builds IPv8, and an
`IPv8` object is truthy. -/
def Session.shutdown (raises : Call → Bool) (s : Session) : LifeM Unit := do
  if s.torrentChecker then
    notify "Shutting down torrent checker."
    call raises (.stop .torrentChecker)
  notify "Shutting down IPv8 peer-to-peer overlays."
  call raises (.stop .ipv8)
  notify "Shutting down download manager."
  call raises (.stop .downloadManager)
  notify "Shutting down local SOCKS5 interface."
  (List.range s.socksServers.length).forM fun k => call raises (.stop (.socksServer k))
  if s.db then
    notify "Shutting down general-purpose database."
    call raises (.stop .db)
  if s.mds then
    notify "Shutting down metadata database."
    call raises (.stop .mds)
  notify "Shutting down GUI connection. Going dark."
  call raises (.stop .restManager)

/-! ## Runs of the primitives -/

namespace LifeM

section
variable {α β : Type} (t : List Event)

@[simp] theorem exec_pure (a : α) : (pure a : LifeM α).exec t = (.ok a, t) := rfl

theorem exec_bind (x : LifeM α) (f : α → LifeM β) :
    (x >>= f).exec t = match x.exec t with
      | (.ok a, t') => (f a).exec t'
      | (.error e, t') => (.error e, t') := by
  simp only [LifeM.exec, ExceptT.run_bind, StateT.run_bind]
  rcases x.run.run t with ⟨_ | _, _⟩ <;> rfl

/-- A `do` block's `if` without `else` runs the rest in both branches. -/
theorem ite_bind (c : Prop) [Decidable c] (x y : LifeM α) (f : α → LifeM β) :
    ((if c then x else y) >>= f) = if c then x >>= f else y >>= f := by
  split <;> rfl

end

end LifeM

section
variable (raises : Call → Bool) (t : List Event)

@[simp] theorem exec_emit (e : Event) : (emit e).exec t = (.ok (), t ++ [e]) := rfl

theorem exec_call (c : Call) :
    (call raises c).exec t = (if raises c then .error c else .ok (), t ++ [.call c]) := by
  unfold call
  rw [LifeM.exec_bind]
  cases raises c <;> rfl

theorem exec_runEvent_of_not_raises {e : Event} (h : ∀ c, e = .call c → raises c = false) :
    (runEvent raises e).exec t = (.ok (), t ++ [e]) := by
  cases e <;> simp [runEvent, exec_call, h]

theorem runEvents_cons (e : Event) (es : List Event) :
    runEvents raises (e :: es) = runEvent raises e >>= fun _ => runEvents raises es := rfl

/-- **No call raises**: every event happens, and the sequence returns. -/
theorem exec_runEvents_of_forall {es : List Event} (h : ∀ c, .call c ∈ es → raises c = false) :
    (runEvents raises es).exec t = (.ok (), t ++ es) := by
  induction es generalizing t with
  | nil => simp [runEvents]
  | cons e es ih =>
    have he : ∀ c, e = .call c → raises c = false := fun c hc => h c (hc ▸ List.mem_cons_self _ _)
    rw [runEvents_cons, LifeM.exec_bind, exec_runEvent_of_not_raises raises t he]
    simpa using ih (t ++ [e]) fun c hc => h c (List.mem_cons_of_mem _ hc)

/-- **The first call that raises ends the sequence**: the events before it and the call itself
happen, nothing after it does, and its exception is the result. -/
theorem exec_runEvents_of_first_raise {pre post : List Event} {c : Call}
    (hpre : ∀ c', .call c' ∈ pre → raises c' = false) (hc : raises c = true) :
    (runEvents raises (pre ++ .call c :: post)).exec t = (.error c, t ++ pre ++ [.call c]) := by
  induction pre generalizing t with
  | nil =>
    rw [List.nil_append, runEvents_cons, LifeM.exec_bind]
    simp [runEvent, exec_call, hc]
  | cons e pre ih =>
    have he : ∀ c, e = .call c → raises c = false :=
      fun c hc => hpre c (hc ▸ List.mem_cons_self _ _)
    rw [List.cons_append, runEvents_cons, LifeM.exec_bind, exec_runEvent_of_not_raises raises t he]
    simpa using ih (t ++ [e]) fun c hc => hpre c (List.mem_cons_of_mem _ hc)

/-- A sequence in which some call raises has a first such call. -/
theorem exists_first_raise {es : List Event} (h : ∃ c, .call c ∈ es ∧ raises c = true) :
    ∃ pre c post, es = pre ++ .call c :: post ∧
      (∀ c', .call c' ∈ pre → raises c' = false) ∧ raises c = true := by
  induction es with
  | nil => simp at h
  | cons e es ih =>
    by_cases he : ∀ c, e = .call c → raises c = false
    · obtain ⟨c, hc, hrc⟩ := h
      have hes : ∃ c, .call c ∈ es ∧ raises c = true := by
        rcases List.mem_cons.1 hc with hce | hce
        · simp [he c hce.symm] at hrc
        · exact ⟨c, hce, hrc⟩
      obtain ⟨pre, c', post, rfl, hpre, hc'⟩ := ih hes
      refine ⟨e :: pre, c', post, rfl, fun c'' hc'' => ?_, hc'⟩
      rcases List.mem_cons.1 hc'' with h'' | h''
      · exact he c'' h''.symm
      · exact hpre c'' h''
    · push_neg at he
      obtain ⟨c, rfl, hc⟩ := he
      exact ⟨[], c, es, rfl, by simp, by simpa using hc⟩

/-- **A sequence in which some call raises ends at the first such call.** -/
theorem exec_runEvents_of_exists_raise {es : List Event}
    (h : ∃ c, .call c ∈ es ∧ raises c = true) :
    ∃ pre c post, es = pre ++ .call c :: post ∧
      (∀ c', .call c' ∈ pre → raises c' = false) ∧ raises c = true ∧
      (runEvents raises es).exec t = (.error c, t ++ pre ++ [.call c]) := by
  obtain ⟨pre, c, post, rfl, hpre, hc⟩ := exists_first_raise raises h
  exact ⟨pre, c, post, rfl, hpre, hc, exec_runEvents_of_first_raise raises t hpre hc⟩

/-- What happens is a prefix of the sequence. -/
theorem exec_runEvents_prefix (es : List Event) :
    ∃ pre, pre <+: es ∧ ((runEvents raises es).exec t).2 = t ++ pre := by
  by_cases h : ∃ c, .call c ∈ es ∧ raises c = true
  · obtain ⟨pre, c, post, rfl, -, -, hx⟩ := exec_runEvents_of_exists_raise raises t h
    exact ⟨pre ++ [.call c], ⟨post, by simp⟩, by rw [hx, List.append_assoc]⟩
  · push_neg at h
    refine ⟨es, List.prefix_refl es, ?_⟩
    rw [exec_runEvents_of_forall raises t fun c hc => by simpa using h c hc]

end

/-! ## The phases of `Session.shutdown` -/

/-- A phase of the shutdown: its `tribler_shutdown_state` notification, then its stops. -/
def phase (state : String) (stops : List Subsystem) : List Event :=
  .notify state :: stops.map fun x => .call (.stop x)

/-- The phases in order: torrent checker (if set), IPv8, download manager, the SOCKS servers,
the general-purpose database (if set), the metadata database (if set), the REST manager. -/
def shutdownEvents (s : Session) : List Event :=
  (if s.torrentChecker then phase "Shutting down torrent checker." [.torrentChecker] else []) ++
  phase "Shutting down IPv8 peer-to-peer overlays." [.ipv8] ++
  phase "Shutting down download manager." [.downloadManager] ++
  phase "Shutting down local SOCKS5 interface."
    ((List.range s.socksServers.length).map .socksServer) ++
  (if s.db then phase "Shutting down general-purpose database." [.db] else []) ++
  (if s.mds then phase "Shutting down metadata database." [.mds] else []) ++
  phase "Shutting down GUI connection. Going dark." [.restManager]

/-- Whether `x` is a subsystem of `s` that shutdown has to stop. -/
def Session.present (s : Session) : Subsystem → Bool
  | .torrentChecker => s.torrentChecker
  | .socksServer k => decide (k < s.socksServers.length)
  | .db => s.db
  | .mds => s.mds
  | .ipv8 | .downloadManager | .restManager => true

theorem runEvents_append (raises : Call → Bool) (es es' : List Event) :
    runEvents raises (es ++ es') = runEvents raises es >>= fun _ => runEvents raises es' :=
  List.forM_append _ _ _

@[simp] theorem runEvents_nil (raises : Call → Bool) : runEvents raises [] = pure () := rfl

theorem runEvents_map_call {α : Type} (raises : Call → Bool) (xs : List α) (f : α → Call) :
    runEvents raises (xs.map fun a => .call (f a)) = xs.forM fun a => call raises (f a) := by
  induction xs with
  | nil => rfl
  | cons x xs ih => exact congrArg (call raises (f x) >>= fun _ => ·) ih

theorem runEvents_phase {α : Type} (raises : Call → Bool) (state : String) (xs : List α)
    (f : α → Subsystem) :
    runEvents raises (phase state (xs.map f)) =
      notify state >>= fun _ => xs.forM fun a => call raises (.stop (f a)) := by
  rw [phase, List.map_map, runEvents_cons]
  exact congrArg (notify state >>= fun _ => ·) (runEvents_map_call raises xs fun a => .stop (f a))

theorem runEvents_phase_singleton (raises : Call → Bool) (state : String) (x : Subsystem) :
    runEvents raises (phase state [x]) = notify state >>= fun _ => call raises (.stop x) := by
  show (notify state >>= fun _ => call raises (.stop x) >>= fun _ => pure ()) = _
  rw [bind_pure]

theorem runEvents_ite_nil (raises : Call → Bool) (b : Bool) (es : List Event) :
    runEvents raises (if b then es else []) = if b then runEvents raises es else pure () := by
  cases b <;> rfl

/-- `Session.shutdown` is the run of `shutdownEvents`. -/
theorem shutdown_eq_runEvents (raises : Call → Bool) (s : Session) :
    Session.shutdown raises s = runEvents raises (shutdownEvents s) := by
  simp only [Session.shutdown, shutdownEvents, runEvents_append, runEvents_ite_nil,
    runEvents_phase, runEvents_phase_singleton, bind_assoc, LifeM.ite_bind, pure_bind]

theorem count_stop_phase (state : String) (stops : List Subsystem) (x : Subsystem) :
    (phase state stops).count (.call (.stop x)) = stops.count x := by
  rw [phase, List.count_cons, beq_false_of_ne (by simp), if_neg (by simp), Nat.add_zero]
  exact List.count_map_of_injective stops (fun x => Event.call (.stop x))
    (fun _ _ h => by cases h; rfl) x

theorem count_socksServers (n : Nat) (x : Subsystem) :
    ((List.range n).map Subsystem.socksServer).count x =
      match x with
      | .socksServer k => if k < n then 1 else 0
      | _ => 0 := by
  cases x with
  | socksServer k =>
    rw [List.count_map_of_injective _ _ (fun _ _ h => by cases h; rfl),
      List.count_eq_of_nodup (List.nodup_range n)]
    simp
  | _ => exact List.count_eq_zero.2 (by simp)

/-- **Each present subsystem is stopped once, and no other.** -/
theorem count_stop_shutdownEvents (s : Session) (x : Subsystem) :
    (shutdownEvents s).count (.call (.stop x)) = if s.present x then 1 else 0 := by
  simp only [shutdownEvents, List.count_append, apply_ite (List.count _), List.count_nil,
    count_stop_phase, count_socksServers]
  cases x <;> simp [Session.present]

/-- **What `Session.shutdown` does, for every session and every set of raising calls.**  It runs
the phases of `shutdownEvents`, which stop each present subsystem exactly once.  When no stop
raises, every notification and stop happens.  Otherwise the first stop that raises ends the
shutdown: its exception propagates, and no later notification or stop happens. -/
theorem shutdown_stops_until_first_failure (raises : Call → Bool) (s : Session) :
    (∀ x, (shutdownEvents s).count (.call (.stop x)) = if s.present x then 1 else 0) ∧
    ((∀ c, .call c ∈ shutdownEvents s → raises c = false) →
      (Session.shutdown raises s).exec [] = (.ok (), shutdownEvents s)) ∧
    ((∃ c, .call c ∈ shutdownEvents s ∧ raises c = true) →
      ∃ pre c post, shutdownEvents s = pre ++ .call c :: post ∧
        (∀ c', .call c' ∈ pre → raises c' = false) ∧ raises c = true ∧
        (Session.shutdown raises s).exec [] = (.error c, pre ++ [.call c])) := by
  rw [shutdown_eq_runEvents]
  exact ⟨count_stop_shutdownEvents s, exec_runEvents_of_forall raises [],
    exec_runEvents_of_exists_raise raises []⟩

theorem shutdown_stops_until_first_failure_all_succeed :
    (Session.shutdown (fun _ => false)
        { config := 0, socksServers := [{ port := .int 1080 }],
          ipv8 := ⟨.obj [], .bool false, .udpEndpoint⟩,
          torrentChecker := true, db := true, mds := true }).exec [] =
      (.ok (), shutdownEvents
        { config := 0, socksServers := [{ port := .int 1080 }],
          ipv8 := ⟨.obj [], .bool false, .udpEndpoint⟩,
          torrentChecker := true, db := true, mds := true }) :=
  (shutdown_stops_until_first_failure _ _).2.1 fun _ _ => rfl

/-- With two SOCKS servers and the general-purpose database: when the first server's stop
raises, the second server, the database and the REST manager are never stopped. -/
theorem shutdown_skips_after_failing_socks_stop :
    ∃ trace, (Session.shutdown (· == .stop (.socksServer 0))
        { config := 0, socksServers := [{ port := .int 1080 }, { port := .int 1081 }],
          ipv8 := ⟨.obj [], .bool false, .udpEndpoint⟩,
          torrentChecker := false, db := true, mds := false }).exec [] =
      (.error (.stop (.socksServer 0)), trace) ∧
      .call (.stop (.socksServer 1)) ∉ trace ∧ .call (.stop .db) ∉ trace ∧
      .call (.stop .restManager) ∉ trace :=
  ⟨_, rfl, by decide, by decide, by decide⟩

/-! ## The start: the REST manager last -/

/-- The calls of `register_rest_endpoints`. -/
def restEndpointEvents : List Event :=
  [.call (.addEndpoint "CreateTorrentEndpoint"), .call (.addEndpoint "DownloadsEndpoint"),
    .call (.addEndpoint "EventsEndpoint"), .call (.addEndpoint "IPv8RootEndpoint"),
    .call (.init "IPv8RootEndpoint"), .call (.addEndpoint "LibTorrentEndpoint"),
    .call (.addEndpoint "SettingsEndpoint"), .call (.addEndpoint "ShutdownEndpoint"),
    .call (.addEndpoint "StatisticsEndpoint"), .call (.addEndpoint "TorrentInfoEndpoint")]

/-- The calls of `register_launchers`. -/
def launcherEvents : List Event :=
  [.call (.setLauncher "ContentDiscoveryComponent"), .call (.setLauncher "DatabaseComponent"),
    .call (.setLauncher "DHTDiscoveryComponent"), .call (.setLauncher "KnowledgeComponent"),
    .call (.setLauncher "RendezvousComponent"), .call (.setLauncher "TorrentCheckerComponent"),
    .call (.setLauncher "TunnelComponent")]

/-- Everything `Session.start` does before `rest_manager.start()`: the REST endpoints, the SOCKS
servers, the download manager, the launchers and the loader, IPv8, the overlay statistics. -/
def startBody (statistics : Bool) (s : Session) : List Event :=
  restEndpointEvents ++
  (List.range s.socksServers.length).map (fun k => .call (.start (.socksServer k))) ++
  [.socksListenPorts, .call (.init "DownloadManager"),
    .call (.start .downloadManager)] ++
  launcherEvents ++ [.call .load, .call (.start .ipv8)] ++
  (if statistics then [.call .enableOverlayStatistics] else [])

theorem registerRestEndpoints_eq_runEvents (raises : Call → Bool) :
    Session.registerRestEndpoints raises = runEvents raises restEndpointEvents := by
  simp only [Session.registerRestEndpoints, restEndpointEvents, runEvents_cons, runEvent,
    runEvents_nil, bind_pure_unit]

theorem registerLaunchers_eq_runEvents (raises : Call → Bool) :
    Session.registerLaunchers raises = runEvents raises launcherEvents := by
  simp only [Session.registerLaunchers, launcherEvents, runEvents_cons, runEvent, runEvents_nil,
    bind_pure_unit]

/-- `Session.start` is the run of `startBody`, then the REST manager's start. -/
theorem start_eq_runEvents (raises : Call → Bool) (statistics : Bool) (s : Session) :
    Session.start raises statistics s =
      runEvents raises (startBody statistics s ++ [.call (.start .restManager)]) := by
  simp only [Session.start, startBody, registerRestEndpoints_eq_runEvents,
    registerLaunchers_eq_runEvents, runEvents_append, runEvents_map_call, runEvents_cons,
    runEvent, runEvents_nil, runEvents_ite_nil, bind_assoc, bind_pure_unit, pure_bind,
    LifeM.ite_bind]

theorem restManager_not_mem_startBody (statistics : Bool) (s : Session) :
    .call (.start .restManager) ∉ startBody statistics s := by
  simp [startBody, restEndpointEvents, launcherEvents]

theorem stop_not_mem_startBody (statistics : Bool) (s : Session) (x : Subsystem) :
    .call (.stop x) ∉ startBody statistics s := by
  simp [startBody, restEndpointEvents, launcherEvents]

/-- **The REST manager starts last, only once every earlier call has returned, and a start that
raises stops nothing**: the components started before the failure stay running. -/
theorem start_rest_manager_last (raises : Call → Bool) (statistics : Bool) (s : Session) :
    (.call (.start .restManager) ∈ ((Session.start raises statistics s).exec []).2 ↔
      ∀ c, .call c ∈ startBody statistics s → raises c = false) ∧
    ∀ x, .call (.stop x) ∉ ((Session.start raises statistics s).exec []).2 := by
  have hrest := restManager_not_mem_startBody statistics s
  rw [start_eq_runEvents]
  refine ⟨⟨fun hmem c hc => ?_, fun h => ?_⟩, fun x hx => ?_⟩
  · -- a raising call of the body would end the start before the REST manager's
    by_contra hr
    obtain ⟨pre, c', post, hb, hpre, hc'⟩ :=
      exists_first_raise raises ⟨c, hc, by simpa using hr⟩
    rw [hb, List.append_assoc, List.cons_append,
      exec_runEvents_of_first_raise raises [] hpre hc', List.nil_append] at hmem
    exact hrest (hb ▸ List.IsPrefix.subset ⟨post, by simp⟩ hmem)
  · cases hr : raises (.start .restManager)
    · rw [exec_runEvents_of_forall raises [] fun c hc => ?_]
      · simp
      · simp only [List.mem_append, List.mem_singleton, Event.call.injEq] at hc
        exact hc.elim (h c) (· ▸ hr)
    · rw [exec_runEvents_of_first_raise raises [] h hr]
      simp
  · obtain ⟨pre, hpre, heq⟩ := exec_runEvents_prefix raises [] (startBody statistics s ++ _)
    rw [heq, List.nil_append] at hx
    exact stop_not_mem_startBody statistics s x (by simpa using hpre.subset hx)

/-- Everything the start starts is present, so the shutdown has to stop it. -/
theorem present_of_start_mem {statistics : Bool} {s : Session} {x : Subsystem}
    (h : .call (.start x) ∈ startBody statistics s ++ [.call (.start .restManager)]) :
    s.present x = true := by
  simp [startBody, restEndpointEvents, launcherEvents] at h
  rcases h with ⟨k, hk, rfl⟩ | rfl | rfl | rfl
  · exact decide_eq_true hk
  all_goals rfl

/-- **What the start started, the shutdown stops once**: a subsystem that a run of
`Session.start` started (whatever raised in it) has exactly one stop in the shutdown's phases, and
a shutdown in which no call raises stops it. -/
theorem shutdown_stops_started (raises raises' : Call → Bool) (statistics : Bool) (s : Session)
    (x : Subsystem) (hx : .call (.start x) ∈ ((Session.start raises statistics s).exec []).2) :
    (shutdownEvents s).count (.call (.stop x)) = 1 ∧
    ((∀ c, .call c ∈ shutdownEvents s → raises' c = false) →
      .call (.stop x) ∈ ((Session.shutdown raises' s).exec []).2) := by
  rw [start_eq_runEvents] at hx
  obtain ⟨pre, hpre, heq⟩ := exec_runEvents_prefix raises [] (startBody statistics s ++ _)
  rw [heq, List.nil_append] at hx
  have hcount : (shutdownEvents s).count (.call (.stop x)) = 1 := by
    rw [count_stop_shutdownEvents, present_of_start_mem (hpre.subset hx), if_pos rfl]
  refine ⟨hcount, fun h => ?_⟩
  rw [shutdown_eq_runEvents, exec_runEvents_of_forall raises' [] h, List.nil_append]
  rw [← List.count_pos_iff, hcount]
  exact Nat.one_pos

/-- One SOCKS server, nothing raising: the start starts server 0, and the shutdown stops it. -/
theorem shutdown_stops_started_socks_server :
    let s : Session := ⟨0, [⟨.int 1080, false⟩], ⟨.obj [], .bool false, .udpEndpoint⟩, false,
      false, false⟩
    .call (.start (.socksServer 0)) ∈ ((Session.start (fun _ => false) false s).exec []).2 ∧
      (shutdownEvents s).count (.call (.stop (.socksServer 0))) = 1 ∧
      ((∀ c, .call c ∈ shutdownEvents s → (fun _ => false : Call → Bool) c = false) →
        .call (.stop (.socksServer 0)) ∈ ((Session.shutdown (fun _ => false) s).exec []).2) :=
  ⟨by decide, shutdown_stops_started (fun _ => false) (fun _ => false) false _ (.socksServer 0)
    (by decide)⟩

/-! ## The SOCKS ports, from the configuration to the download manager -/

/-- The construction of IPv8 keeps the SOCKS servers' ports. -/
theorem triple_initIPv8_ports (rustAvailable : Bool) (i : Nat)
    (socksServers : List Socks5Server) :
    Triple (fun _ => True) (Session.initIPv8 rustAvailable i socksServers)
      fun r _ => r.2.map (·.port) = socksServers.map (·.port) := by
  refine (triple_true _).bind fun v => ?_
  cases v.truthy
  · cases rustAvailable
    · exact (triple_true _).bind fun _ => (triple_true _).bind fun _ => triple_pure fun _ _ => rfl
    · refine (triple_true _).bind fun _ => (triple_true _).bind fun _ => (triple_true _).bind
        fun _ => (triple_true _).bind fun _ => (triple_true _).bind fun _ =>
        (triple_true _).bind fun _ => (triple_true _).bind fun _ => (triple_true _).bind fun c => ?_
      cases c <;> exact triple_pure fun _ _ => by simp [List.map_map, Function.comp_def]
  · exact (triple_true _).bind fun _ => triple_pure fun _ _ => rfl

/-- What `Session(config)` read as `libtorrent/socks_listen_ports` are its servers' ports. -/
theorem init_socksServers_ports {rustAvailable : Bool} {i : Nat} {p p' : Process} {s : Session}
    (h : (Session.init rustAvailable i).exec p = (.ok s, p')) :
    ∃ v, (configGet i "libtorrent/socks_listen_ports").exec p = (.ok v, p) ∧
      v.iter = .ok (s.socksServers.map (·.port)) := by
  obtain ⟨v, p1, h1, hk1⟩ := exec_bind_eq_ok p h
  have hp1 : p1 = p := by simpa [h1] using configGet_state p i "libtorrent/socks_listen_ports"
  obtain ⟨ports, p2, h2, hk2⟩ := exec_bind_eq_ok p1 hk1
  obtain ⟨hv, -⟩ := raiseOf_eq_ok p1 h2
  obtain ⟨⟨ipv8, socksServers⟩, p3, h3, hk3⟩ := exec_bind_eq_ok p2 hk2
  simp only [exec_pure, Prod.mk.injEq, Except.ok.injEq] at hk3
  obtain ⟨rfl, -⟩ := hk3
  have hports := triple_initIPv8_ports rustAvailable i _ p2 trivial _ p3 h3
  refine ⟨v, hp1 ▸ h1, ?_⟩
  simpa [hports, List.map_map, Function.comp_def] using hv

/-- An event that occurs once in a sequence occurs in a prefix only after everything before it. -/
theorem subset_of_mem_prefix {pre a b : List Event} {e : Event} (hpre : pre <+: a ++ e :: b)
    (he : e ∈ pre) (hea : e ∉ a) : a ⊆ pre := by
  rcases List.prefix_or_prefix_of_prefix hpre (List.prefix_append a (e :: b)) with h | h
  · exact absurd (h.subset he) hea
  · exact h.subset

end Tribler
