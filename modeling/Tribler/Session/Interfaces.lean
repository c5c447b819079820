import Tribler.Session.Init

/-!
# `INTERFACES` over whole runs

`INTERFACES["UDPIPv4"]` is process-wide, and one line writes it:
`INTERFACES["UDPIPv4"] = RustEndpoint` in `rust_enhancements`.  Every other step of the
configuration code and of `Session.__init__` leaves it alone, whether it returns or raises
(`KeepsInterfaces`), and a construction only ever installs `RustEndpoint`
(`OnlyInstallsRust`).  IPv8 instantiates what `INTERFACES` holds when it is built, and nothing
after that in `Session.__init__` changes it, so every `Session` carries the class `INTERFACES`
holds when its construction returns (`endpoint_eq_interfaces_of_init`).

Over a whole run (`run_interfaces_invariant`): without the Rust backend `INTERFACES` keeps its
value and every `Session` gets it; with it, once `RustEndpoint` is installed it stays, and
every later `Session` gets it, statistics on or off.
-/

namespace Tribler

/-! ## Steps that leave `INTERFACES` alone -/

/-- `x` leaves `INTERFACES` as it found it, whether it returns or raises. -/
def KeepsInterfaces {α : Type} (x : PyM α) : Prop :=
  ∀ p, (x.exec p).2.interfaces = p.interfaces

/-- `x` leaves `INTERFACES` as it found it or installs `RustEndpoint` there. -/
def OnlyInstallsRust {α : Type} (x : PyM α) : Prop :=
  ∀ p, (x.exec p).2.interfaces = p.interfaces ∨ (x.exec p).2.interfaces = .rustEndpoint

section
variable {α β : Type}

theorem KeepsInterfaces.bind {x : PyM α} {f : α → PyM β} (hx : KeepsInterfaces x)
    (hf : ∀ a, KeepsInterfaces (f a)) : KeepsInterfaces (x >>= f) := by
  intro p
  have hxp := hx p
  rw [exec_bind]
  rcases hr : x.exec p with ⟨_ | a, p'⟩ <;> rw [hr] at hxp
  · exact hxp
  · exact (hf a p').trans hxp

theorem OnlyInstallsRust.bind {x : PyM α} {f : α → PyM β} (hx : OnlyInstallsRust x)
    (hf : ∀ a, OnlyInstallsRust (f a)) : OnlyInstallsRust (x >>= f) := by
  intro p
  have hxp := hx p
  rw [exec_bind]
  rcases hr : x.exec p with ⟨_ | a, p'⟩ <;> rw [hr] at hxp
  · exact hxp
  · rcases hf a p' with h | h
    · exact h ▸ hxp
    · exact .inr h

theorem KeepsInterfaces.onlyInstallsRust {x : PyM α} (hx : KeepsInterfaces x) :
    OnlyInstallsRust x :=
  fun p => .inl (hx p)

theorem keepsInterfaces_pure (a : α) : KeepsInterfaces (pure a : PyM α) := fun _ => rfl

theorem keepsInterfaces_throw (e : PyError) : KeepsInterfaces (throw e : PyM α) := fun _ => rfl

theorem keepsInterfaces_raiseOf (r : Except PyError α) : KeepsInterfaces (raiseOf r) := by
  cases r <;> exact fun _ => rfl

/-- A step that only reads the process. -/
theorem keepsInterfaces_of_get {x : Process → PyM α} (hx : ∀ q, KeepsInterfaces (x q)) :
    KeepsInterfaces (get >>= x) :=
  KeepsInterfaces.bind (fun _ => rfl) hx

end

theorem keepsInterfaces_manager (i : Nat) : KeepsInterfaces (manager i) :=
  keepsInterfaces_of_get fun q => by
    cases q.managers[i]? with
    | none => exact keepsInterfaces_throw _
    | some m => exact keepsInterfaces_pure m

theorem keepsInterfaces_configGet (i : Nat) (option : String) :
    KeepsInterfaces (configGet i option) :=
  (keepsInterfaces_manager i).bind fun _ =>
    keepsInterfaces_of_get fun _ => keepsInterfaces_raiseOf _

theorem keepsInterfaces_replaceTree (i : Nat) (t : Json) : KeepsInterfaces (replaceTree i t) :=
  (keepsInterfaces_manager i).bind fun _ _ => rfl

theorem keepsInterfaces_configOp (op : ConfigOp) : KeepsInterfaces op.exec := by
  cases op with
  | newManager f =>
    intro p
    rw [ConfigOp.exec]
    cases h : TriblerConfigManager.init f (p.files f) with
    | error e => rw [exec_bind_error p (exec_newManager_error p h)]
    | ok m => rw [exec_bind_ok p (exec_newManager p h)]; rfl
  | set i option value =>
    intro p
    cases hm : p.managers[i]? with
    | none => rw [ConfigOp.exec, configSet, exec_bind_error p (exec_manager_none p hm)]
    | some m =>
      rw [ConfigOp.exec, exec_configSet p hm]
      cases m.set p.defaultConfig option value <;> rfl
  | write i => exact (keepsInterfaces_manager i).bind fun _ _ => rfl

theorem keepsInterfaces_forEachUDPIPv4 (i : Nat) (f : Json → Except PyError Json) :
    KeepsInterfaces (forEachUDPIPv4 i f) := by
  refine (keepsInterfaces_manager i).bind fun m => keepsInterfaces_of_get fun q =>
    (keepsInterfaces_raiseOf _).bind fun _ => (keepsInterfaces_raiseOf _).bind fun ifcs => ?_
  have hthrow : ∀ r : Option PyError,
      KeepsInterfaces (if let some e := r then throw e else pure () : PyM Unit) := by
    intro r
    cases r with
    | none => exact keepsInterfaces_pure _
    | some e => exact keepsInterfaces_throw e
  cases ifcs with
  | arr xs =>
    exact (keepsInterfaces_raiseOf _).bind fun t => (keepsInterfaces_replaceTree i t).bind
      fun _ => hthrow _
  | _ => exact (keepsInterfaces_raiseOf _).bind fun _ => hthrow _

theorem keepsInterfaces_IPv8_init (i : Nat) : KeepsInterfaces (IPv8.init i) :=
  (keepsInterfaces_configGet i _).bind fun _ => (keepsInterfaces_configGet i _).bind fun _ =>
    keepsInterfaces_of_get fun _ => keepsInterfaces_pure _

/-! ## A construction only installs `RustEndpoint` -/

theorem keepsInterfaces_rustEnhancements_false (i : Nat) (socksServers : List Socks5Server)
    {body : PyM IPv8} (hbody : KeepsInterfaces body) :
    KeepsInterfaces (rustEnhancements false i socksServers body) :=
  (keepsInterfaces_forEachUDPIPv4 i _).bind fun _ => hbody.bind fun _ => keepsInterfaces_pure _

theorem onlyInstallsRust_rustEnhancements (rustAvailable : Bool) (i : Nat)
    (socksServers : List Socks5Server) {body : PyM IPv8} (hbody : KeepsInterfaces body) :
    OnlyInstallsRust (rustEnhancements rustAvailable i socksServers body) := by
  cases rustAvailable with
  | false => exact (keepsInterfaces_rustEnhancements_false i socksServers hbody).onlyInstallsRust
  | true =>
    refine OnlyInstallsRust.bind (fun _ => .inr rfl) fun _ => KeepsInterfaces.onlyInstallsRust ?_
    refine (keepsInterfaces_manager i).bind fun _ => keepsInterfaces_of_get fun _ =>
      (keepsInterfaces_forEachUDPIPv4 i _).bind fun _ => hbody.bind fun _ =>
      (keepsInterfaces_configGet i _).bind fun _ => (keepsInterfaces_raiseOf _).bind fun _ =>
      (keepsInterfaces_raiseOf _).bind fun c => ?_
    cases c <;> exact keepsInterfaces_pure _

theorem keepsInterfaces_init_false (i : Nat) : KeepsInterfaces (Session.init false i) := by
  refine (keepsInterfaces_configGet i _).bind fun _ => (keepsInterfaces_raiseOf _).bind
    fun _ => ((keepsInterfaces_configGet i _).bind fun v => ?_).bind fun _ => keepsInterfaces_pure _
  cases v.truthy
  · exact keepsInterfaces_rustEnhancements_false i _ (keepsInterfaces_IPv8_init i)
  · exact (keepsInterfaces_IPv8_init i).bind fun _ => keepsInterfaces_pure _

theorem onlyInstallsRust_init (rustAvailable : Bool) (i : Nat) :
    OnlyInstallsRust (Session.init rustAvailable i) := by
  refine (keepsInterfaces_configGet i _).onlyInstallsRust.bind fun _ =>
    (keepsInterfaces_raiseOf _).onlyInstallsRust.bind fun _ =>
    (((keepsInterfaces_configGet i _).onlyInstallsRust.bind fun v => ?_).bind
      fun _ => (keepsInterfaces_pure _).onlyInstallsRust)
  cases v.truthy
  · exact onlyInstallsRust_rustEnhancements rustAvailable i _ (keepsInterfaces_IPv8_init i)
  · exact ((keepsInterfaces_IPv8_init i).bind fun _ => keepsInterfaces_pure _).onlyInstallsRust

/-! ## What a returning construction carries -/

section
variable {α : Type}

/-- A step that keeps `INTERFACES` keeps every property of it. -/
theorem KeepsInterfaces.triple {x : PyM α} (hx : KeepsInterfaces x) (S : EndpointClass → Prop) :
    Triple (fun p => S p.interfaces) x fun _ p => S p.interfaces := by
  intro p hp a p' hr
  have := hx p
  rw [hr] at this
  exact this ▸ hp

end

theorem triple_IPv8_init (i : Nat) :
    Triple (fun _ => True) (IPv8.init i) fun ipv8 p => ipv8.endpoint = p.interfaces :=
  (triple_true _).bind fun _ => (triple_true _).bind fun _ =>
    (triple_get (Q := fun q p => q.interfaces = p.interfaces) fun _ _ => rfl).bind fun _ =>
    triple_pure fun _ h => h

theorem triple_rustEnhancements (rustAvailable : Bool) (i : Nat)
    (socksServers : List Socks5Server) :
    Triple (fun _ => True) (rustEnhancements rustAvailable i socksServers (IPv8.init i))
      fun r p => r.1.endpoint = p.interfaces := by
  cases rustAvailable with
  | false =>
    exact (triple_true _).bind fun _ => (triple_IPv8_init i).bind fun _ => triple_pure fun _ h => h
  | true =>
    refine (triple_true _).bind fun _ => (triple_true _).bind fun _ => (triple_true _).bind
      fun _ => (triple_true _).bind fun _ => (triple_IPv8_init i).bind fun ipv8 => ?_
    refine ((keepsInterfaces_configGet i _).triple _).bind fun _ =>
      ((keepsInterfaces_raiseOf _).triple _).bind fun _ =>
      ((keepsInterfaces_raiseOf _).triple _).bind fun c => ?_
    cases c <;> exact triple_pure fun _ h => h

theorem triple_init (rustAvailable : Bool) (i : Nat) :
    Triple (fun _ => True) (Session.init rustAvailable i)
      fun s p => s.ipv8.endpoint = p.interfaces := by
  refine (triple_true _).bind fun _ => (triple_true _).bind fun _ =>
    ((triple_true _).bind fun v => ?_).bind fun _ => triple_pure fun _ h => h
  cases v.truthy
  · exact triple_rustEnhancements rustAvailable i _
  · exact (triple_IPv8_init i).bind fun _ => triple_pure fun _ h => h

/-- **Every `Session` carries the class `INTERFACES` holds when its construction returns.** -/
theorem endpoint_eq_interfaces_of_init {rustAvailable : Bool} {i : Nat} {p p' : Process}
    {s : Session} (h : (Session.init rustAvailable i).exec p = (.ok s, p')) :
    s.ipv8.endpoint = p'.interfaces :=
  triple_init rustAvailable i p trivial s p' h

/-! ## Over whole runs -/

/-- A property of `INTERFACES` that every construction keeps holds at the end of every run and
of the class of every `Session` the run built. -/
theorem run_interfaces_invariant (rustAvailable : Bool) (S : EndpointClass → Prop)
    (hS : ∀ i p, S p.interfaces → S ((Session.init rustAvailable i).exec p).2.interfaces) :
    ∀ (ops : List Op) (p : Process), S p.interfaces →
      S (run rustAvailable p ops).1.interfaces ∧
        ∀ s, .ok s ∈ (run rustAvailable p ops).2 → S s.ipv8.endpoint
  | [], _, hp => ⟨hp, by simp [run]⟩
  | .config op :: ops, p, hp =>
    run_interfaces_invariant rustAvailable S hS ops _ ((keepsInterfaces_configOp op p).symm ▸ hp)
  | .newSession i :: ops, p, hp => by
    have hstep := hS i p hp
    obtain ⟨hend, hrest⟩ := run_interfaces_invariant rustAvailable S hS ops _ hstep
    refine ⟨hend, fun s hs => ?_⟩
    rcases List.mem_cons.1 hs with hs | hs
    · rcases hr : (Session.init rustAvailable i).exec p with ⟨r, p'⟩
      rw [hr] at hs hstep
      cases hs
      exact (endpoint_eq_interfaces_of_init hr) ▸ hstep
    · exact hrest s hs

/-- **`RustEndpoint` is never taken back.**  From a process whose `INTERFACES` holds
`RustEndpoint`, every run keeps it there, and every `Session` it builds (statistics on or off)
gets `RustEndpoint`. -/
theorem run_keeps_rustEndpoint (rustAvailable : Bool) (p : Process) (ops : List Op)
    (h : p.interfaces = .rustEndpoint) :
    (run rustAvailable p ops).1.interfaces = .rustEndpoint ∧
      ∀ s, .ok s ∈ (run rustAvailable p ops).2 → s.ipv8.endpoint = .rustEndpoint :=
  run_interfaces_invariant rustAvailable (· = .rustEndpoint)
    (fun i p hp => (onlyInstallsRust_init rustAvailable i p).elim (·.trans hp) id) ops p h

/-- A process in which `INTERFACES` already holds `RustEndpoint`, and a configuration file that
turns statistics on: the `Session` built is built with `RustEndpoint`. -/
theorem run_keeps_rustEndpoint_statistics_on :
    let p : Process := { Process.initial (.obj []) "/state" "/downloads"
      (fun _ => .decoded (.obj [("statistics", .bool true)])) with interfaces := .rustEndpoint }
    let ops : List Op := [.config (.newManager "configuration.json"), .newSession 0]
    p.interfaces = .rustEndpoint ∧ (∃ s, (run true p ops).2 = [.ok s]) ∧
      (run true p ops).1.interfaces = .rustEndpoint ∧
      ∀ s, .ok s ∈ (run true p ops).2 → s.ipv8.endpoint = .rustEndpoint := by
  intro p ops
  exact ⟨rfl, ⟨_, rfl⟩, run_keeps_rustEndpoint true p ops rfl⟩

/-- **Without the Rust backend nothing changes `INTERFACES`**: every run ends with the class it
started with, and every `Session` it builds gets that class. -/
theorem run_without_rust_keeps_interfaces (p : Process) (ops : List Op) :
    (run false p ops).1.interfaces = p.interfaces ∧
      ∀ s, .ok s ∈ (run false p ops).2 → s.ipv8.endpoint = p.interfaces :=
  run_interfaces_invariant false (· = p.interfaces)
    (fun i q hq => (keepsInterfaces_init_false i q).trans hq) ops p rfl

end Tribler
