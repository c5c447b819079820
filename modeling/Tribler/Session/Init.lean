import Tribler.Process

/-!
# `Session.__init__` and the endpoint selection of `rust_enhancements`

`Session.__init__` builds one `Socks5Server` per configured port, then builds IPv8 inside
`with nullcontext() if config.get("statistics") else rust_enhancements(self)`.  With the Rust
backend, `rust_enhancements` installs `RustEndpoint` in the process-wide `INTERFACES` and writes
`worker_threads` into every `UDPIPv4` interface of the configuration; without it, it pops
`worker_threads` from them, and raises `KeyError` half-way at the first one that has none: on
IPv8's own interface list, which has no `worker_threads`, at once.  The interfaces are those of
`configuration["ipv8"]["interfaces"]`, changed in place: in `DEFAULT_CONFIG` itself when the
manager holds it.  Nothing ever puts the old class back in `INTERFACES`.

Whether `ipv8_rust_tunnels` imports is fixed for the process (`rustAvailable`).
-/

namespace Tribler

/-! ## Objects -/

/-- `Socks5Server(port)`; `rustEndpoint` is whether `server.rust_endpoint` was set to a
`RustEndpoint`. -/
structure Socks5Server where
  port : Json
  rustEndpoint : Bool := false

/-- An `IPv8` object: the configuration and statistics flag it was built with, and the class its
dispatcher instantiated for `UDPIPv4` (what `INTERFACES["UDPIPv4"]` held then). -/
structure IPv8 where
  configuration : Json
  enableStatistics : Json
  endpoint : EndpointClass

/-- A `Session`: its manager (by position), SOCKS servers and IPv8, and whether the optional
globals `torrent_checker`, `db` and `mds` have been set by components. -/
structure Session where
  config : Nat
  socksServers : List Socks5Server
  ipv8 : IPv8
  torrentChecker : Bool
  db : Bool
  mds : Bool

/-- `IPv8(self.config.get("ipv8"), enable_statistics=self.config.get("statistics"))`. -/
def IPv8.init (i : Nat) : PyM IPv8 := do
  let configuration ← configGet i "ipv8"
  let enableStatistics ← configGet i "statistics"
  pure { configuration, enableStatistics, endpoint := (← get).interfaces }

/-! ## `rust_enhancements` -/

/-- `if ifc["interface"] == "UDPIPv4": <f ifc>`. -/
def ifUDPIPv4 (f : Json → Except PyError Json) (ifc : Json) : Except PyError Json := do
  if (← ifc.getItem "interface") = .str "UDPIPv4" then f ifc else pure ifc

/-- A `for` loop changing each element of a list in place: the elements after it ran (those
done before a raise stay changed) and the exception, if one was raised. -/
def mutateEach (f : Json → Except PyError Json) : List Json → List Json × Option PyError
  | [] => ([], none)
  | x :: xs =>
    match f x with
    | .error e => (x :: xs, some e)
    | .ok x' => ((mutateEach f xs).1.cons x', (mutateEach f xs).2)

/-- `for ifc in session.config.configuration["ipv8"]["interfaces"]: if ifc["interface"] ==
"UDPIPv4": <f ifc>` on manager `i`.  Iterating a dict or a string gives strings, which
`ifc["interface"]` cannot index. -/
def forEachUDPIPv4 (i : Nat) (f : Json → Except PyError Json) : PyM Unit := do
  let m ← manager i
  let tree := m.tree (← get).defaultConfig
  let interfaces ← raiseOf ((← raiseOf (tree.getItem "ipv8")).getItem "interfaces")
  match interfaces with
  | .arr xs =>
    let r := mutateEach (ifUDPIPv4 f) xs
    replaceTree i (← raiseOf (setPath (.arr r.1) tree ["ipv8", "interfaces"]))
    if let some e := r.2 then throw e
  | other =>
    if let some e := (mutateEach (ifUDPIPv4 f) (← raiseOf other.iter)).2 then throw e

/-- `any(nif["interface"] == "UDPIPv4" for nif in nifs)`, stopping at the first match. -/
def anyUDPIPv4 : List Json → Except PyError Bool
  | [] => .ok false
  | nif :: rest => do
    if (← nif.getItem "interface") = .str "UDPIPv4" then pure true else anyUDPIPv4 rest

/-- `with rust_enhancements(session): session.ipv8 = <body>`: the IPv8 built and the SOCKS
servers afterwards.  Without the Rust backend the second import raises `ImportError`, caught
before anything changed.  `get("tunnel_community/max_circuits")` reads a path that diverges from
the interfaces being changed, so reading it once gives what each iteration reads. -/
def rustEnhancements (rustAvailable : Bool) (i : Nat) (socksServers : List Socks5Server)
    (body : PyM IPv8) : PyM (IPv8 × List Socks5Server) := do
  if rustAvailable then
    modify fun p => { p with interfaces := .rustEndpoint }
    let maxCircuits := (← manager i).get (← get).defaultConfig "tunnel_community/max_circuits"
    forEachUDPIPv4 i fun ifc => do ifc.setItem "worker_threads" (← maxCircuits)
    let ipv8 ← body
    if ← raiseOf (anyUDPIPv4 (← raiseOf (← configGet i "ipv8/interfaces").iter)) then
      pure (ipv8, socksServers.map fun server =>
        { server with rustEndpoint := ipv8.endpoint = .rustEndpoint })
    else
      pure (ipv8, socksServers)
  else
    forEachUDPIPv4 i fun ifc => ifc.pop "worker_threads"
    let ipv8 ← body
    pure (ipv8, socksServers)

/-! ## `Session.__init__` -/

/-- The IPv8 construction of `Session.__init__`, with the endpoint selection around it. -/
def Session.initIPv8 (rustAvailable : Bool) (i : Nat) (socksServers : List Socks5Server) :
    PyM (IPv8 × List Socks5Server) := do
  if (← configGet i "statistics").truthy then
    pure (← IPv8.init i, socksServers)
  else
    rustEnhancements rustAvailable i socksServers (IPv8.init i)

/-- `Session(config)` over manager `i`. -/
def Session.init (rustAvailable : Bool) (i : Nat) : PyM Session := do
  let ports ← raiseOf (← configGet i "libtorrent/socks_listen_ports").iter
  let (ipv8, socksServers) ← Session.initIPv8 rustAvailable i (ports.map fun port => { port })
  pure { config := i, socksServers, ipv8, torrentChecker := false, db := false, mds := false }

/-! ## What the selection leaves in the interfaces -/

/-- The interface list of an IPv8 configuration section (`[]` when it has none). -/
def interfacesOf : Json → List Json
  | .obj kvs =>
    match kvs.lookup "interfaces" with
    | some (.arr xs) => xs
    | _ => []
  | _ => []

/-- A dict with an `"interface"` entry. -/
def hasInterfaceKey : Json → Bool
  | .obj kvs => (kvs.lookup "interface").isSome
  | _ => false

/-- `ifc["interface"] == "UDPIPv4"`. -/
def isUDPIPv4 : Json → Bool
  | .obj kvs => kvs.lookup "interface" == some (.str "UDPIPv4")
  | _ => false

/-- The `worker_threads` entry of an interface. -/
def workerThreads : Json → Option Json
  | .obj kvs => kvs.lookup "worker_threads"
  | _ => none

/-- `configuration["ipv8"]["interfaces"]` is the list `xs` of dicts with an `"interface"`
entry. -/
def HasInterfaces (tree : Json) (xs : List Json) : Prop :=
  walk tree ["ipv8", "interfaces"] = some (.arr xs) ∧ ∀ x ∈ xs, hasInterfaceKey x = true

instance (tree : Json) (xs : List Json) : Decidable (HasInterfaces tree xs) :=
  inferInstanceAs (Decidable (_ ∧ _))

/-- An interface with `worker_threads = w` written in if it is a `UDPIPv4` one. -/
def withWorkerThreads (w : Json) : Json → Json
  | .obj kvs => if isUDPIPv4 (.obj kvs) then .obj (dictSet "worker_threads" w kvs) else .obj kvs
  | ifc => ifc

/-- An interface with `worker_threads` removed if it is a `UDPIPv4` one. -/
def withoutWorkerThreads : Json → Json
  | .obj kvs => if isUDPIPv4 (.obj kvs) then .obj (dictErase "worker_threads" kvs) else .obj kvs
  | ifc => ifc

theorem isUDPIPv4_withWorkerThreads (w ifc : Json) :
    isUDPIPv4 (withWorkerThreads w ifc) = isUDPIPv4 ifc := by
  cases ifc with
  | obj kvs => simp only [withWorkerThreads]; split <;> simp_all [isUDPIPv4]
  | _ => rfl

theorem workerThreads_withWorkerThreads {w ifc : Json} (h : isUDPIPv4 ifc = true) :
    workerThreads (withWorkerThreads w ifc) = some w := by
  cases ifc <;> simp_all [withWorkerThreads, workerThreads, isUDPIPv4]

theorem isUDPIPv4_withoutWorkerThreads (ifc : Json) :
    isUDPIPv4 (withoutWorkerThreads ifc) = isUDPIPv4 ifc := by
  cases ifc with
  | obj kvs => simp only [withoutWorkerThreads]; split <;> simp_all [isUDPIPv4]
  | _ => rfl

theorem workerThreads_withoutWorkerThreads {ifc : Json} (h : isUDPIPv4 ifc = true) :
    workerThreads (withoutWorkerThreads ifc) = none := by
  cases ifc <;> simp_all [withoutWorkerThreads, workerThreads, isUDPIPv4]

/-! ## Spec lemmas of the loops -/

theorem mutateEach_eq_map {f : Json → Except PyError Json} {g : Json → Json} :
    ∀ {xs : List Json}, (∀ x ∈ xs, f x = .ok (g x)) → mutateEach f xs = (xs.map g, none)
  | [], _ => rfl
  | x :: xs, h => by
    have ih : mutateEach f xs = (xs.map g, none) :=
      mutateEach_eq_map fun y hy => h y (List.mem_cons_of_mem _ hy)
    simp [mutateEach, h x (List.mem_cons_self _ _), ih]

/-- A raise in the loop keeps what the earlier iterations changed and leaves the rest alone. -/
theorem mutateEach_append_error {f : Json → Except PyError Json} {g : Json → Json} {x : Json}
    {e : PyError} (hx : f x = .error e) (ys : List Json) :
    ∀ {xs : List Json}, (∀ y ∈ xs, f y = .ok (g y)) →
      mutateEach f (xs ++ x :: ys) = (xs.map g ++ x :: ys, some e)
  | [], _ => by simp [mutateEach, hx]
  | y :: xs, h => by
    have ih : mutateEach f (xs ++ x :: ys) = (xs.map g ++ x :: ys, some e) :=
      mutateEach_append_error hx ys fun z hz => h z (List.mem_cons_of_mem _ hz)
    simp [mutateEach, h y (List.mem_cons_self _ _), ih]

theorem ifUDPIPv4_setItem {maxCircuits : Except PyError Json} {w : Json}
    (hw : maxCircuits = .ok w) {ifc : Json} (h : hasInterfaceKey ifc = true) :
    ifUDPIPv4 (fun ifc => do ifc.setItem "worker_threads" (← maxCircuits)) ifc =
      .ok (withWorkerThreads w ifc) := by
  subst hw
  cases ifc with
  | obj kvs =>
    obtain ⟨name, hn⟩ := Option.isSome_iff_exists.mp h
    by_cases hu : name = .str "UDPIPv4" <;>
      simp [ifUDPIPv4, withWorkerThreads, isUDPIPv4, hn, hu]
  | _ => simp [hasInterfaceKey] at h

theorem ifUDPIPv4_pop {ifc : Json} (h : hasInterfaceKey ifc = true)
    (hw : isUDPIPv4 ifc = true → (workerThreads ifc).isSome) :
    ifUDPIPv4 (fun ifc => ifc.pop "worker_threads") ifc = .ok (withoutWorkerThreads ifc) := by
  cases ifc with
  | obj kvs =>
    obtain ⟨name, hn⟩ := Option.isSome_iff_exists.mp h
    by_cases hu : name = .str "UDPIPv4"
    · simp_all [ifUDPIPv4, withoutWorkerThreads, isUDPIPv4, workerThreads, Json.pop]
    · simp [ifUDPIPv4, withoutWorkerThreads, isUDPIPv4, hn, hu]
  | _ => simp [hasInterfaceKey] at h

theorem ifUDPIPv4_pop_missing {ifc : Json} (hu : isUDPIPv4 ifc = true)
    (hw : workerThreads ifc = none) :
    ifUDPIPv4 (fun ifc => ifc.pop "worker_threads") ifc = .error (.keyError "worker_threads") := by
  cases ifc with
  | obj kvs =>
    simp only [isUDPIPv4, beq_iff_eq] at hu
    simp only [workerThreads] at hw
    simp [ifUDPIPv4, Json.getItem_of_lookup hu, Json.pop, hw]
  | _ => simp [isUDPIPv4] at hu

theorem walk_interfaces {tree : Json} {xs : List Json}
    (h : walk tree ["ipv8", "interfaces"] = some (.arr xs)) :
    ∃ kvs skvs, tree = .obj kvs ∧ kvs.lookup "ipv8" = some (.obj skvs) ∧
      skvs.lookup "interfaces" = some (.arr xs) := by
  match tree with
  | .obj kvs =>
    simp only [walk_obj_cons, Option.bind_eq_some] at h
    obtain ⟨sec, hs, h⟩ := h
    match sec with
    | .obj skvs =>
      simp only [walk_obj_cons, Option.bind_eq_some, walk, Option.some.injEq] at h
      obtain ⟨_, hi, rfl⟩ := h
      exact ⟨kvs, skvs, rfl, hs, hi⟩
    | .null | .bool _ | .int _ | .float _ _ | .str _ | .arr _ => simp [walk] at h
  | .null | .bool _ | .int _ | .float _ _ | .str _ | .arr _ => simp [walk] at h

/-- The loop over the interfaces: the interface list of the configuration is replaced by what
the iterations made of it, and the loop raises what an iteration raised. -/
theorem exec_forEachUDPIPv4_mutateEach (p : Process) {i : Nat} {m : TriblerConfigManager}
    (hm : p.managers[i]? = some m) (f : Json → Except PyError Json) {xs : List Json}
    (hx : walk (m.tree p.defaultConfig) ["ipv8", "interfaces"] = some (.arr xs)) :
    ∃ t', setPath (.arr (mutateEach (ifUDPIPv4 f) xs).1) (m.tree p.defaultConfig)
        ["ipv8", "interfaces"] = .ok t' ∧
      (forEachUDPIPv4 i f).exec p = ((mutateEach (ifUDPIPv4 f) xs).2.elim (.ok ()) .error,
        { p with
          defaultConfig := (m.replaceTree p.defaultConfig t').1,
          managers := p.managers.set i (m.replaceTree p.defaultConfig t').2 }) := by
  obtain ⟨kvs, skvs, ht, hs, hi⟩ := walk_interfaces hx
  have hset : ∀ ys, setPath (.arr ys) (.obj kvs) ["ipv8", "interfaces"] =
      .ok (.obj (dictSet "ipv8" (.obj (dictSet "interfaces" (.arr ys) skvs)) kvs)) := by
    intro ys
    rw [setPath_cons_cons, Json.getItem_of_lookup hs]; simp
  refine ⟨_, ht ▸ hset _, ?_⟩
  cases hr : (mutateEach (ifUDPIPv4 f) xs).2 <;>
    simp only [forEachUDPIPv4, exec_bind, exec_manager p hm, exec_get, ht, Json.getItem_obj, hs,
      hset, exec_raiseOf_ok, hi, hr, bind_pure_comp, id_map', exec_replaceTree p hm, exec_throw,
      Option.elim_none, Option.elim_some]

/-- The loop over the interfaces, when the body changes each one to `g` of it: the interface list
of the configuration is replaced by its image under `g`. -/
theorem exec_forEachUDPIPv4 (p : Process) {i : Nat} {m : TriblerConfigManager}
    (hm : p.managers[i]? = some m) {f : Json → Except PyError Json} {g : Json → Json}
    {xs : List Json} (hx : HasInterfaces (m.tree p.defaultConfig) xs)
    (hf : ∀ x ∈ xs, ifUDPIPv4 f x = .ok (g x)) :
    ∃ t', setPath (.arr (xs.map g)) (m.tree p.defaultConfig) ["ipv8", "interfaces"] = .ok t' ∧
      (forEachUDPIPv4 i f).exec p = (.ok (), { p with
        defaultConfig := (m.replaceTree p.defaultConfig t').1,
        managers := p.managers.set i (m.replaceTree p.defaultConfig t').2 }) := by
  have h := exec_forEachUDPIPv4_mutateEach p hm f hx.1
  rwa [mutateEach_eq_map hf] at h

theorem anyUDPIPv4_ok : ∀ {xs : List Json}, (∀ x ∈ xs, hasInterfaceKey x = true) →
    ∃ b, anyUDPIPv4 xs = .ok b
  | [], _ => ⟨false, rfl⟩
  | .obj kvs :: xs, h => by
    obtain ⟨name, hn⟩ := Option.isSome_iff_exists.mp (h _ (List.mem_cons_self _ _))
    obtain ⟨b, hb⟩ := anyUDPIPv4_ok fun y hy => h y (List.mem_cons_of_mem _ hy)
    by_cases hu : name = .str "UDPIPv4"
    · exact ⟨true, by simp only [anyUDPIPv4, Json.getItem_obj, hn, hu, pure_eq_ok, ok_bind,
        if_true]⟩
    · exact ⟨b, by simp only [anyUDPIPv4, Json.getItem_obj, hn, pure_eq_ok, hb, ok_bind, hu,
        if_false]⟩
  | .null :: _, h | .bool _ :: _, h | .int _ :: _, h | .float _ _ :: _, h | .str _ :: _, h
  | .arr _ :: _, h | .tuple _ :: _, h => by simp [hasInterfaceKey] at h

theorem hasInterfaceKey_withWorkerThreads (w : Json) {ifc : Json} (h : hasInterfaceKey ifc = true) :
    hasInterfaceKey (withWorkerThreads w ifc) = true := by
  cases ifc with
  | obj kvs => simp only [withWorkerThreads]; split <;> simp_all [hasInterfaceKey]
  | _ => simp [hasInterfaceKey] at h

/-! ## Spec lemmas of the construction -/

section
variable (p : Process) {i : Nat} {m : TriblerConfigManager} (hm : p.managers[i]? = some m)
  {s : Json} (hs : m.get p.defaultConfig "statistics" = .ok s)
include hm hs

/-- `IPv8(...)`: built from the configuration's `ipv8` section with `INTERFACES` as it is. -/
theorem exec_IPv8_init :
    (IPv8.init i).exec p =
      ((m.get p.defaultConfig "ipv8").map fun c => ⟨c, s, p.interfaces⟩, p) := by
  cases hc : m.get p.defaultConfig "ipv8" <;>
    simp [IPv8.init, exec_bind, exec_configGet p hm, hc, hs, Except.map]

omit hm in
/-- The reads of the construction after the interface list became `ys` (`setPath` gave `t'`):
the `ipv8` section holds `ys`, `statistics` is unchanged. -/
theorem reads_after_interfaces {xs ys : List Json} {t' : Json}
    (hx : walk (m.tree p.defaultConfig) ["ipv8", "interfaces"] = some (.arr xs))
    (ht : setPath (.arr ys) (m.tree p.defaultConfig) ["ipv8", "interfaces"] = .ok t') :
    (∃ sec, (m.replaceTree p.defaultConfig t').2.get (m.replaceTree p.defaultConfig t').1 "ipv8"
      = .ok sec ∧ interfacesOf sec = ys) ∧
    (m.replaceTree p.defaultConfig t').2.get (m.replaceTree p.defaultConfig t').1 "statistics"
      = .ok s ∧
    (m.replaceTree p.defaultConfig t').2.get (m.replaceTree p.defaultConfig t').1
      "ipv8/interfaces" = .ok (.arr ys) := by
  obtain ⟨kvs, skvs, htree, hsec, -⟩ := walk_interfaces hx
  have hset : setPath (.arr ys) (m.tree p.defaultConfig) ["ipv8", "interfaces"] =
      .ok (.obj (dictSet "ipv8" (.obj (dictSet "interfaces" (.arr ys) skvs)) kvs)) := by
    rw [htree, setPath_cons_cons, Json.getItem_of_lookup hsec]; simp
  rw [hset] at ht
  cases ht
  have hipv8 : pathParts "ipv8" = ["ipv8"] := by decide
  refine ⟨⟨.obj (dictSet "interfaces" (.arr ys) skvs), ?_, by simp [interfacesOf]⟩, ?_,
    get_replaceTree_self p.defaultConfig m _ _ _ hset⟩
  · simp only [TriblerConfigManager.get, TriblerConfigManager.tree_replaceTree, getParts, hipv8]
    exact getWalk_of_walk _ (by simp [walk])
  rw [← hs]
  exact get_replaceTree_of_diverge p.defaultConfig m _ _ _ hset ["statistics"] (by decide)

/-- **With the Rust backend**: `RustEndpoint` is installed and stays, and IPv8 is built with every
`UDPIPv4` interface carrying `worker_threads = tunnel_community/max_circuits`. -/
theorem exec_rustEnhancements_available {xs : List Json}
    (hx : HasInterfaces (m.tree p.defaultConfig) xs) {w : Json}
    (hw : m.get p.defaultConfig "tunnel_community/max_circuits" = .ok w)
    (socksServers : List Socks5Server) :
    ∃ ipv8 socksServers' p', (rustEnhancements true i socksServers (IPv8.init i)).exec p =
        (.ok (ipv8, socksServers'), p') ∧
      ipv8.endpoint = .rustEndpoint ∧ p'.interfaces = .rustEndpoint ∧
      interfacesOf ipv8.configuration = xs.map (withWorkerThreads w) := by
  have hm1 : ({ p with interfaces := .rustEndpoint } : Process).managers[i]? = some m := hm
  obtain ⟨t', hset, hexec⟩ := exec_forEachUDPIPv4 _ hm1 hx
    fun x hx' => (ifUDPIPv4_setItem hw (hx.2 x hx') : _ = .ok (withWorkerThreads w x))
  obtain ⟨⟨sec, hsec, hint⟩, hstat, hifs⟩ := reads_after_interfaces p hs hx.1 hset
  have hm2 := List.getElem?_set_of_getElem? hm (m.replaceTree p.defaultConfig t').2
  have hkeys : ∀ y ∈ xs.map (withWorkerThreads w), hasInterfaceKey y = true := by
    simpa using fun x hx' => hasInterfaceKey_withWorkerThreads w (hx.2 x hx')
  obtain ⟨b, hb⟩ := anyUDPIPv4_ok hkeys
  refine ⟨⟨sec, s, .rustEndpoint⟩, if b then socksServers.map fun server =>
    { server with rustEndpoint := true } else socksServers, ⟨(m.replaceTree p.defaultConfig t').1,
    p.managers.set i (m.replaceTree p.defaultConfig t').2, p.files, .rustEndpoint⟩, ?_, rfl, rfl,
    hint⟩
  simp only [rustEnhancements, if_true, exec_bind, exec_modify, exec_manager _ hm1, exec_get, hexec]
  rw [exec_IPv8_init _ hm2 hstat, hsec]
  have hm3 : (⟨(m.replaceTree p.defaultConfig t').1,
      p.managers.set i (m.replaceTree p.defaultConfig t').2, p.files, .rustEndpoint⟩ :
        Process).managers[i]? = some (m.replaceTree p.defaultConfig t').2 := hm2
  simp only [Except.map, exec_configGet _ hm3, hifs, exec_raiseOf_ok, Json.iter, hb]
  cases b <;> simp

/-- **Without the Rust backend**: `INTERFACES` is left as it is and, when every `UDPIPv4`
interface carries `worker_threads`, IPv8 is built with none of them carrying it. -/
theorem exec_rustEnhancements_unavailable {xs : List Json}
    (hx : HasInterfaces (m.tree p.defaultConfig) xs)
    (hw : ∀ x ∈ xs, isUDPIPv4 x = true → (workerThreads x).isSome)
    (socksServers : List Socks5Server) :
    ∃ ipv8 p', (rustEnhancements false i socksServers (IPv8.init i)).exec p =
        (.ok (ipv8, socksServers), p') ∧
      ipv8.endpoint = p.interfaces ∧ p'.interfaces = p.interfaces ∧
      interfacesOf ipv8.configuration = xs.map withoutWorkerThreads := by
  obtain ⟨t', hset, hexec⟩ := exec_forEachUDPIPv4 p hm hx
    fun x hx' => (ifUDPIPv4_pop (hx.2 x hx') (hw x hx') : _ = .ok (withoutWorkerThreads x))
  obtain ⟨⟨sec, hsec, hint⟩, hstat, -⟩ := reads_after_interfaces p hs hx.1 hset
  have hm2 := List.getElem?_set_of_getElem? hm (m.replaceTree p.defaultConfig t').2
  refine ⟨⟨sec, s, p.interfaces⟩, ⟨(m.replaceTree p.defaultConfig t').1,
    p.managers.set i (m.replaceTree p.defaultConfig t').2, p.files, p.interfaces⟩, ?_, rfl, rfl,
    hint⟩
  simp only [rustEnhancements, Bool.false_eq_true, if_false, exec_bind, hexec]
  rw [exec_IPv8_init _ hm2 hstat, hsec]
  rfl

/-- **Without the Rust backend, a `UDPIPv4` interface lacking `worker_threads` makes the selection
raise half-way**: `KeyError('worker_threads')` propagates, and the configuration keeps what the
loop did before it. -/
theorem exec_rustEnhancements_unavailable_missing {xs ys : List Json} {x : Json}
    (hx : walk (m.tree p.defaultConfig) ["ipv8", "interfaces"] = some (.arr (xs ++ x :: ys)))
    (hkeys : ∀ y ∈ xs, hasInterfaceKey y = true)
    (hw : ∀ y ∈ xs, isUDPIPv4 y = true → (workerThreads y).isSome)
    (hu : isUDPIPv4 x = true) (hnw : workerThreads x = none) (socksServers : List Socks5Server) :
    ∃ m' p', (rustEnhancements false i socksServers (IPv8.init i)).exec p =
        (.error (.keyError "worker_threads"), p') ∧ p'.interfaces = p.interfaces ∧
      p'.managers[i]? = some m' ∧
      m'.get p'.defaultConfig "ipv8/interfaces" =
        .ok (.arr (xs.map withoutWorkerThreads ++ x :: ys)) := by
  have hloop : mutateEach (ifUDPIPv4 fun ifc => ifc.pop "worker_threads") (xs ++ x :: ys) =
      (xs.map withoutWorkerThreads ++ x :: ys, some (.keyError "worker_threads")) :=
    mutateEach_append_error (ifUDPIPv4_pop_missing hu hnw) ys
      fun y hy => ifUDPIPv4_pop (hkeys y hy) (hw y hy)
  obtain ⟨t', hset, hexec⟩ := exec_forEachUDPIPv4_mutateEach p hm _ hx
  rw [hloop] at hset hexec
  obtain ⟨-, -, hifs⟩ := reads_after_interfaces p hs hx hset
  refine ⟨_, ⟨(m.replaceTree p.defaultConfig t').1,
    p.managers.set i (m.replaceTree p.defaultConfig t').2, p.files, p.interfaces⟩, ?_, rfl,
    List.getElem?_set_of_getElem? hm _, hifs⟩
  simp only [rustEnhancements, Bool.false_eq_true, if_false, exec_bind, hexec]
  rfl

/-- The `with` statement: `nullcontext()` when `statistics` is truthy, else `rust_enhancements`. -/
theorem exec_initIPv8 (rustAvailable : Bool) (socksServers : List Socks5Server) :
    (Session.initIPv8 rustAvailable i socksServers).exec p =
      if s.truthy then
        ((m.get p.defaultConfig "ipv8").map fun c => (⟨c, s, p.interfaces⟩, socksServers), p)
      else (rustEnhancements rustAvailable i socksServers (IPv8.init i)).exec p := by
  by_cases ht : s.truthy
  · cases hc : m.get p.defaultConfig "ipv8" <;>
      simp [Session.initIPv8, exec_bind, exec_configGet p hm, hs, ht, exec_IPv8_init p hm hs, hc,
        Except.map]
  · simp [Session.initIPv8, exec_bind, exec_configGet p hm, hs, ht]

end

/-- **The selection is not all-or-nothing.**  Without the Rust backend and with `statistics`
falsy, when the first `UDPIPv4` interface lacking `worker_threads` comes after interfaces whose
`UDPIPv4` ones carry it, IPv8's construction raises `KeyError('worker_threads')`, and the
configuration is left with `worker_threads` popped from the interfaces before it and the rest as
they were. -/
theorem initIPv8_pops_until_missing (p : Process) (i : Nat) (m : TriblerConfigManager)
    (hm : p.managers[i]? = some m) (s : Json) (hs : m.get p.defaultConfig "statistics" = .ok s)
    (ht : s.truthy = false) (xs ys : List Json) (x : Json)
    (hx : HasInterfaces (m.tree p.defaultConfig) (xs ++ x :: ys))
    (hw : ∀ y ∈ xs, isUDPIPv4 y = true → (workerThreads y).isSome)
    (hu : isUDPIPv4 x = true) (hnw : workerThreads x = none) (socksServers : List Socks5Server) :
    ∃ m' p', (Session.initIPv8 false i socksServers).exec p =
        (.error (.keyError "worker_threads"), p') ∧ p'.interfaces = p.interfaces ∧
      p'.managers[i]? = some m' ∧
      m'.get p'.defaultConfig "ipv8/interfaces" =
        .ok (.arr (xs.map withoutWorkerThreads ++ x :: ys)) := by
  simpa [exec_initIPv8 p hm hs, ht] using
    exec_rustEnhancements_unavailable_missing p hm hs hx.1
      (fun y hy => hx.2 y (List.mem_append_left _ hy)) hw hu hnw socksServers

/-- Three interfaces: a `UDPIPv4` one with `worker_threads`, a `UDPIPv4` one without, and a
`UDPIPv6` one.  The construction raises `KeyError('worker_threads')` with `worker_threads` popped
from the first interface and the other two as they were. -/
theorem initIPv8_pops_until_missing_three_interfaces :
    let a : Json := .obj [("interface", .str "UDPIPv4"), ("port", .int 8090),
      ("worker_threads", .int 4)]
    let x : Json := .obj [("interface", .str "UDPIPv4"), ("port", .int 8091)]
    let b : Json := .obj [("interface", .str "UDPIPv6"), ("port", .int 8092)]
    let m : TriblerConfigManager := ⟨"configuration.json", .loaded (.obj [
      ("statistics", .bool false), ("ipv8", .obj [("interfaces", .arr [a, x, b])])])⟩
    let p : Process := ⟨.obj [], [m], fun _ => .absent, .udpEndpoint⟩
    p.managers[0]? = some m ∧ m.get p.defaultConfig "statistics" = .ok (.bool false) ∧
      (Json.bool false).truthy = false ∧ HasInterfaces (m.tree p.defaultConfig) ([a] ++ x :: [b]) ∧
      (∀ y ∈ [a], isUDPIPv4 y = true → (workerThreads y).isSome) ∧ isUDPIPv4 x = true ∧
      workerThreads x = none ∧
      ∃ m' p', (Session.initIPv8 false 0 []).exec p =
          (.error (.keyError "worker_threads"), p') ∧ p'.interfaces = p.interfaces ∧
        p'.managers[0]? = some m' ∧
        m'.get p'.defaultConfig "ipv8/interfaces" =
          .ok (.arr ([a].map withoutWorkerThreads ++ x :: [b])) := by
  intro a x b m p
  exact ⟨rfl, rfl, rfl, by decide, by decide, rfl, rfl,
    initIPv8_pops_until_missing p 0 m rfl (.bool false) rfl rfl [a] [b] x (by decide) (by decide)
      rfl rfl []⟩

/-! ## Runs of one process -/

/-- What a run of one process does: configuration calls and `Session(...)` constructions. -/
inductive Op where
  | config (op : ConfigOp)
  | newSession (i : Nat)

/-- A run: the process it ends in and the outcome of each `Session(...)`, in order.  Each step
starts from the process the one before left, whether or not it raised. -/
def run (rustAvailable : Bool) (p : Process) : List Op → Process × List (Except PyError Session)
  | [] => (p, [])
  | .config op :: ops => run rustAvailable (op.exec.exec p).2 ops
  | .newSession i :: ops =>
    let r := (Session.init rustAvailable i).exec p
    let rest := run rustAvailable r.2 ops
    (rest.1, r.1 :: rest.2)

/-! ## A second construction over the same configuration -/

theorem hasInterfaceKey_withoutWorkerThreads {ifc : Json} (h : hasInterfaceKey ifc = true) :
    hasInterfaceKey (withoutWorkerThreads ifc) = true := by
  cases ifc with
  | obj kvs =>
    simp only [withoutWorkerThreads]
    split
    · simpa [hasInterfaceKey, lookup_dictErase_ne] using h
    · exact h
  | _ => simp [hasInterfaceKey] at h

/-- A list with a `UDPIPv4` interface has a first one. -/
theorem exists_first_UDPIPv4 {xs : List Json} (h : ∃ x ∈ xs, isUDPIPv4 x = true) :
    ∃ pre x post, xs = pre ++ x :: post ∧ isUDPIPv4 x = true ∧ ∀ y ∈ pre, isUDPIPv4 y = false := by
  obtain ⟨x, hx⟩ := Option.isSome_iff_exists.1 (List.find?_isSome.2 h)
  obtain ⟨hu, pre, post, rfl, hpre⟩ := List.find?_eq_some.1 hx
  exact ⟨pre, x, post, rfl, hu, fun y hy => by simpa using hpre y hy⟩

/-- `Session(config)` over manager `i`, once `libtorrent/socks_listen_ports` has been read and
iterated: the IPv8 construction decides the outcome. -/
theorem exec_init (rustAvailable : Bool) (p : Process) {i : Nat} {m : TriblerConfigManager}
    (hm : p.managers[i]? = some m) {v : Json} {ports : List Json}
    (hv : m.get p.defaultConfig "libtorrent/socks_listen_ports" = .ok v)
    (hports : v.iter = .ok ports) :
    (Session.init rustAvailable i).exec p =
      match (Session.initIPv8 rustAvailable i (ports.map fun port => { port })).exec p with
      | (.ok r, p') => (.ok ⟨i, r.2, r.1, false, false, false⟩, p')
      | (.error e, p') => (.error e, p') := by
  simp only [Session.init, exec_bind, exec_configGet p hm, hv, exec_raiseOf_ok, hports]
  rcases (Session.initIPv8 rustAvailable i (ports.map fun port => { port })).exec p with
    ⟨_ | ⟨ipv8, socksServers⟩, p'⟩ <;> rfl

section
variable (p : Process) {i : Nat} {m : TriblerConfigManager} (hm : p.managers[i]? = some m)
  {s : Json} (hs : m.get p.defaultConfig "statistics" = .ok s)
include hm hs

/-- The Rust-less selection when every `UDPIPv4` interface carries `worker_threads`, with the
process it leaves: the manager's interface list with `worker_threads` popped. -/
theorem exec_rustEnhancements_unavailable_state {xs : List Json}
    (hx : HasInterfaces (m.tree p.defaultConfig) xs)
    (hw : ∀ x ∈ xs, isUDPIPv4 x = true → (workerThreads x).isSome)
    (socksServers : List Socks5Server) :
    ∃ t' ipv8, setPath (.arr (xs.map withoutWorkerThreads)) (m.tree p.defaultConfig)
        ["ipv8", "interfaces"] = .ok t' ∧
      (rustEnhancements false i socksServers (IPv8.init i)).exec p = (.ok (ipv8, socksServers),
        { p with
          defaultConfig := (m.replaceTree p.defaultConfig t').1,
          managers := p.managers.set i (m.replaceTree p.defaultConfig t').2 }) := by
  obtain ⟨t', hset, hexec⟩ := exec_forEachUDPIPv4 p hm hx
    fun x hx' => (ifUDPIPv4_pop (hx.2 x hx') (hw x hx') : _ = .ok (withoutWorkerThreads x))
  obtain ⟨⟨sec, hsec, -⟩, hstat, -⟩ := reads_after_interfaces p hs hx.1 hset
  have hm2 := List.getElem?_set_of_getElem? hm (m.replaceTree p.defaultConfig t').2
  refine ⟨t', ⟨sec, s, p.interfaces⟩, hset, ?_⟩
  simp only [rustEnhancements, Bool.false_eq_true, if_false, exec_bind, hexec]
  rw [exec_IPv8_init _ hm2 hstat, hsec]
  rfl

end

/-- What a later read of the configuration sees after the interface list was replaced: the new
list, and every path that diverges from `ipv8/interfaces` as before. -/
theorem hasInterfaces_replaceTree {d : Json} {m : TriblerConfigManager} {xs ys : List Json}
    {t' : Json} (hx : HasInterfaces (m.tree d) xs)
    (ht : setPath (.arr ys) (m.tree d) ["ipv8", "interfaces"] = .ok t')
    (hys : ∀ y ∈ ys, hasInterfaceKey y = true) :
    HasInterfaces ((m.replaceTree d t').2.tree (m.replaceTree d t').1) ys := by
  obtain ⟨kvs, skvs, htree, hsec, -⟩ := walk_interfaces hx.1
  rw [htree, setPath_cons_cons, Json.getItem_of_lookup hsec] at ht
  simp only [setPath_singleton, Json.setItem_obj, pure_eq_ok, bind, Except.bind] at ht
  rw [TriblerConfigManager.tree_replaceTree]
  refine ⟨?_, hys⟩
  cases ht
  simp only [walk_obj_cons, lookup_dictSet_self, Option.some_bind]
  rfl

/-- **Without the Rust backend a `Session` with statistics off cannot be built twice over one
configuration.**  When the configuration's interfaces include a `UDPIPv4` one and all of them
carry `worker_threads`, the first construction succeeds and pops `worker_threads` from the
configuration; the next construction over the same manager raises `KeyError('worker_threads')`,
whatever the run does afterwards. -/
theorem second_session_without_rust_raises (p : Process) (i : Nat) (m : TriblerConfigManager)
    (hm : p.managers[i]? = some m) (s : Json) (hs : m.get p.defaultConfig "statistics" = .ok s)
    (ht : s.truthy = false) (v : Json) (ports : List Json)
    (hv : m.get p.defaultConfig "libtorrent/socks_listen_ports" = .ok v)
    (hports : v.iter = .ok ports) (xs : List Json) (hx : HasInterfaces (m.tree p.defaultConfig) xs)
    (hw : ∀ x ∈ xs, isUDPIPv4 x = true → (workerThreads x).isSome)
    (hu : ∃ x ∈ xs, isUDPIPv4 x = true) (ops : List Op) :
    ∃ s₁ p' results, run false p (.newSession i :: .newSession i :: ops) =
      (p', .ok s₁ :: .error (.keyError "worker_threads") :: results) := by
  -- the first construction pops `worker_threads` everywhere
  obtain ⟨t', ipv8, hset, hsel⟩ := exec_rustEnhancements_unavailable_state p hm hs hx hw
    (ports.map fun port => { port })
  have hfirst := exec_init false p hm hv hports
  rw [exec_initIPv8 p hm hs, ht, if_neg Bool.false_ne_true, hsel] at hfirst
  -- what the second construction reads
  set p₁ : Process := { p with
    defaultConfig := (m.replaceTree p.defaultConfig t').1,
    managers := p.managers.set i (m.replaceTree p.defaultConfig t').2 }
  have hm₁ : p₁.managers[i]? = some (m.replaceTree p.defaultConfig t').2 :=
    List.getElem?_set_of_getElem? hm _
  obtain ⟨-, hs₁, -⟩ := reads_after_interfaces p hs hx.1 hset
  have hv₁ : (m.replaceTree p.defaultConfig t').2.get p₁.defaultConfig
      "libtorrent/socks_listen_ports" = .ok v := by
    rw [← hv]
    exact get_replaceTree_of_diverge p.defaultConfig m _ _ _ hset
      ["libtorrent", "socks_listen_ports"] (by decide)
  have hx₁ := hasInterfaces_replaceTree hx hset fun y hy => by
    obtain ⟨x, hx', rfl⟩ := List.mem_map.1 hy
    exact hasInterfaceKey_withoutWorkerThreads (hx.2 x hx')
  -- its loop meets a `UDPIPv4` interface without `worker_threads`
  obtain ⟨pre, x, post, hsplit, hux, hpre⟩ := exists_first_UDPIPv4 hu
  rw [hsplit, List.map_append, List.map_cons] at hx₁
  obtain ⟨m₂, p₂, hsecond, -⟩ := exec_rustEnhancements_unavailable_missing p₁ hm₁ hs₁ hx₁.1
    (fun y hy => hx₁.2 y (List.mem_append_left _ hy)) (fun y hy huy => by
      obtain ⟨y', hy', rfl⟩ := List.mem_map.1 hy
      simp [isUDPIPv4_withoutWorkerThreads, hpre y' hy'] at huy)
    (by rw [isUDPIPv4_withoutWorkerThreads, hux]) (workerThreads_withoutWorkerThreads hux)
    (ports.map fun port => { port })
  have hsecond' := exec_init false p₁ hm₁ hv₁ hports
  rw [exec_initIPv8 p₁ hm₁ hs₁, ht, if_neg Bool.false_ne_true, hsecond] at hsecond'
  dsimp only at hfirst hsecond'
  simp only [run, hfirst, hsecond']
  exact ⟨_, _, _, rfl⟩

/-- One `UDPIPv4` interface with `worker_threads = 4` and one SOCKS port: the first `Session`
is built, the second raises `KeyError('worker_threads')`. -/
theorem second_session_without_rust_raises_one_interface :
    let ifc : Json := .obj [("interface", .str "UDPIPv4"), ("port", .int 8090),
      ("worker_threads", .int 4)]
    let m : TriblerConfigManager := ⟨"configuration.json", .loaded (.obj [
      ("statistics", .bool false), ("libtorrent", .obj [("socks_listen_ports", .arr [.int 1080])]),
      ("ipv8", .obj [("interfaces", .arr [ifc])])])⟩
    let p : Process := ⟨.obj [], [m], fun _ => .absent, .udpEndpoint⟩
    p.managers[0]? = some m ∧ m.get p.defaultConfig "statistics" = .ok (.bool false) ∧
      (Json.bool false).truthy = false ∧
      m.get p.defaultConfig "libtorrent/socks_listen_ports" = .ok (.arr [.int 1080]) ∧
      (Json.arr [.int 1080]).iter = .ok [.int 1080] ∧ HasInterfaces (m.tree p.defaultConfig) [ifc] ∧
      (∀ x ∈ [ifc], isUDPIPv4 x = true → (workerThreads x).isSome) ∧
      (∃ x ∈ [ifc], isUDPIPv4 x = true) ∧
      ∃ s₁ p' results, run false p [.newSession 0, .newSession 0] =
        (p', .ok s₁ :: .error (.keyError "worker_threads") :: results) := by
  intro ifc m p
  exact ⟨rfl, rfl, rfl, rfl, rfl, by decide, by decide, by decide,
    second_session_without_rust_raises p 0 m rfl (.bool false) rfl rfl (.arr [.int 1080])
      [.int 1080] rfl rfl [ifc] (by decide) (by decide) (by decide) []⟩

/-! ## The first construction on IPv8's defaults -/

/-- The `UDPIPv4` interface IPv8's default configuration lists first. -/
def defaultUDPIPv4 : Json :=
  .obj [("interface", .str "UDPIPv4"), ("ip", .str "0.0.0.0"), ("port", .int 8090)]

/-- **Without the Rust backend the first `Session` on the shipped defaults raises.**  With no
configuration file the manager holds `DEFAULT_CONFIG`, whose `statistics` is `False` and whose
`ipv8` section starts with IPv8's interface list, the `UDPIPv4` interface first and without
`worker_threads`.  `rust_enhancements` pops `worker_threads` from it without a default, and the
construction raises `KeyError('worker_threads')`, whatever follows in the list and the section. -/
theorem first_session_without_rust_raises (more : List Json) (rest : List (String × Json))
    (stateDir saveas : String) :
    ∃ p, run false (Process.initial (.obj (("interfaces", .arr (defaultUDPIPv4 :: more)) :: rest))
        stateDir saveas fun _ => .absent)
      [.config (.newManager "configuration.json"), .newSession 0] =
        (p, [.error (.keyError "worker_threads")]) := by
  let p₀ := ((ConfigOp.newManager "configuration.json").exec.exec (Process.initial
    (.obj (("interfaces", .arr (defaultUDPIPv4 :: more)) :: rest)) stateDir saveas
      fun _ => .absent)).2
  let m : TriblerConfigManager := ⟨"configuration.json", .defaultConfig⟩
  have hm : p₀.managers[0]? = some m := rfl
  have hs : m.get p₀.defaultConfig "statistics" = .ok (.bool false) := rfl
  -- the loop meets the `UDPIPv4` interface first
  have hx : walk (m.tree p₀.defaultConfig) ["ipv8", "interfaces"] =
      some (.arr ([] ++ defaultUDPIPv4 :: more)) := rfl
  obtain ⟨-, p', hsel, -⟩ := exec_rustEnhancements_unavailable_missing p₀ hm hs hx (by simp)
    (by simp) rfl rfl ((List.replicate 5 (Json.int 0)).map fun port => { port })
  have hinit := exec_init false p₀ hm (v := .arr (List.replicate 5 (.int 0))) rfl rfl
  rw [exec_initIPv8 p₀ hm hs, if_neg (by decide), hsel] at hinit
  refine ⟨p', show run false p₀ [.newSession 0] = _ from ?_⟩
  simp only [run, hinit]

end Tribler
