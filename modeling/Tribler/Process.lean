import Tribler.Config.Laws

/-!
# The Python process: `DEFAULT_CONFIG`, the managers, the files and `INTERFACES`

The state the configuration code and `Session.__init__` share in one interpreter: the module's
`DEFAULT_CONFIG` dict, every `TriblerConfigManager` built so far (referred to by position, as
Python refers to an object), the configuration files, and the class IPv8's dispatcher holds at
`INTERFACES["UDPIPv4"]`.  Code runs in `PyM`: it may raise, and what it changed before raising
stays changed.

A manager built without a usable file holds `DEFAULT_CONFIG` itself, so `set` on it changes
what every other manager falls back to (`set_on_default_manager`,
`get_after_set_on_default_manager`).  A file that cannot be read makes the construction raise.

The other results are about the processes a run of the configuration code ends in
(`ConfigRun`): constructions, `set`s of new objects and `write`s from the start.  There no dict
is shared but `DEFAULT_CONFIG` by the managers that hold it, which is what the trees express.  In
them `set` then `get` obeys the laws of `Tribler.Config.Laws`, a `set` on a
manager with a tree of its own changes only that manager, and with no manager holding
`DEFAULT_CONFIG` it keeps its value over every run.  What `write` saves, a new manager reads back,
tuples as lists (`exec_write_newManager`).

`Triple P x Q` is the partial-correctness triple of `PyM`: what a run of `x` that returns leaves.
-/

namespace Tribler

/-- A class `INTERFACES["UDPIPv4"]` can hold. -/
inductive EndpointClass where
  /-- IPv8's own `UDPEndpoint`, the module's initial value. -/
  | udpEndpoint
  /-- `ipv8_rust_tunnels.endpoint.RustEndpoint`. -/
  | rustEndpoint
deriving DecidableEq, Repr

structure Process where
  /-- The module's `DEFAULT_CONFIG` dict. -/
  defaultConfig : Json
  /-- The `TriblerConfigManager`s built so far, in construction order. -/
  managers : List TriblerConfigManager
  /-- What each configuration file holds. -/
  files : String → ConfigFile
  /-- `INTERFACES["UDPIPv4"]`. -/
  interfaces : EndpointClass

/-- The process once the modules are imported: the shipped `DEFAULT_CONFIG`, no manager, and
IPv8's own endpoint in `INTERFACES`. -/
def Process.initial (ipv8 : Json) (stateDir saveas : String) (files : String → ConfigFile) :
    Process :=
  { defaultConfig := Tribler.defaultConfig ipv8 stateDir saveas
    managers := []
    files
    interfaces := .udpEndpoint }

/-- Code of the process: it reads and changes the process and may raise. -/
abbrev PyM := ExceptT PyError (StateM Process)

/-- Running `x` from `p`: its result or exception, and the process afterwards. -/
def PyM.exec {α : Type} (x : PyM α) (p : Process) : Except PyError α × Process := x.run.run p

/-- A computed result, raising its exception. -/
def raiseOf {α : Type} : Except PyError α → PyM α
  | .ok a => pure a
  | .error e => throw e

/-! ## Run lemmas -/

section
variable {α β : Type} (p : Process)

@[simp] theorem exec_pure (a : α) : (pure a : PyM α).exec p = (.ok a, p) := rfl

@[simp] theorem exec_throw (e : PyError) : (throw e : PyM α).exec p = (.error e, p) := rfl

@[simp] theorem exec_get : (get : PyM Process).exec p = (.ok p, p) := rfl

@[simp] theorem exec_set (q : Process) : (set q : PyM PUnit).exec p = (.ok ⟨⟩, q) := rfl

@[simp] theorem exec_modify (f : Process → Process) :
    (modify f : PyM PUnit).exec p = (.ok ⟨⟩, f p) := rfl

theorem exec_bind (x : PyM α) (f : α → PyM β) :
    (x >>= f).exec p = match x.exec p with
      | (.ok a, p') => (f a).exec p'
      | (.error e, p') => (.error e, p') := by
  simp only [PyM.exec, ExceptT.run_bind, StateT.run_bind]
  rcases x.run.run p with ⟨_ | _, _⟩ <;> rfl

@[simp] theorem exec_map (f : α → β) (x : PyM α) :
    (f <$> x).exec p = ((x.exec p).1.map f, (x.exec p).2) := by
  rw [← bind_pure_comp, exec_bind]
  rcases x.exec p with ⟨_ | _, _⟩ <;> rfl

theorem exec_bind_ok {x : PyM α} {a : α} {p' : Process} (h : x.exec p = (.ok a, p'))
    (f : α → PyM β) : (x >>= f).exec p = (f a).exec p' := by
  rw [exec_bind, h]

/-- A bind that returns ran both its parts to completion. -/
theorem exec_bind_eq_ok {x : PyM α} {f : α → PyM β} {b : β} {p'' : Process}
    (h : (x >>= f).exec p = (.ok b, p'')) :
    ∃ a p', x.exec p = (.ok a, p') ∧ (f a).exec p' = (.ok b, p'') := by
  rw [exec_bind] at h
  rcases hx : x.exec p with ⟨_ | a, p'⟩ <;> rw [hx] at h
  · cases h
  · exact ⟨a, p', rfl, h⟩

theorem exec_bind_error {x : PyM α} {e : PyError} {p' : Process}
    (h : x.exec p = (.error e, p')) (f : α → PyM β) : (x >>= f).exec p = (.error e, p') := by
  rw [exec_bind, h]

@[simp] theorem exec_raiseOf_ok (a : α) : (raiseOf (.ok a)).exec p = (.ok a, p) := rfl

@[simp] theorem exec_raiseOf_error (e : PyError) :
    (raiseOf (.error e) : PyM α).exec p = (.error e, p) := rfl

theorem raiseOf_eq_ok {r : Except PyError α} {a : α} {p' : Process}
    (h : (raiseOf r).exec p = (.ok a, p')) : r = .ok a ∧ p' = p := by
  cases r <;> cases h
  exact ⟨rfl, rfl⟩

end

/-! ## Triples -/

/-- From a process satisfying `P`, whatever `x` returns, with the process it returns in,
satisfies `Q` (a raise promises nothing). -/
def Triple {α : Type} (P : Process → Prop) (x : PyM α) (Q : α → Process → Prop) : Prop :=
  ∀ p, P p → ∀ a p', x.exec p = (.ok a, p') → Q a p'

section
variable {α β : Type} {P : Process → Prop}

theorem Triple.bind {x : PyM α} {f : α → PyM β} {R : α → Process → Prop}
    {Q : β → Process → Prop} (hx : Triple P x R) (hf : ∀ a, Triple (R a) (f a) Q) :
    Triple P (x >>= f) Q := by
  intro p hp b p'' h
  obtain ⟨a, p', h1, h2⟩ := exec_bind_eq_ok p h
  exact hf a p' (hx p hp a p' h1) b p'' h2

theorem triple_true (x : PyM α) : Triple P x fun _ _ => True := fun _ _ _ _ _ => trivial

theorem triple_pure {a : α} {Q : α → Process → Prop} (h : ∀ p, P p → Q a p) :
    Triple P (pure a) Q := by
  intro p hp b p' hr
  cases hr
  exact h p hp

theorem triple_get {Q : Process → Process → Prop} (h : ∀ p, P p → Q p p) : Triple P get Q := by
  intro p hp b p' hr
  cases hr
  exact h p hp

end

/-! ## The configuration code in the process -/

/-- The manager object `managers[i]`; a reference to no manager behaves as `None`. -/
def manager (i : Nat) : PyM TriblerConfigManager := do
  match (← get).managers[i]? with
  | some m => pure m
  | none => throw (.attributeError "NoneType" "configuration")

/-- `config.get(option)` on manager `i`. -/
def configGet (i : Nat) (option : String) : PyM Json := do
  let m ← manager i
  raiseOf (m.get (← get).defaultConfig option)

/-- An in-place change of manager `i`'s configuration to `t`. -/
def replaceTree (i : Nat) (t : Json) : PyM Unit := do
  let m ← manager i
  modify fun p =>
    let r := m.replaceTree p.defaultConfig t
    { p with defaultConfig := r.1, managers := p.managers.set i r.2 }

/-- `config.set(option, value)` on manager `i`. -/
def configSet (i : Nat) (option : String) (value : Json) : PyM Unit := do
  let m ← manager i
  let p ← get
  let r ← raiseOf (m.set p.defaultConfig option value)
  set { p with defaultConfig := r.1, managers := p.managers.set i r.2 }

/-- `TriblerConfigManager(config_file)`: the new manager's position; a file that cannot be read
raises out of the constructor, and no manager is added. -/
def newManager (configFile : String) : PyM Nat := do
  let p ← get
  let m ← raiseOf (TriblerConfigManager.init configFile (p.files configFile))
  set { p with managers := p.managers ++ [m] }
  pure p.managers.length

/-- `config.write()` on manager `i`. -/
def configWrite (i : Nat) : PyM Unit := do
  let m ← manager i
  modify fun p =>
    { p with files := Function.update p.files m.configFile (m.write p.defaultConfig) }

theorem List.set_self_of_getElem? {α : Type} {l : List α} {i : Nat} {a : α} (h : l[i]? = some a) :
    l.set i a = l := by
  apply List.ext_getElem?
  intro j
  rw [List.getElem?_set]
  split
  · subst_vars
    simp [(List.getElem?_eq_some_iff.mp h).1, h]
  · rfl

theorem List.getElem?_set_of_getElem? {α : Type} {l : List α} {i : Nat} {a : α}
    (h : l[i]? = some a) (b : α) : (l.set i b)[i]? = some b :=
  List.getElem?_set_self (List.getElem?_eq_some_iff.mp h).1

section
variable (p : Process) {i : Nat} {m : TriblerConfigManager}

theorem exec_manager (hm : p.managers[i]? = some m) : (manager i).exec p = (.ok m, p) := by
  simp [manager, exec_bind, hm]

theorem exec_manager_none (hm : p.managers[i]? = none) :
    (manager i).exec p = (.error (.attributeError "NoneType" "configuration"), p) := by
  simp [manager, exec_bind, hm]

theorem exec_configGet (hm : p.managers[i]? = some m) (option : String) :
    (configGet i option).exec p = (raiseOf (m.get p.defaultConfig option)).exec p := by
  simp [configGet, exec_bind, exec_manager p hm]

theorem exec_replaceTree (hm : p.managers[i]? = some m) (t : Json) :
    (replaceTree i t).exec p = (.ok (), { p with
      defaultConfig := (m.replaceTree p.defaultConfig t).1,
      managers := p.managers.set i (m.replaceTree p.defaultConfig t).2 }) := by
  simp [replaceTree, exec_bind, exec_manager p hm]

/-- `set` raises exactly what the manager's `set` raises, changing nothing, or commits its
result. -/
theorem exec_configSet (hm : p.managers[i]? = some m) (option : String) (value : Json) :
    (configSet i option value).exec p =
      match m.set p.defaultConfig option value with
      | .ok r => (.ok (), { p with defaultConfig := r.1, managers := p.managers.set i r.2 })
      | .error e => (.error e, p) := by
  cases h : m.set p.defaultConfig option value <;>
    simp [configSet, exec_bind, exec_manager p hm, h]

theorem exec_newManager {configFile : String}
    (hm : TriblerConfigManager.init configFile (p.files configFile) = .ok m) :
    (newManager configFile).exec p =
      (.ok p.managers.length, { p with managers := p.managers ++ [m] }) := by
  simp [newManager, exec_bind, hm, Except.map]

theorem exec_newManager_error {configFile : String} {e : PyError}
    (he : TriblerConfigManager.init configFile (p.files configFile) = .error e) :
    (newManager configFile).exec p = (.error e, p) := by
  simp [newManager, exec_bind, he]

theorem exec_configWrite (hm : p.managers[i]? = some m) :
    (configWrite i).exec p = (.ok (), { p with
      files := Function.update p.files m.configFile (m.write p.defaultConfig) }) := by
  simp [configWrite, exec_bind, exec_manager p hm]

end

/-- `config.get` changes nothing, whether it returns or raises. -/
theorem configGet_state (p : Process) (i : Nat) (option : String) :
    ((configGet i option).exec p).2 = p := by
  cases hm : p.managers[i]? with
  | none => rw [configGet, exec_bind_error p (exec_manager_none p hm)]
  | some m => rw [exec_configGet p hm]; cases m.get p.defaultConfig option <;> rfl

/-! ## Runs of constructions, `set`s and `write`s -/

/-- The configuration calls a run interleaves.  The value of a `set` is a new object (a literal,
a copy, or what `json.load` returned) that nothing else holds. -/
inductive ConfigOp where
  | newManager (configFile : String)
  | set (i : Nat) (option : String) (value : Json)
  | write (i : Nat)

def ConfigOp.exec : ConfigOp → PyM Unit
  | .newManager configFile => do let _ ← Tribler.newManager configFile
  | .set i option value => configSet i option value
  | .write i => configWrite i

/-- A run: each call from the process the one before left, whether or not it raised. -/
def runConfig (p : Process) : List ConfigOp → Process
  | [] => p
  | op :: ops => runConfig (op.exec.exec p).2 ops

/-- A run of the configuration code from the process the modules leave.

In the process it ends in (`ConfigRun.process`) no dict is reached by two paths of one
configuration, or from a manager's own tree and from `DEFAULT_CONFIG` both, other than through a
manager that holds `DEFAULT_CONFIG` itself (`Configuration.defaultConfig`): its `Json` trees are
the process.  A call such as `config.set(q, config.get(r))` with a dict is no step of such a run:
it makes two paths lead to one dict, after which a `set` through one of them changes what `get`
of the other returns, which no tree can show. -/
structure ConfigRun where
  /-- IPv8's default configuration after the module's changes, and the paths `DEFAULT_CONFIG` is
  computed from (`Process.initial`). -/
  ipv8 : Json
  stateDir : String
  saveas : String
  /-- What each configuration file holds at the start. -/
  files : String → ConfigFile
  /-- The calls, in order. -/
  ops : List ConfigOp

/-- The process a run ends in. -/
def ConfigRun.process (r : ConfigRun) : Process :=
  runConfig (Process.initial r.ipv8 r.stateDir r.saveas r.files) r.ops

/-! ## `DEFAULT_CONFIG` through a manager that holds it -/

section
variable (p : Process) (i : Nat) (file : String) (hm : p.managers[i]? = some ⟨file, .defaultConfig⟩)
  (option : String) (value t : Json) (hs : setPath value p.defaultConfig (pathParts option) = .ok t)
include hm hs

/-- **The defaults are shared.**  `set` on a manager built on `DEFAULT_CONFIG` assigns into
`DEFAULT_CONFIG` itself. -/
theorem set_on_default_manager :
    (configSet i option value).exec p = (.ok (), { p with defaultConfig := t }) := by
  rw [exec_configSet p hm]
  simp [TriblerConfigManager.set, hs, List.set_self_of_getElem? hm]

/-- After such a `set`, every manager whose configuration is a dict without the path's first
part gets the value set, not the shipped default, from `get`. -/
theorem get_after_set_on_default_manager (other : TriblerConfigManager)
    (kvs : List (String × Json)) (ho : other.configuration = .loaded (.obj kvs))
    (hk : ∀ part ∈ (pathParts option).head?, kvs.lookup part = none) :
    other.get ((configSet i option value).exec p).2.defaultConfig option = .ok value := by
  obtain ⟨f, c⟩ := other
  cases ho
  rw [set_on_default_manager p i file hm option value t hs]
  cases hp : pathParts option with
  | nil => simp [hp] at hs
  | cons part rest =>
    simp only [hp, Option.mem_def, Option.some.injEq, List.head?_cons, forall_eq'] at hk
    simp only [TriblerConfigManager.get, TriblerConfigManager.tree_loaded, getParts, hp,
      getWalk_obj_cons, hk]
    exact getDefault_setPath_self value (hp ▸ hs)

end

/-- The run of the failure: a manager built without a file, `set("statistics", True)` on it,
then a manager built from a file that has no `statistics` entry.  The second manager's
`get("statistics")` returns `True`, where the shipped default is `False`. -/
theorem statistics_default_overwritten :
    ∃ p, runConfig (Process.initial (.obj []) "/state" "/downloads"
        fun f => if f = "old.json" then .decoded (.obj [("api", .obj [])]) else .absent)
        [.newManager "configuration.json", .set 0 "statistics" (.bool true),
          .newManager "old.json"] = p ∧
      (p.managers[1]?).map (·.get p.defaultConfig "statistics") = some (.ok (.bool true)) ∧
      getParts (defaultConfig (.obj []) "/state" "/downloads") (.obj []) ["statistics"] =
        .ok (.bool false) ∧
      p.defaultConfig ≠ defaultConfig (.obj []) "/state" "/downloads" := by
  -- the first manager holds `DEFAULT_CONFIG` itself
  let p₀ := ((ConfigOp.newManager "configuration.json").exec.exec
    (Process.initial (.obj []) "/state" "/downloads"
      fun f => if f = "old.json" then .decoded (.obj [("api", .obj [])]) else .absent)).2
  obtain ⟨t, hs⟩ : ∃ t, setPath (.bool true) p₀.defaultConfig (pathParts "statistics") = .ok t :=
    ⟨_, rfl⟩
  have hget := get_after_set_on_default_manager p₀ 0 "configuration.json" rfl "statistics"
    (.bool true) t hs ⟨"old.json", .loaded (.obj [("api", .obj [])])⟩ _ rfl (by decide)
  exact ⟨_, rfl, congrArg some hget, rfl, by decide⟩

/-! ## A manager that holds a tree of its own -/

/-- `write` then a construction from the same file: the new manager holds, as a tree of its own,
what `json.load` reads back of the written tree. -/
theorem exec_write_newManager (p : Process) {i : Nat} {m : TriblerConfigManager}
    (hm : p.managers[i]? = some m) (ht : (m.tree p.defaultConfig).truthy = true) :
    (configWrite i >>= fun _ => newManager m.configFile).exec p =
      (.ok p.managers.length, { p with
        files := Function.update p.files m.configFile (m.write p.defaultConfig),
        managers := p.managers ++ [⟨m.configFile, .loaded (m.tree p.defaultConfig).reload⟩] }) := by
  rw [exec_bind_ok p (exec_configWrite p hm), exec_newManager]
  simp [TriblerConfigManager.init, TriblerConfigManager.write, Json.truthy_reload, ht]

/-- **`set` then `get`.**  In a process a run of the configuration code ends in, on a manager
whose configuration has dicts along the proper prefixes of the path, `set` returns; `get` of the
path then returns the value, and `get` of every diverging path returns what it returned before,
also when the manager holds `DEFAULT_CONFIG` itself. -/
theorem set_get_laws (r : ConfigRun) {i : Nat} {m : TriblerConfigManager}
    (hm : r.process.managers[i]? = some m) (option : String) (v : Json)
    (hne : pathParts option ≠ [])
    (hpar : ParentsAreDicts (m.tree r.process.defaultConfig) (pathParts option)) :
    ∃ p', (configSet i option v).exec r.process = (.ok (), p') ∧
      (configGet i option).exec p' = (.ok v, p') ∧
      ∀ q, PathsDiverge (pathParts option) (pathParts q) →
        ((configGet i q).exec p').1 = ((configGet i q).exec r.process).1 := by
  obtain ⟨d', m', hs, hget, hq⟩ :=
    set_get_of_parentsAreDicts r.process.defaultConfig m option v hne hpar
  have hm' := List.getElem?_set_of_getElem? hm m'
  refine ⟨_, by rw [exec_configSet _ hm, hs], by rw [exec_configGet _ hm', hget]; rfl,
    fun q hdiv => ?_⟩
  rw [exec_configGet _ hm', exec_configGet _ hm, hq q hdiv]
  cases m.get r.process.defaultConfig q <;> rfl

/-- A configuration file holding `{"api": {}}`: `set("api/http_port", 8085)` returns, and `get`
reads `8085` back. -/
theorem set_get_laws_api_port :
    let r : ConfigRun := ⟨.obj [], "/state", "/downloads", fun _ => .decoded (.obj [("api", .obj [])]),
      [.newManager "configuration.json"]⟩
    r.process.managers[0]? = some ⟨"configuration.json", .loaded (.obj [("api", .obj [])])⟩ ∧
      pathParts "api/http_port" ≠ [] ∧
      ParentsAreDicts (.obj [("api", .obj [])]) (pathParts "api/http_port") ∧
      ∃ p', (configSet 0 "api/http_port" (.int 8085)).exec r.process = (.ok (), p') ∧
        (configGet 0 "api/http_port").exec p' = (.ok (.int 8085), p') ∧
        ∀ q, PathsDiverge (pathParts "api/http_port") (pathParts q) →
          ((configGet 0 q).exec p').1 = ((configGet 0 q).exec r.process).1 :=
  ⟨rfl, by decide, by decide, set_get_laws _ rfl "api/http_port" (.int 8085) (by decide) (by decide)⟩

/-! ## `DEFAULT_CONFIG` over whole runs -/

/-- No manager holds `DEFAULT_CONFIG`, and none can come to: each holds a truthy tree of its own
and each file decodes to a truthy value. -/
structure NoDefaultHolder (p : Process) : Prop where
  managers : ∀ m ∈ p.managers, ∃ t, m.configuration = .loaded t ∧ t.truthy
  files : ∀ f, ∃ v, p.files f = .decoded v ∧ v.truthy

/-- One call keeps `NoDefaultHolder` and leaves `DEFAULT_CONFIG` as it was. -/
theorem noDefaultHolder_step {p : Process} (h : NoDefaultHolder p) (op : ConfigOp) :
    NoDefaultHolder (op.exec.exec p).2 ∧ (op.exec.exec p).2.defaultConfig = p.defaultConfig := by
  cases op with
  | newManager f =>
    obtain ⟨v, hv, ht⟩ := h.files f
    have hinit : TriblerConfigManager.init f (p.files f) = .ok ⟨f, .loaded v⟩ := by
      simp [TriblerConfigManager.init, hv, ht]
    rw [ConfigOp.exec, exec_bind_ok p (exec_newManager p hinit)]
    refine ⟨⟨fun m hm => ?_, h.files⟩, rfl⟩
    rcases List.mem_append.mp hm with hm | hm
    · exact h.managers m hm
    · exact ⟨v, by simp [List.mem_singleton.1 hm], ht⟩
  | set i option value =>
    rw [ConfigOp.exec]
    cases hm : p.managers[i]? with
    | none => simp [configSet, exec_bind_error p (exec_manager_none p hm), h]
    | some m =>
      obtain ⟨t, hc, ht⟩ := h.managers m (List.getElem?_mem hm)
      obtain ⟨f, c⟩ := m
      cases hc
      rw [exec_configSet p hm]
      cases hs : setPath value t (pathParts option) with
      | error e => simp [TriblerConfigManager.set, hs, h]
      | ok t' =>
        simp only [TriblerConfigManager.set, TriblerConfigManager.tree_loaded, hs, ok_bind,
          TriblerConfigManager.replaceTree_loaded]
        refine ⟨⟨fun m hm' => ?_, h.files⟩, rfl⟩
        rcases List.mem_or_eq_of_mem_set hm' with hm' | rfl
        · exact h.managers m hm'
        · exact ⟨t', rfl, truthy_of_setPath hs⟩
  | write i =>
    rw [ConfigOp.exec]
    cases hm : p.managers[i]? with
    | none => simp [configWrite, exec_bind_error p (exec_manager_none p hm), h]
    | some m =>
      obtain ⟨t, hc, ht⟩ := h.managers m (List.getElem?_mem hm)
      rw [exec_configWrite p hm]
      refine ⟨⟨h.managers, fun f => ?_⟩, rfl⟩
      by_cases hf : f = m.configFile
      · subst hf
        exact ⟨t.reload, by simp [TriblerConfigManager.write, TriblerConfigManager.tree, hc,
          Configuration.tree], by rwa [Json.truthy_reload]⟩
      · simpa [Function.update_noteq hf] using h.files f

end Tribler
