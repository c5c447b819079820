import Tribler.Json

/-!
# `TriblerConfigManager`: loading, `get`, `set` and `write`

`tribler_config.py` keeps the configuration as the value `json.load` read from the file, or,
when there is no usable file, as `DEFAULT_CONFIG` itself (`Configuration.defaultConfig`: the
manager holds the module's dict, not a copy).  Only a `JSONDecodeError` is caught: a file that
cannot be opened or read makes the construction raise.  `get` walks the path's parts through the
configuration and, at the first part missing there, starts over in `DEFAULT_CONFIG`; `set`
indexes the configuration directly and assigns the last part.

Paths are split as `pathlib.PurePosixPath(option).parts` splits them (`pathParts`); joining
well-formed components with `/` and splitting gives them back.

Over trees the functions are pure: the process that holds managers and `DEFAULT_CONFIG` is in
`Tribler.Process`.
-/

namespace Tribler

/-! ## `Path(option).parts` -/

/-- `posixpath.splitroot`: the root (`""`, `"/"`, or exactly two slashes) and the rest. -/
def splitRoot : List Char → String × List Char
  | '/' :: '/' :: '/' :: rest => ("/", '/' :: '/' :: rest)
  | '/' :: '/' :: rest => ("//", rest)
  | '/' :: rest => ("/", rest)
  | rest => ("", rest)

/-- `str.split("/")` on characters. -/
def splitSlash (cs : List Char) : List (List Char) := cs.splitOn '/'

/-- `PurePosixPath(option).parts`: the root, then the non-empty components other than `.`. -/
def pathParts (option : String) : List String :=
  let (root, rel) := splitRoot option.toList
  (if root = "" then [] else [root]) ++
    ((splitSlash rel).filter fun w => w ≠ [] ∧ w ≠ ['.']).map String.mk

example : pathParts "tunnel_community/max_circuits" = ["tunnel_community", "max_circuits"] := by
  decide
example : pathParts "a//./b/" = ["a", "b"] := by decide

theorem splitRoot_cons_of_ne {c : Char} (hc : c ≠ '/') (rest : List Char) :
    splitRoot (c :: rest) = ("", c :: rest) := by
  unfold splitRoot
  split <;> simp_all

/-- **Parsing undoes joining.**  Components that are non-empty, not `.` and free of `/`, joined
with `/`, are split back into themselves. -/
theorem pathParts_intercalate {ws : List (List Char)} (hne : ws ≠ [])
    (hw : ∀ w ∈ ws, w ≠ [] ∧ w ≠ ['.'] ∧ '/' ∉ w) :
    pathParts (String.mk (['/'].intercalate ws)) = ws.map String.mk := by
  obtain ⟨w, ws, rfl⟩ := List.exists_cons_of_ne_nil hne
  obtain ⟨c, cs, rfl⟩ := List.exists_cons_of_ne_nil (hw _ (List.mem_cons_self _ _)).1
  have hc : c ≠ '/' := fun h => (hw _ (List.mem_cons_self _ _)).2.2 (h ▸ List.mem_cons_self _ _)
  have hsplit : splitSlash (['/'].intercalate ((c :: cs) :: ws)) = (c :: cs) :: ws :=
    List.splitOn_intercalate _ '/' (fun l hl => (hw l hl).2.2) hne
  have hhead : ∃ rest, ['/'].intercalate ((c :: cs) :: ws) = c :: rest := by
    cases ws <;> simp [List.intercalate]
  obtain ⟨rest, hrest⟩ := hhead
  simp only [pathParts, String.toList, hrest, splitRoot_cons_of_ne hc] at hsplit ⊢
  rw [hsplit, List.filter_eq_self.2 fun w hw' => by simpa using ⟨(hw w hw').1, (hw w hw').2.1⟩]
  rfl

theorem pathParts_intercalate_max_circuits :
    ["tunnel_community".toList, "max_circuits".toList] ≠ [] ∧
    (∀ w ∈ ["tunnel_community".toList, "max_circuits".toList], w ≠ [] ∧ w ≠ ['.'] ∧ '/' ∉ w) ∧
    pathParts (String.mk (['/'].intercalate ["tunnel_community".toList, "max_circuits".toList])) =
      ["tunnel_community".toList, "max_circuits".toList].map String.mk :=
  ⟨by simp, by decide, pathParts_intercalate (by simp) (by decide)⟩

/-! ## `DEFAULT_CONFIG` -/

/-- `DEFAULT_CONFIG` as the module leaves it.  `ipv8` is IPv8's default configuration after the
module's changes to it; `stateDir` and `saveas` are the paths computed from the environment. -/
def defaultConfig (ipv8 : Json) (stateDir saveas : String) : Json :=
  .obj [
    ("api", .obj [("http_enabled", .bool true), ("http_port", .int 0),
      ("http_host", .str "127.0.0.1"), ("https_enabled", .bool false),
      ("https_host", .str "127.0.0.1"), ("https_port", .int 0),
      ("https_certfile", .str "https_certfile")]),
    ("ipv8", ipv8),
    ("statistics", .bool false),
    ("content_discovery_community", .obj [("enabled", .bool true)]),
    ("database", .obj [("enabled", .bool true)]),
    ("dht_discovery", .obj [("enabled", .bool true)]),
    ("knowledge_community", .obj [("enabled", .bool true)]),
    ("libtorrent", .obj [
      ("socks_listen_ports", .arr [.int 0, .int 0, .int 0, .int 0, .int 0]),
      ("port", .int 0), ("proxy_type", .int 0), ("proxy_server", .str ""),
      ("proxy_auth", .str ""), ("max_connections_download", .int (-1)),
      ("max_download_rate", .int 0), ("max_upload_rate", .int 0), ("utp", .bool true),
      ("dht", .bool true), ("dht_readiness_timeout", .int 30), ("upnp", .bool true),
      ("natpmp", .bool true), ("lsd", .bool true),
      ("download_defaults", .obj [("anonymity_enabled", .bool true), ("number_hops", .int 1),
        ("safeseeding_enabled", .bool true), ("saveas", .str saveas),
        ("seeding_mode", .str "forever"), ("seeding_ratio", .float 20 1),
        ("seeding_time", .int 60), ("channel_download", .bool false),
        ("add_download_to_channel", .bool false)])]),
    ("rendezvous", .obj [("enabled", .bool true)]),
    ("torrent_checker", .obj [("enabled", .bool true)]),
    ("tunnel_community", .obj [("enabled", .bool true), ("min_circuits", .int 1),
      ("max_circuits", .int 8)]),
    ("user_activity", .obj [("enabled", .bool true), ("max_query_history", .int 500),
      ("health_check_interval", .float 50 1)]),
    ("state_dir", .str stateDir),
    ("memory_db", .bool false)]

/-! ## The manager -/

/-- What the configuration file holds when the manager is built. -/
inductive ConfigFile where
  | absent
  /-- `open` or the read raises an exception `except JSONDecodeError` does not catch: a
  directory, a file without read permission, bytes the locale's encoding does not decode. -/
  | unreadable (exceptionClass : String)
  /-- `json.load` raises `JSONDecodeError`. -/
  | undecodable
  | decoded (value : Json)

/-- What `self.configuration` is. -/
inductive Configuration where
  /-- The module's `DEFAULT_CONFIG` dict itself. -/
  | defaultConfig
  /-- A value read from the file, shared with nothing. -/
  | loaded (tree : Json)

/-- The tree `self.configuration` is, `DEFAULT_CONFIG` being `defaults`. -/
def Configuration.tree (defaults : Json) : Configuration → Json
  | .defaultConfig => defaults
  | .loaded t => t

structure TriblerConfigManager where
  configFile : String
  configuration : Configuration

/-- `TriblerConfigManager.__init__`: the file's value if it decodes to a truthy one, else
`DEFAULT_CONFIG`; a file that cannot be read raises out of the constructor. -/
def TriblerConfigManager.init (configFile : String) (file : ConfigFile) :
    Except PyError TriblerConfigManager :=
  match file with
  | .unreadable exceptionClass => .error (.fileError exceptionClass)
  | .decoded v => .ok ⟨configFile, if v.truthy then .loaded v else .defaultConfig⟩
  | .absent | .undecodable => .ok ⟨configFile, .defaultConfig⟩

/-- The fallback of `get`: `out = DEFAULT_CONFIG; for df_part in parts: out = out.get(df_part)`. -/
def getDefault : Json → List String → Except PyError Json
  | out, [] => .ok out
  | out, part :: rest => do getDefault (← out.get part) rest

/-- The loop of `get` over `self.configuration`: at the first part not `in` the current value
it returns `fallback`, the result of the walk through `DEFAULT_CONFIG`. -/
def getWalk (fallback : Except PyError Json) : Json → List String → Except PyError Json
  | out, [] => .ok out
  | out, part :: rest => do
    if ← out.contains part then getWalk fallback (← out.get part) rest else fallback

/-- `get` by parts on a configuration `tree`, `DEFAULT_CONFIG` being `defaults`. -/
def getParts (defaults tree : Json) (parts : List String) : Except PyError Json :=
  getWalk (getDefault defaults parts) tree parts

/-- The walk and assignment of `set`: `current = current[part]` for all parts but the last,
then `current[last] = value`.  The dicts on the path are mutated in place, and the tree shares
no dict, so the result is the tree with the dicts of the path rebuilt. -/
def setPath (value : Json) : Json → List String → Except PyError Json
  | _, [] => .error .indexError
  | current, [last] => current.setItem last value
  | current, part :: rest => do
    let child ← current.getItem part
    current.setItem part (← setPath value child rest)

namespace TriblerConfigManager

/-- The tree `self.configuration` is. -/
def tree (m : TriblerConfigManager) (defaults : Json) : Json := m.configuration.tree defaults

/-- `TriblerConfigManager.get`. -/
def get (defaults : Json) (m : TriblerConfigManager) (option : String) : Except PyError Json :=
  getParts defaults (m.tree defaults) (pathParts option)

/-- An in-place change of `self.configuration` to `t`: the new `DEFAULT_CONFIG` and manager.
On a manager built on `DEFAULT_CONFIG` the change lands in `DEFAULT_CONFIG`. -/
def replaceTree (defaults : Json) (m : TriblerConfigManager) (t : Json) :
    Json × TriblerConfigManager :=
  match m.configuration with
  | .defaultConfig => (t, m)
  | .loaded _ => (defaults, { m with configuration := .loaded t })

/-- `TriblerConfigManager.set`: the new `DEFAULT_CONFIG` and manager. -/
def set (defaults : Json) (m : TriblerConfigManager) (option : String) (value : Json) :
    Except PyError (Json × TriblerConfigManager) := do
  let tree ← setPath value (m.tree defaults) (pathParts option)
  pure (m.replaceTree defaults tree)

/-- `TriblerConfigManager.write`: what the file holds afterwards, as `json.load` reads back what
`json.dump` wrote (tuples as lists). -/
def write (defaults : Json) (m : TriblerConfigManager) : ConfigFile :=
  .decoded (m.tree defaults).reload

end TriblerConfigManager

/-! ## Lemmas -/

@[simp] theorem getDefault_nil (out : Json) : getDefault out [] = .ok out := rfl

@[simp] theorem getWalk_nil (fallback : Except PyError Json) (out : Json) :
    getWalk fallback out [] = .ok out := rfl

theorem getWalk_cons (fallback : Except PyError Json) (out : Json) (part : String)
    (rest : List String) :
    getWalk fallback out (part :: rest) = (do
      if ← out.contains part then getWalk fallback (← out.get part) rest else fallback) := rfl

@[simp] theorem setPath_nil (value current : Json) :
    setPath value current [] = .error .indexError := rfl

@[simp] theorem setPath_singleton (value current : Json) (last : String) :
    setPath value current [last] = current.setItem last value := rfl

theorem setPath_cons_cons (value current : Json) (part k : String) (rest : List String) :
    setPath value current (part :: k :: rest) = (do
      let child ← current.getItem part
      current.setItem part (← setPath value child (k :: rest))) := rfl

@[simp] theorem TriblerConfigManager.tree_defaultConfig (file : String) (defaults : Json) :
    (⟨file, .defaultConfig⟩ : TriblerConfigManager).tree defaults = defaults := rfl

@[simp] theorem TriblerConfigManager.tree_loaded (file : String) (t defaults : Json) :
    (⟨file, .loaded t⟩ : TriblerConfigManager).tree defaults = t := rfl

@[simp] theorem TriblerConfigManager.replaceTree_defaultConfig (file : String) (defaults t : Json) :
    (⟨file, .defaultConfig⟩ : TriblerConfigManager).replaceTree defaults t =
      (t, ⟨file, .defaultConfig⟩) := rfl

@[simp] theorem TriblerConfigManager.replaceTree_loaded (file : String) (t₀ defaults t : Json) :
    (⟨file, .loaded t₀⟩ : TriblerConfigManager).replaceTree defaults t =
      (defaults, ⟨file, .loaded t⟩) := rfl

/-- A manager is built on `DEFAULT_CONFIG` itself exactly when its file is absent, does not
decode, or decodes to a falsy value. -/
theorem init_configuration_eq_defaultConfig (configFile : String) {file : ConfigFile}
    {m : TriblerConfigManager} (hm : TriblerConfigManager.init configFile file = .ok m) :
    m.configuration = .defaultConfig ↔ ∀ v, file = .decoded v → v.truthy = false := by
  cases file with
  | decoded v => cases hm; by_cases h : v.truthy <;> simp [h]
  | unreadable => cases hm
  | absent | undecodable => cases hm; simp

end Tribler
