import Tribler.Config.Manager

/-!
# The laws of `get` and `set` on one manager

`set` indexes the configuration itself, so it succeeds exactly when the path's proper prefixes
lead through dicts of the configuration (`ParentsAreDicts`); `get` may find a prefix in
`DEFAULT_CONFIG` that `set` cannot walk (`set_misses_default_section`).  When `set` succeeds,
`get` of its path returns the value and `get` of every path diverging from it is unchanged,
whether the manager holds a tree of its own or `DEFAULT_CONFIG` itself:

    ParentsAreDicts (m.tree d) (pathParts o) →
      m.set d o v = .ok (d', m') ∧ m'.get d' o = .ok v ∧
      (PathsDiverge (pathParts o) (pathParts q) → m'.get d' q = m.get d q)
                                                          (set_get_of_parentsAreDicts)

These are laws of trees: a tree shares no dict between two of its paths, or with
`DEFAULT_CONFIG`.  `Tribler.Process` states them for the processes in which that holds.

`get` itself returns the value at the path when the configuration has it, and the `.get` walk
of `DEFAULT_CONFIG` along the path at the first absent key (`getWalk_eq_walk`).
-/

namespace Tribler

/-! ## Paths through dicts -/

/-- The value at `parts`, reached through dict keys only. -/
def walk : Json → List String → Option Json
  | j, [] => some j
  | .obj kvs, k :: rest => (kvs.lookup k).bind fun c => walk c rest
  | _, _ :: _ => none

/-- `x` is a dict. -/
def Json.isDict : Json → Bool
  | .obj _ => true
  | _ => false

/-- Every proper prefix of `parts` leads to a dict of `tree`: the walk of `set` succeeds. -/
def ParentsAreDicts (tree : Json) (parts : List String) : Prop :=
  ∀ k < parts.length, (walk tree (parts.take k)).map Json.isDict = some true

instance (tree : Json) (parts : List String) : Decidable (ParentsAreDicts tree parts) :=
  inferInstanceAs (Decidable (∀ k < parts.length, _))

/-- Neither path is a prefix of the other. -/
def PathsDiverge (p q : List String) : Prop := ¬ p <+: q ∧ ¬ q <+: p

instance (p q : List String) : Decidable (PathsDiverge p q) :=
  inferInstanceAs (Decidable (¬ _ ∧ ¬ _))

/-- Every proper prefix of `parts` that `tree` has is a dict: `get`'s loop over `tree` either
finds the path or stops at an absent key. -/
def PresentPrefixesAreDicts (tree : Json) (parts : List String) : Prop :=
  ∀ k < parts.length, (walk tree (parts.take k)).all Json.isDict = true

instance (tree : Json) (parts : List String) : Decidable (PresentPrefixesAreDicts tree parts) :=
  inferInstanceAs (Decidable (∀ k < parts.length, _))

@[simp] theorem walk_obj_cons (kvs : List (String × Json)) (k : String) (rest : List String) :
    walk (.obj kvs) (k :: rest) = (kvs.lookup k).bind fun c => walk c rest := rfl

theorem exists_obj_of_isDict {x : Option Json} (h : x.map Json.isDict = some true) :
    ∃ kvs, x = some (.obj kvs) := by
  match x with
  | some (.obj kvs) => exact ⟨kvs, rfl⟩
  | none | some .null | some (.bool _) | some (.int _) | some (.float _ _) | some (.str _)
  | some (.arr _) => simp [Json.isDict] at h

theorem pathsDiverge_cons_cons {a : String} {p q : List String} :
    PathsDiverge (a :: p) (a :: q) ↔ PathsDiverge p q := by
  simp [PathsDiverge, List.cons_prefix_cons]

theorem not_pathsDiverge_nil_left (q : List String) : ¬ PathsDiverge [] q :=
  fun h => h.1 (List.nil_prefix)

theorem not_pathsDiverge_nil_right (p : List String) : ¬ PathsDiverge p [] :=
  fun h => h.2 (List.nil_prefix)

/-! ## Spec lemmas of the walks -/

theorem getWalk_obj_cons (fallback : Except PyError Json) (kvs : List (String × Json))
    (a : String) (q : List String) :
    getWalk fallback (.obj kvs) (a :: q) =
      match kvs.lookup a with
      | some c => getWalk fallback c q
      | none => fallback := by
  cases h : kvs.lookup a <;> simp [getWalk_cons, h]

theorem getDefault_obj_cons (kvs : List (String × Json)) (a : String) (q : List String) :
    getDefault (.obj kvs) (a :: q) = getDefault ((kvs.lookup a).getD .null) q := rfl

/-- What a successful `set` did: the configuration is a dict and the last part was assigned,
or the first part leads to a dict in which the rest was set. -/
theorem setPath_cons_eq_ok {v t t' : Json} {part : String} {rest : List String}
    (h : setPath v t (part :: rest) = .ok t') :
    ∃ kvs, t = .obj kvs ∧
      ((rest = [] ∧ t' = .obj (dictSet part v kvs)) ∨
        ∃ child child', kvs.lookup part = some child ∧ setPath v child rest = .ok child' ∧
          t' = .obj (dictSet part child' kvs)) := by
  cases rest with
  | nil =>
    obtain ⟨kvs, rfl, rfl⟩ := Json.exists_obj_of_setItem h
    exact ⟨kvs, rfl, .inl ⟨rfl, rfl⟩⟩
  | cons k rest =>
    rw [setPath_cons_cons] at h
    obtain ⟨child, hc, h⟩ := bind_eq_ok.mp h
    obtain ⟨child', hs, h⟩ := bind_eq_ok.mp h
    obtain ⟨kvs, rfl, rfl⟩ := Json.exists_obj_of_setItem h
    obtain ⟨_, he, hl⟩ := Json.exists_obj_of_getItem hc
    cases he
    exact ⟨kvs, rfl, .inr ⟨child, child', hl, hs, rfl⟩⟩

/-! ## `set` succeeds on dict paths -/

theorem setPath_ok_of_parentsAreDicts (v : Json) {parts : List String} (hne : parts ≠ []) :
    ∀ {t : Json}, ParentsAreDicts t parts → ∃ t', setPath v t parts = .ok t' := by
  induction parts with
  | nil => exact absurd rfl hne
  | cons part rest ih =>
    intro t h
    obtain ⟨kvs, ht⟩ := exists_obj_of_isDict (h 0 (by simp))
    simp only [List.take_zero, walk, Option.some.injEq] at ht
    subst ht
    cases rest with
    | nil => exact ⟨_, rfl⟩
    | cons k rest =>
      obtain ⟨c, hc⟩ := exists_obj_of_isDict (h 1 (by simp))
      simp only [List.take, walk_obj_cons, Option.bind_eq_some] at hc
      obtain ⟨child, hl, hw⟩ := hc
      have hchild : ParentsAreDicts child (k :: rest) := fun i hi => by
        simpa [List.take, hl] using h (i + 1) (by simpa using hi)
      obtain ⟨child', hs⟩ := ih (List.cons_ne_nil k rest) hchild
      exact ⟨.obj (dictSet part child' kvs), by
        rw [setPath_cons_cons, Json.getItem_of_lookup hl]; simp [hs]⟩

/-! ## After `set` -/

theorem getWalk_setPath_self (fallback : Except PyError Json) (v : Json) :
    ∀ {parts : List String} {t t' : Json}, setPath v t parts = .ok t' →
      getWalk fallback t' parts = .ok v
  | [], _, _, h => by simp at h
  | _ :: _, _, _, h => by
    obtain ⟨kvs, rfl, ⟨rfl, rfl⟩ | ⟨child, child', _, hs, rfl⟩⟩ := setPath_cons_eq_ok h
    · simp [getWalk_obj_cons]
    · simpa [getWalk_obj_cons] using getWalk_setPath_self fallback v hs

theorem getDefault_setPath_self (v : Json) :
    ∀ {parts : List String} {t t' : Json}, setPath v t parts = .ok t' →
      getDefault t' parts = .ok v
  | [], _, _, h => by simp at h
  | _ :: _, _, _, h => by
    obtain ⟨kvs, rfl, ⟨rfl, rfl⟩ | ⟨child, child', _, hs, rfl⟩⟩ := setPath_cons_eq_ok h
    · simp [getDefault_obj_cons]
    · simpa [getDefault_obj_cons] using getDefault_setPath_self v hs

/-- `set` leaves a non-empty dict. -/
theorem truthy_of_setPath {v t t' : Json} {parts : List String} (h : setPath v t parts = .ok t') :
    t'.truthy = true := by
  cases parts with
  | nil => simp at h
  | cons part rest =>
    obtain ⟨kvs, -, ⟨-, rfl⟩ | ⟨-, child', -, -, rfl⟩⟩ := setPath_cons_eq_ok h <;>
      cases kvs <;> simp [Json.truthy, dictSet] <;> split <;> simp

theorem getWalk_setPath_of_diverge (fallback : Except PyError Json) (v : Json) :
    ∀ {p q : List String} {t t' : Json}, setPath v t p = .ok t' → PathsDiverge p q →
      getWalk fallback t' q = getWalk fallback t q
  | [], _, _, _, h, _ => by simp at h
  | _ :: _, [], _, _, _, hd => absurd hd (not_pathsDiverge_nil_right _)
  | part :: rest, a :: q, _, _, h, hd => by
    obtain ⟨kvs, rfl, ⟨rfl, rfl⟩ | ⟨child, child', hc, hs, rfl⟩⟩ := setPath_cons_eq_ok h
    · have ha : a ≠ part := by rintro rfl; exact hd.1 (by simp)
      simp [getWalk_obj_cons, ha]
    · by_cases ha : a = part
      · subst ha
        simp only [getWalk_obj_cons, lookup_dictSet_self, hc]
        exact getWalk_setPath_of_diverge fallback v hs (pathsDiverge_cons_cons.mp hd)
      · simp [getWalk_obj_cons, ha]

theorem getDefault_setPath_of_diverge (v : Json) :
    ∀ {p q : List String} {t t' : Json}, setPath v t p = .ok t' → PathsDiverge p q →
      getDefault t' q = getDefault t q
  | [], _, _, _, h, _ => by simp at h
  | _ :: _, [], _, _, _, hd => absurd hd (not_pathsDiverge_nil_right _)
  | part :: rest, a :: q, _, _, h, hd => by
    obtain ⟨kvs, rfl, ⟨rfl, rfl⟩ | ⟨child, child', hc, hs, rfl⟩⟩ := setPath_cons_eq_ok h
    · have ha : a ≠ part := by rintro rfl; exact hd.1 (by simp)
      simp [getDefault_obj_cons, ha]
    · by_cases ha : a = part
      · subst ha
        simp only [getDefault_obj_cons, lookup_dictSet_self, hc, Option.getD_some]
        exact getDefault_setPath_of_diverge v hs (pathsDiverge_cons_cons.mp hd)
      · simp [getDefault_obj_cons, ha]

/-- `get` returns what is present along dicts, without falling back. -/
theorem getWalk_of_walk (fallback : Except PyError Json) :
    ∀ {tree v : Json} {parts : List String}, walk tree parts = some v →
      getWalk fallback tree parts = .ok v
  | _, _, [], h => by simpa [walk] using h
  | .obj kvs, _, a :: q, h => by
    simp only [walk_obj_cons, Option.bind_eq_some] at h
    obtain ⟨c, hc, h⟩ := h
    simpa [getWalk_obj_cons, hc] using getWalk_of_walk fallback h
  | .null, _, _ :: _, h | .bool _, _, _ :: _, h | .int _, _, _ :: _, h
  | .float _ _, _, _ :: _, h | .str _, _, _ :: _, h | .arr _, _, _ :: _, h => by simp [walk] at h

/-- `get`'s loop returns what the path holds in the tree, or `fallback` at an absent key. -/
theorem getWalk_eq_walk (fallback : Except PyError Json) :
    ∀ {tree : Json} {parts : List String}, PresentPrefixesAreDicts tree parts →
      getWalk fallback tree parts = (walk tree parts).elim fallback .ok
  | tree, [], _ => by cases tree <;> rfl
  | tree, a :: q, h => by
    have h0 := h 0 (by simp)
    match tree with
    | .obj kvs =>
      rw [getWalk_obj_cons, walk_obj_cons]
      cases hc : kvs.lookup a with
      | none => rfl
      | some c =>
        exact getWalk_eq_walk fallback fun k hk => by
          simpa [hc] using h (k + 1) (by simpa using hk)
    | .null | .bool _ | .int _ | .float _ _ | .str _ | .arr _ => simp [walk, Json.isDict] at h0

/-! ## On a manager -/

@[simp] theorem TriblerConfigManager.tree_replaceTree (defaults : Json) (m : TriblerConfigManager)
    (t : Json) : (m.replaceTree defaults t).2.tree (m.replaceTree defaults t).1 = t := by
  obtain ⟨file, c⟩ := m
  cases c <;> rfl

section
variable (defaults : Json) (m : TriblerConfigManager) (v t' : Json) (parts : List String)
  (hs : setPath v (m.tree defaults) parts = .ok t')
include hs

/-- After the configuration is changed by `setPath`, `get` of the path returns the value. -/
theorem get_replaceTree_self :
    getParts (m.replaceTree defaults t').1 ((m.replaceTree defaults t').2.tree
      (m.replaceTree defaults t').1) parts = .ok v := by
  obtain ⟨file, c⟩ := m
  cases c <;> exact getWalk_setPath_self _ v hs

/-- After the configuration is changed by `setPath`, `get` of every diverging path is unchanged,
also when the manager holds `DEFAULT_CONFIG` itself. -/
theorem get_replaceTree_of_diverge (q : List String) (hq : PathsDiverge parts q) :
    getParts (m.replaceTree defaults t').1 ((m.replaceTree defaults t').2.tree
      (m.replaceTree defaults t').1) q = getParts defaults (m.tree defaults) q := by
  obtain ⟨file, c⟩ := m
  cases c with
  | defaultConfig =>
    simp only [TriblerConfigManager.tree_defaultConfig] at hs
    simp only [TriblerConfigManager.replaceTree_defaultConfig,
      TriblerConfigManager.tree_defaultConfig, getParts]
    rw [getDefault_setPath_of_diverge v hs hq, getWalk_setPath_of_diverge _ v hs hq]
  | loaded t => exact getWalk_setPath_of_diverge _ v hs hq

end

/-- `set` then `get` on trees.  On a manager whose configuration has dicts along the proper
prefixes of the path, `set` succeeds; `get` of the path then returns the value, and `get` of
every diverging path returns what it returned before, also when the manager holds
`DEFAULT_CONFIG` itself. -/
theorem set_get_of_parentsAreDicts (defaults : Json) (m : TriblerConfigManager) (option : String)
    (v : Json) (hne : pathParts option ≠ [])
    (hpar : ParentsAreDicts (m.tree defaults) (pathParts option)) :
    ∃ defaults' m', m.set defaults option v = .ok (defaults', m') ∧
      m'.get defaults' option = .ok v ∧
      ∀ q, PathsDiverge (pathParts option) (pathParts q) →
        m'.get defaults' q = m.get defaults q := by
  obtain ⟨t', hs⟩ := setPath_ok_of_parentsAreDicts v hne hpar
  exact ⟨_, _, by simp [TriblerConfigManager.set, hs], get_replaceTree_self defaults m v t' _ hs,
    fun q hq => get_replaceTree_of_diverge defaults m v t' _ hs _ hq⟩

/-- **`get` returns the configured value, or `DEFAULT_CONFIG`'s where a key is absent.**  When
the prefixes of the path that the configuration has are dicts, `get` returns the value at the
path if the configuration has one, and otherwise what the `.get` walk of `DEFAULT_CONFIG` along
the whole path gives. -/
theorem get_configured_or_default (defaults : Json) (m : TriblerConfigManager) (option : String)
    (h : PresentPrefixesAreDicts (m.tree defaults) (pathParts option)) :
    m.get defaults option =
      (walk (m.tree defaults) (pathParts option)).elim (getDefault defaults (pathParts option))
        .ok :=
  getWalk_eq_walk _ h

/-- A configuration file holding `{"api": {}}`: `get("api/http_port")` falls back to the
default port. -/
theorem get_configured_or_default_api_port :
    PresentPrefixesAreDicts (.obj [("api", .obj [])]) (pathParts "api/http_port") ∧
    (⟨"configuration.json", .loaded (.obj [("api", .obj [])])⟩ : TriblerConfigManager).get
        (.obj [("api", .obj [("http_port", .int 8085)])]) "api/http_port" =
      (walk (.obj [("api", .obj [])]) (pathParts "api/http_port")).elim
        (getDefault (.obj [("api", .obj [("http_port", .int 8085)])]) (pathParts "api/http_port"))
        .ok :=
  ⟨by decide, get_configured_or_default _ ⟨"configuration.json", .loaded (.obj [("api", .obj [])])⟩
    _ (by decide)⟩

/-- A configuration file without a `tunnel_community` section: `get` resolves every proper
prefix of `tunnel_community/max_circuits` to a dict (the section from `DEFAULT_CONFIG`), and
`set` of it raises `KeyError('tunnel_community')`. -/
theorem set_misses_default_section :
    (∀ k < (pathParts "tunnel_community/max_circuits").length, ∃ kvs,
      getParts (defaultConfig (.obj []) "/state" "/downloads") (.obj [("api", .obj [])])
        ((pathParts "tunnel_community/max_circuits").take k) = .ok (.obj kvs)) ∧
    (⟨"configuration.json", .loaded (.obj [("api", .obj [])])⟩ : TriblerConfigManager).set
      (defaultConfig (.obj []) "/state" "/downloads") "tunnel_community/max_circuits" (.int 3) =
        .error (.keyError "tunnel_community") := by
  refine ⟨fun k hk => ?_, rfl⟩
  have hk : k = 0 ∨ k = 1 := by
    have : (pathParts "tunnel_community/max_circuits").length = 2 := by decide
    omega
  rcases hk with rfl | rfl
  · exact ⟨_, rfl⟩
  · exact ⟨_, rfl⟩

end Tribler
