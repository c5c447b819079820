import Tribler.Config.Manager

/-!
# The module's changes to IPv8's default configuration

After building `DEFAULT_CONFIG`, `tribler_config.py` changes its `ipv8` section in place: it
appends a `secondary` key, keeps only the `DiscoveryCommunity` overlays, sets the working
directory to `state_dir`, and rewrites the file of every key as
`str(Path(DEFAULT_CONFIG["state_dir"]) / key_entry["file"])` (`changeIPv8Defaults`).

The rewriting goes through `posixpath.join` (`posixJoin`) and `str()` of a `PurePosixPath`
(`pathStr`).  Printing a path and parsing it again gives the same parts, and a relative file
joined to a directory has the directory's parts followed by its own:

    pathParts (pathStr x) = pathParts x                                   (pathParts_pathStr)
    pathParts (posixJoin dir f) = pathParts dir ++ pathParts f     f relative
                                                                       (pathParts_posixJoin)

so every key file named relative to nothing ends up inside the state directory, and an absolute
one stays where it was (`changeIPv8Defaults_relocates_keys`).
-/

namespace Tribler

/-! ## `posixpath.join` and `str(PurePosixPath(...))` -/

/-- `posixpath.join(a, b)`: an absolute `b` replaces `a`; otherwise `b` is appended after a `/`,
which is not doubled. -/
def posixJoin (a b : String) : String :=
  if b.toList.head? = some '/' then b
  else if a.toList = [] ∨ a.toList.getLast? = some '/' then a ++ b
  else a ++ "/" ++ b

/-- The components of a path after its root: the non-empty ones other than `.`. -/
def pathTail (rel : List Char) : List (List Char) :=
  (splitSlash rel).filter fun w => w ≠ [] ∧ w ≠ ['.']

/-- `str(PurePosixPath(path))`: the root followed by the components joined with `/`, or `.` when
there is neither. -/
def pathStr (path : String) : String :=
  match (splitRoot path.toList).1.toList ++ ['/'].intercalate (pathTail (splitRoot path.toList).2)
  with
  | [] => "."
  | cs => String.mk cs

example : pathStr "/home/u//.Tribler/./" = "/home/u/.Tribler" := by decide
example : pathStr (posixJoin "/home/u/.Tribler" "ec.pem") = "/home/u/.Tribler/ec.pem" := by decide

/-! ## Splitting -/

theorem pathParts_eq (path : String) :
    pathParts path = (if (splitRoot path.toList).1 = "" then [] else [(splitRoot path.toList).1]) ++
      (pathTail (splitRoot path.toList).2).map String.mk := rfl

/-- A separator splits a list into the pieces before it and the pieces after it. -/
theorem splitSlash_append_cons (xs ys : List Char) :
    splitSlash (xs ++ '/' :: ys) = splitSlash xs ++ splitSlash ys := by
  induction xs with
  | nil => simp [splitSlash, List.splitOn, List.splitOnP_cons]
  | cons x xs ih =>
    simp only [splitSlash, List.splitOn, List.cons_append, List.splitOnP_cons] at ih ⊢
    split
    · rw [ih]; rfl
    · rw [ih]
      obtain ⟨w, ws, hw⟩ := List.exists_cons_of_ne_nil (List.splitOnP_ne_nil (· == '/') xs)
      rw [hw]; rfl

/-- No piece of a split contains the separator. -/
theorem not_mem_of_mem_splitSlash : ∀ {cs w : List Char}, w ∈ splitSlash cs → '/' ∉ w
  | [], w, h => by simp_all [splitSlash, List.splitOn_nil]
  | c :: cs, w, h => by
    have ih : ∀ w ∈ splitSlash cs, '/' ∉ w := fun w hw => not_mem_of_mem_splitSlash hw
    obtain ⟨w', ws, hw⟩ := List.exists_cons_of_ne_nil (List.splitOnP_ne_nil (· == '/') cs)
    have hcs : splitSlash cs = w' :: ws := hw
    simp only [splitSlash, List.splitOn, List.splitOnP_cons, hw] at h
    by_cases hc : c = '/'
    · simp only [hc, beq_self_eq_true, if_true, List.mem_cons] at h
      rcases h with rfl | h
      · simp
      · exact ih w (by simp [hcs, h])
    · simp only [beq_false_of_ne hc, Bool.false_eq_true, if_false, List.modifyHead_cons,
        List.mem_cons] at h
      rcases h with rfl | h
      · simpa [Ne.symm hc] using ih w' (by simp [hcs])
      · exact ih w (by simp [hcs, h])

theorem mem_pathTail {rel w : List Char} (h : w ∈ pathTail rel) :
    w ≠ [] ∧ w ≠ ['.'] ∧ '/' ∉ w := by
  simp only [pathTail, List.mem_filter, decide_eq_true_eq] at h
  exact ⟨h.2.1, h.2.2, not_mem_of_mem_splitSlash h.1⟩

theorem pathTail_append_cons (xs ys : List Char) :
    pathTail (xs ++ '/' :: ys) = pathTail xs ++ pathTail ys := by
  rw [pathTail, splitSlash_append_cons, List.filter_append]; rfl

@[simp] theorem pathTail_nil : pathTail [] = [] := rfl

/-- A trailing separator adds only an empty piece. -/
theorem pathTail_append_slash (xs : List Char) : pathTail (xs ++ ['/']) = pathTail xs := by
  rw [pathTail_append_cons, pathTail_nil, List.append_nil]

/-! ## Roots -/

/-- The root and the rest make up the path. -/
theorem splitRoot_append_eq (cs : List Char) :
    (splitRoot cs).1.toList ++ (splitRoot cs).2 = cs := by
  unfold splitRoot; split <;> rfl

theorem splitRoot_fst_cases (cs : List Char) :
    (splitRoot cs).1 = "" ∨ (splitRoot cs).1 = "/" ∨ (splitRoot cs).1 = "//" := by
  unfold splitRoot; split <;> simp

theorem splitRoot_two {c : Char} (hc : c ≠ '/') (rest : List Char) :
    splitRoot ('/' :: '/' :: c :: rest) = ("//", c :: rest) := by
  simp [splitRoot, hc]

theorem splitRoot_one {c : Char} (hc : c ≠ '/') (rest : List Char) :
    splitRoot ('/' :: c :: rest) = ("/", c :: rest) := by
  simp [splitRoot, hc]

/-- Appending to a path keeps its root, unless the path is only a root and what follows starts
another slash. -/
theorem splitRoot_append {cs ds : List Char}
    (h : (splitRoot cs).2 ≠ [] ∨ ds.head? ≠ some '/') :
    splitRoot (cs ++ ds) = ((splitRoot cs).1, (splitRoot cs).2 ++ ds) := by
  have hds : (splitRoot cs).2 = [] → ds = [] ∨ ∃ d ds', ds = d :: ds' ∧ d ≠ '/' := by
    intro hrel
    rcases ds with _ | ⟨d, ds'⟩
    · exact .inl rfl
    · exact .inr ⟨d, ds', rfl, by simpa [hrel] using h⟩
  rcases cs with _ | ⟨a, cs⟩
  · rcases hds rfl with rfl | ⟨d, ds', rfl, hd⟩
    · rfl
    · exact splitRoot_cons_of_ne hd ds'
  by_cases ha : a = '/'
  swap
  · simp [splitRoot_cons_of_ne ha]
  subst ha
  rcases cs with _ | ⟨b, cs⟩
  · rcases hds rfl with rfl | ⟨d, ds', rfl, hd⟩
    · rfl
    · exact splitRoot_one hd ds'
  by_cases hb : b = '/'
  swap
  · simp [splitRoot_one hb]
  subst hb
  rcases cs with _ | ⟨c, cs⟩
  · rcases hds rfl with rfl | ⟨d, ds', rfl, hd⟩
    · rfl
    · exact splitRoot_two hd ds'
  by_cases hc : c = '/'
  · subst hc; rfl
  · simp [splitRoot_two hc]

/-- A root followed by a component that does not start with a slash splits back into them. -/
theorem splitRoot_root_append {root : String} (hr : root = "" ∨ root = "/" ∨ root = "//")
    {c : Char} (hc : c ≠ '/') (rest : List Char) :
    splitRoot (root.toList ++ c :: rest) = (root, c :: rest) := by
  rcases hr with rfl | rfl | rfl
  · exact splitRoot_cons_of_ne hc rest
  · exact splitRoot_one hc rest
  · exact splitRoot_two hc rest

/-! ## Printing and parsing again -/

/-- **Parsing what `str()` printed gives the same parts.** -/
theorem pathParts_pathStr (path : String) : pathParts (pathStr path) = pathParts path := by
  rw [pathParts_eq path]
  have hw := fun w (h : w ∈ pathTail (splitRoot path.toList).2) => mem_pathTail h
  rcases hws : pathTail (splitRoot path.toList).2 with _ | ⟨w, ws⟩
  · rcases splitRoot_fst_cases path.toList with hr | hr | hr <;>
      simp only [pathStr, hws, hr] <;> decide
  · rw [hws] at hw
    obtain ⟨c, cs, rfl⟩ := List.exists_cons_of_ne_nil (hw _ (List.mem_cons_self _ _)).1
    have hc : c ≠ '/' := fun h => (hw _ (List.mem_cons_self _ _)).2.2 (h ▸ List.mem_cons_self _ _)
    obtain ⟨rest, hrest⟩ : ∃ rest, ['/'].intercalate ((c :: cs) :: ws) = c :: rest := by
      cases ws <;> simp [List.intercalate]
    have hsplit : splitRoot ((splitRoot path.toList).1.toList ++ c :: rest) =
        ((splitRoot path.toList).1, c :: rest) :=
      splitRoot_root_append (splitRoot_fst_cases path.toList) hc rest
    have htail : pathTail (c :: rest) = (c :: cs) :: ws := by
      rw [← hrest, pathTail, splitSlash, List.splitOn_intercalate _ '/' (fun l hl => (hw l hl).2.2) (by simp)]
      exact List.filter_eq_self.2 fun w hw' => by simpa using ⟨(hw w hw').1, (hw w hw').2.1⟩
    have hstr : pathStr path = String.mk ((splitRoot path.toList).1.toList ++ c :: rest) := by
      simp only [pathStr, hws, hrest]
      split
      · simp_all
      · rfl
    rw [hstr, pathParts_eq, String.toList, hsplit, htail]

/-! ## Joining -/

theorem getLast?_of_splitRoot {cs : List Char} (h : (splitRoot cs).2 ≠ []) :
    (splitRoot cs).2.getLast? = cs.getLast? := by
  conv => rhs; rw [← splitRoot_append_eq cs]
  rw [List.getLast?_append_of_ne_nil _ h]

theorem toList_posixJoin_of_slash {dir file : String} (hf : file.toList.head? ≠ some '/')
    (h : dir.toList = [] ∨ dir.toList.getLast? = some '/') :
    (posixJoin dir file).toList = dir.toList ++ file.toList := by
  rw [posixJoin, if_neg hf, if_pos h]; rfl

theorem toList_posixJoin_sep {dir file : String} (hf : file.toList.head? ≠ some '/')
    (h : ¬(dir.toList = [] ∨ dir.toList.getLast? = some '/')) :
    (posixJoin dir file).toList = dir.toList ++ '/' :: file.toList := by
  rw [posixJoin, if_neg hf, if_neg h]
  simp [String.toList, String.data_append]

/-- A path that is only a root is empty or ends in a slash. -/
theorem slash_of_splitRoot_snd_nil {cs : List Char} (h : (splitRoot cs).2 = []) :
    cs = [] ∨ cs.getLast? = some '/' := by
  have hcs := splitRoot_append_eq cs
  rw [h, List.append_nil] at hcs
  rcases splitRoot_fst_cases cs with hr | hr | hr <;> rw [← hcs, hr] <;> decide

/-- **A relative file joined to a directory has the directory's parts, then its own.** -/
theorem pathParts_posixJoin (dir : String) {file : String} (hf : file.toList.head? ≠ some '/') :
    pathParts (posixJoin dir file) = pathParts dir ++ pathParts file := by
  have hfile : splitRoot file.toList = ("", file.toList) := by
    rcases hcs : file.toList with _ | ⟨c, cs⟩
    · rfl
    · exact splitRoot_cons_of_ne (fun h => hf (by rw [hcs, h]; rfl)) cs
  have hparts : pathParts file = (pathTail file.toList).map String.mk := by
    rw [pathParts_eq, hfile]; rfl
  rw [hparts, pathParts_eq (posixJoin dir file), pathParts_eq dir, List.append_assoc]
  by_cases h : dir.toList = [] ∨ dir.toList.getLast? = some '/'
  · -- the directory is empty or ends in `/`: `file` follows it directly
    rw [toList_posixJoin_of_slash hf h, splitRoot_append (.inr hf)]
    rcases hrel : (splitRoot dir.toList).2 with _ | ⟨r, rs⟩
    · simp
    · have hne : dir.toList ≠ [] := fun h0 => by rw [h0] at hrel; exact nomatch hrel
      have hlast : (r :: rs).getLast? = some '/' := by
        rw [← hrel, getLast?_of_splitRoot (by rw [hrel]; exact List.cons_ne_nil r rs)]
        exact h.resolve_left hne
      obtain ⟨init, hinit⟩ := List.getLast?_eq_some_iff.1 hlast
      rw [hinit, List.append_assoc, List.singleton_append, pathTail_append_cons,
        pathTail_append_slash, List.map_append]
  · -- otherwise `posixpath.join` puts a `/` between them
    have hrel : (splitRoot dir.toList).2 ≠ [] := fun hrel => h (slash_of_splitRoot_snd_nil hrel)
    rw [toList_posixJoin_sep hf h, splitRoot_append (.inl hrel), pathTail_append_cons,
      List.map_append]

/-! ## The changes -/

namespace Json

/-- `x.append(v)`: the list with `v` added at its end; only a list has `append`. -/
def append (x v : Json) : Except PyError Json :=
  match x with
  | .arr xs => .ok (.arr (xs ++ [v]))
  | x => .error (.attributeError x.typeName "append")

end Json

/-- `Path(x)`, and the right operand of `/` on a path: a string, else `TypeError`. -/
def pathOf : Json → Except PyError String
  | .str s => .ok s
  | x => .error (.typeError x.typeName)

/-- The key the module appends: `{'alias': "secondary", 'generation': "curve25519",
'file': "secondary_key.pem"}`. -/
def secondaryKey : Json :=
  .obj [("alias", .str "secondary"), ("generation", .str "curve25519"),
    ("file", .str "secondary_key.pem")]

/-- `[overlay for overlay in overlays if overlay["class"] == "DiscoveryCommunity"]`. -/
def discoveryOverlays : List Json → Except PyError (List Json)
  | [] => .ok []
  | overlay :: rest => do
    let keep := (← overlay.getItem "class") = .str "DiscoveryCommunity"
    let kept ← discoveryOverlays rest
    pure (if keep then overlay :: kept else kept)

/-- One turn of the loop over the keys, with `config` for `DEFAULT_CONFIG`:
`if "file" in key_entry: key_entry["file"] = str(Path(DEFAULT_CONFIG["state_dir"]) /
key_entry["file"])`. -/
def relocateKeyFile (config keyEntry : Json) : Except PyError Json := do
  if ← keyEntry.contains "file" then
    let dir ← pathOf (← config.getItem "state_dir")
    let file ← pathOf (← keyEntry.getItem "file")
    keyEntry.setItem "file" (.str (pathStr (posixJoin dir file)))
  else
    pure keyEntry

/-- The four statements after `DEFAULT_CONFIG`'s literal, run on `DEFAULT_CONFIG`: the
configuration they leave, or the exception that aborts the import (so what the loop changed
before it is never seen).  All four change the one `ipv8` dict in place. -/
def changeIPv8Defaults (config : Json) : Except PyError Json := do
  let ipv8 ← config.getItem "ipv8"
  let ipv8 ← ipv8.setItem "keys" (← (← ipv8.getItem "keys").append secondaryKey)
  let overlays ← discoveryOverlays (← (← ipv8.getItem "overlays").iter)
  let ipv8 ← ipv8.setItem "overlays" (.arr overlays)
  let ipv8 ← ipv8.setItem "working_directory" (← config.getItem "state_dir")
  let keys ← (← ipv8.getItem "keys").iter
  let ipv8 ← ipv8.setItem "keys" (.arr (← keys.mapM (relocateKeyFile config)))
  config.setItem "ipv8" ipv8

/-! ## What the changes leave -/

/-- A key entry the loop can rewrite: a dict whose `file`, if it has one, is a string. -/
def isKeyEntry : Json → Bool
  | .obj kvs =>
    match kvs.lookup "file" with
    | none | some (.str _) => true
    | some _ => false
  | _ => false

/-- An overlay of the `DiscoveryCommunity` class. -/
def isDiscoveryOverlay (overlay : Json) : Bool :=
  (overlay.getItem "class").toOption = some (.str "DiscoveryCommunity")

/-- What the loop makes of a key entry: a dict whose `file` is the string `f` gets the file
`str(Path(state_dir) / f)`, whose parts are the state directory's followed by `f`'s when `f` is
relative and `f`'s own when it is absolute; a dict without `file` is left as it is. -/
def RelocatedKey (stateDir : String) (old new : Json) : Prop :=
  ∃ kvs, old = .obj kvs ∧
    (kvs.lookup "file" = none ∧ new = old ∨
      ∃ f, kvs.lookup "file" = some (.str f) ∧
        new = .obj (dictSet "file" (.str (pathStr (posixJoin stateDir f))) kvs) ∧
        pathParts (pathStr (posixJoin stateDir f)) =
          if f.toList.head? = some '/' then pathParts f else pathParts stateDir ++ pathParts f)

/-- **Where a key file ends up**: inside the state directory when it was relative, where it was
when it was absolute. -/
theorem pathParts_keyFile (stateDir f : String) :
    pathParts (pathStr (posixJoin stateDir f)) =
      if f.toList.head? = some '/' then pathParts f else pathParts stateDir ++ pathParts f := by
  rw [pathParts_pathStr]
  split
  · next h => rw [posixJoin, if_pos h]
  · next h => exact pathParts_posixJoin stateDir h

section
variable (ipv8 : Json) (stateDir saveas : String)

@[simp] theorem getItem_defaultConfig_ipv8 :
    (defaultConfig ipv8 stateDir saveas).getItem "ipv8" = .ok ipv8 := rfl

@[simp] theorem getItem_defaultConfig_stateDir :
    (defaultConfig ipv8 stateDir saveas).getItem "state_dir" = .ok (.str stateDir) := rfl

@[simp] theorem setItem_defaultConfig_ipv8 (v : Json) :
    (defaultConfig ipv8 stateDir saveas).setItem "ipv8" v = .ok (defaultConfig v stateDir saveas) :=
  rfl

theorem relocateKeyFile_ok {k : Json} (hk : isKeyEntry k = true) :
    ∃ k', relocateKeyFile (defaultConfig ipv8 stateDir saveas) k = .ok k' ∧
      RelocatedKey stateDir k k' := by
  obtain ⟨kvs, rfl⟩ : ∃ kvs, k = .obj kvs := by cases k <;> simp_all [isKeyEntry]
  rcases hf : kvs.lookup "file" with _ | v
  · exact ⟨_, by simp [relocateKeyFile, hf], kvs, rfl, .inl ⟨hf, rfl⟩⟩
  · obtain ⟨f, rfl⟩ : ∃ f, v = .str f := by
      cases v <;> simp_all [isKeyEntry]
    refine ⟨_, by simp [relocateKeyFile, hf, pathOf], kvs, rfl,
      .inr ⟨f, hf, rfl, pathParts_keyFile stateDir f⟩⟩

end

theorem discoveryOverlays_ok : ∀ {os : List Json}, (∀ o ∈ os, (o.getItem "class").isOk) →
    discoveryOverlays os = .ok (os.filter isDiscoveryOverlay)
  | [], _ => rfl
  | o :: os, h => by
    obtain ⟨c, hc⟩ : ∃ c, o.getItem "class" = .ok c := by
      have := h o (List.mem_cons_self _ _)
      revert this; cases o.getItem "class" <;> simp [Except.isOk, Except.toBool]
    have ih := discoveryOverlays_ok fun o' ho' => h o' (List.mem_cons_of_mem _ ho')
    by_cases hd : c = .str "DiscoveryCommunity" <;>
      simp [discoveryOverlays, hc, ih, isDiscoveryOverlay, Except.toOption, hd]

/-- A loop whose every turn returns, related to its element by `R`, returns the list of what
the turns returned. -/
theorem mapM_ok_forall₂ {α β : Type} {f : α → Except PyError β} {R : α → β → Prop} :
    ∀ {xs : List α}, (∀ x ∈ xs, ∃ y, f x = .ok y ∧ R x y) →
      ∃ ys, xs.mapM f = .ok ys ∧ List.Forall₂ R xs ys
  | [], _ => ⟨[], rfl, .nil⟩
  | x :: xs, h => by
    obtain ⟨y, hy, hr⟩ := h x (List.mem_cons_self _ _)
    obtain ⟨ys, hys, hrs⟩ := mapM_ok_forall₂ fun x' hx' => h x' (List.mem_cons_of_mem _ hx')
    exact ⟨y :: ys, by rw [List.mapM_cons, hy, hys]; rfl, .cons hr hrs⟩

/-- **The module's changes to IPv8's defaults.**  When the `keys` are dicts whose `file`, if
any, is a string and every overlay has a `class`, the changes go through and leave
`DEFAULT_CONFIG` with only its `ipv8` section changed: the overlays of class
`DiscoveryCommunity`, in order; `working_directory` set to `state_dir`; and the keys followed by
the `secondary` one, each file rewritten to `str(Path(state_dir) / file)`, which lies inside
the state directory unless it was absolute. -/
theorem changeIPv8Defaults_relocates_keys (kvs : List (String × Json)) (stateDir saveas : String)
    {ks os : List Json} (hk : kvs.lookup "keys" = some (.arr ks))
    (ho : kvs.lookup "overlays" = some (.arr os)) (hks : ∀ k ∈ ks, isKeyEntry k = true)
    (hos : ∀ o ∈ os, (o.getItem "class").isOk) :
    ∃ ks', changeIPv8Defaults (defaultConfig (.obj kvs) stateDir saveas) =
        .ok (defaultConfig (.obj (dictSet "keys" (.arr ks')
          (dictSet "working_directory" (.str stateDir)
            (dictSet "overlays" (.arr (os.filter isDiscoveryOverlay))
              (dictSet "keys" (.arr (ks ++ [secondaryKey])) kvs))))) stateDir saveas) ∧
      List.Forall₂ (RelocatedKey stateDir) (ks ++ [secondaryKey]) ks' := by
  have hall : ∀ k ∈ ks ++ [secondaryKey], isKeyEntry k = true := by
    simpa [or_imp, forall_and] using ⟨hks, rfl⟩
  obtain ⟨ks', hmap, hrel⟩ := mapM_ok_forall₂ fun k hk' =>
    relocateKeyFile_ok (.obj kvs) stateDir saveas (hall k hk')
  refine ⟨ks', ?_, hrel⟩
  simp only [changeIPv8Defaults, getItem_defaultConfig_ipv8, getItem_defaultConfig_stateDir,
    setItem_defaultConfig_ipv8, Json.getItem_obj, Json.setItem_obj, hk, ho, ok_bind, Json.append,
    Json.iter, lookup_dictSet_self, ne_eq, String.reduceEq, not_false_eq_true, lookup_dictSet_ne,
    discoveryOverlays_ok hos, hmap]

/-- IPv8's one default key and two overlays, with the state directory `/home/u/.TriblerExperimental`:
the key file and the secondary one are moved into the state directory, and only the
`DiscoveryCommunity` overlay stays. -/
theorem changeIPv8Defaults_relocates_keys_ec_multichain :
    let key : Json := .obj [("alias", .str "anonymous id"), ("generation", .str "curve25519"),
      ("file", .str "ec_multichain.pem")]
    let overlays : List Json := [.obj [("class", .str "DiscoveryCommunity")],
      .obj [("class", .str "HiddenTunnelCommunity")]]
    let kvs : List (String × Json) := [("keys", .arr [key]), ("overlays", .arr overlays)]
    kvs.lookup "keys" = some (.arr [key]) ∧ kvs.lookup "overlays" = some (.arr overlays) ∧
      (∀ k ∈ [key], isKeyEntry k = true) ∧ (∀ o ∈ overlays, (o.getItem "class").isOk) ∧
      ∃ ks', changeIPv8Defaults
          (defaultConfig (.obj kvs) "/home/u/.TriblerExperimental" "/home/u/Downloads") =
          .ok (defaultConfig (.obj (dictSet "keys" (.arr ks')
            (dictSet "working_directory" (.str "/home/u/.TriblerExperimental")
              (dictSet "overlays" (.arr (overlays.filter isDiscoveryOverlay))
                (dictSet "keys" (.arr ([key] ++ [secondaryKey])) kvs)))))
            "/home/u/.TriblerExperimental" "/home/u/Downloads") ∧
        List.Forall₂ (RelocatedKey "/home/u/.TriblerExperimental") ([key] ++ [secondaryKey]) ks' :=
  ⟨rfl, rfl, by decide, by decide,
    changeIPv8Defaults_relocates_keys _ _ _ rfl rfl (by decide) (by decide)⟩

end Tribler
