import Tribler.Config.IPv8Defaults

/-!
# The machine the process starts on: paths, home directories and the file system

`run_tribler.py` settles on its root state directory with `pathlib` and makes it with
`Path.mkdir(parents=True, exist_ok=True)`.  A `Path` is what CPython keeps of it, its root and
the components after it, `..` included (`PathObj`); its parent is the path without the last
component.  The file system, of directories and files without symbolic links, has an entry for
every existing location but the root, named by its components from the innermost out, so that
the parent of `c :: q` is `q`.  The kernel walks a path from the root: `..` goes to the parent
and any other name to the entry of that name, which has to be a directory for the walk to go on;
where a path leads is `normLoc` of it.

`Path.mkdir(parents=True, exist_ok=True)` succeeds exactly when nothing on the way to the path is
a file and every directory it has to make has a writable parent, and then leaves a directory
there.  Whether it succeeds or raises, all it changes is making missing directories on the way,
where the way is where the leading parts of the path lead (`/r/x/../y` makes `/r/x` and `/r/y`):

    (mkdirParents fs p).1 = .ok () ↔ fs.makeable p = true          (mkdirParents_ok_iff)
    mkdirParents fs p = (.ok (), fs') → fs'.isDir p = true          (isDir_of_mkdirParents)
    fs.isDir p = true → mkdirParents fs p = (.ok (), fs)            (mkdirParents_of_isDir)
    MadeOnTheWay p fs (mkdirParents fs p).2                         (madeOnTheWay_mkdirParents)
-/

namespace Tribler

/-! ## The host -/

/-- What the process reads from the machine it starts on. -/
structure Host where
  /-- `os.environ`. -/
  environ : List (String × String)
  /-- `pwd.getpwuid(os.getuid()).pw_dir`, `none` when the user has no entry. -/
  userHome : Option String
  /-- `pwd.getpwnam(name).pw_dir` for every name with an entry. -/
  passwd : List (String × String)
  /-- `os.getcwd()`, by its components. -/
  cwd : List String
  /-- `sys.get_int_max_str_digits()`: how many digits `int(s)` reads at most, `0` for no limit
  (CPython allows no limit below 640). -/
  maxStrDigits : Nat
deriving DecidableEq, Repr

/-- `os.environ.get(key, default)`. -/
def Host.environGet (h : Host) (key default : String) : String :=
  (h.environ.lookup key).getD default

/-- The `OSError` subclasses of `os.mkdir`, by `errno`. -/
inductive Errno where
  /-- `FileNotFoundError`: a directory on the way is missing. -/
  | noent
  /-- `NotADirectoryError`: a path on the way is a file. -/
  | notdir
  /-- `FileExistsError`. -/
  | exist
  /-- `PermissionError`: the parent is not writable. -/
  | acces
deriving DecidableEq, Repr

/-- An absolute path by its components from the innermost out: the parent of `c :: q` is `q`,
and `[]` is the root.  A path may hold `..`; a location of the file system does not. -/
abbrev Loc := List String

/-- What starting the process raises. -/
inductive StartError where
  /-- An exception of the language itself (`getattr`). -/
  | py (e : PyError)
  /-- The `OSError` of `os.mkdir(path)`. -/
  | os (errno : Errno) (path : Loc)
  /-- `RuntimeError("Could not determine home directory.")`. -/
  | runtimeError
  /-- `ValueError: invalid literal for int() with base 10: ...`. -/
  | invalidLiteral (literal : String)
  /-- `ValueError: Exceeds the limit (limit digits) for integer string conversion: value has
  digits digits; ...`. -/
  | digitLimit (limit digits : Nat)
deriving DecidableEq, Repr

/-- Whether `e` is a `FileNotFoundError`. -/
def StartError.isNoent : StartError → Bool
  | .os .noent _ => true
  | _ => false

/-! ## Paths -/

/-- A `PurePosixPath` as CPython keeps it. -/
structure PathObj where
  /-- `""` for a relative path, else `"/"` or `"//"`. -/
  root : String
  /-- The components after the root: none of them empty or `.`. -/
  tail : List String
deriving DecidableEq, Repr

/-- `Path(s)`. -/
def PathObj.ofStr (s : String) : PathObj :=
  ⟨(splitRoot s.toList).1, (pathTail (splitRoot s.toList).2).map String.mk⟩

/-- `str(path)`: the root followed by the components joined with `/`, or `.` when there is
neither. -/
def PathObj.str (p : PathObj) : String :=
  let cs := p.root.toList ++ ['/'].intercalate (p.tail.map String.toList)
  if cs.isEmpty then "." else String.mk cs

/-- `path / key`. -/
def PathObj.div (p : PathObj) (key : String) : PathObj :=
  PathObj.ofStr (posixJoin p.str key)

/-- `posixpath.expanduser(path)` for a path without `/`, as `Path.expanduser` calls it on a
first component `~name`: the home directory of `name` (for `~`, `$HOME`, else the current
user's) without a trailing `/`, or `path` itself when there is none. -/
def expandTilde (h : Host) (path : String) : String :=
  match path.toList with
  | '~' :: name =>
    let userhome := if name = [] then h.environ.lookup "HOME" <|> h.userHome
      else h.passwd.lookup (String.mk name)
    match userhome with
    | none => path
    | some userhome =>
      match userhome.toList.reverse.dropWhile (· = '/') with
      | [] => "/"
      | cs => String.mk cs.reverse
  | _ => path

/-- `Path.expanduser()`: a relative path whose first component starts with `~` gets that home
directory in its place. -/
def PathObj.expanduser (h : Host) (p : PathObj) : Except StartError PathObj :=
  match p.tail with
  | first :: rest =>
    if p.root = "" ∧ first.toList.head? = some '~' then
      let homedir := expandTilde h first
      if homedir.toList.head? = some '~' then .error .runtimeError
      else .ok ⟨(PathObj.ofStr homedir).root, (PathObj.ofStr homedir).tail ++ rest⟩
    else .ok p
  | [] => .ok p

/-- `Path.absolute()`: a relative path is put under `os.getcwd()`. -/
def PathObj.absolute (h : Host) (p : PathObj) : PathObj :=
  if p.root = "" then ⟨"/", h.cwd ++ p.tail⟩ else p

/-- An absolute path by its components, as `os.mkdir` is given it (`//` is the root `/`). -/
def PathObj.loc (p : PathObj) : Loc := p.tail.reverse

theorem PathObj.str_ofStr (s : String) : (PathObj.ofStr s).str = pathStr s := by
  simp only [PathObj.str, PathObj.ofStr, pathStr, List.map_map]
  rw [show String.toList ∘ String.mk = id from rfl, List.map_id]
  split <;> simp_all

example : (PathObj.ofStr "~").div ".TriblerExperimental" = ⟨"", ["~", ".TriblerExperimental"]⟩ := by
  decide

theorem PathObj.absolute_root_ne (h : Host) (p : PathObj) : (p.absolute h).root ≠ "" := by
  unfold PathObj.absolute
  split
  · simp
  · assumption

/-! ## The file system -/

/-- What an existing path is. -/
inductive Kind where
  | dir
  | file
deriving DecidableEq, Repr

/-- Whether a component names the directory itself (`.`) or its parent (`..`). -/
def isDots (c : String) : Bool := c == "." || c == ".."

/-- The location a path leads to: `..` goes to the parent (the root's is the root), `.` stays,
any other component goes to the entry of that name.  With no symbolic links this is where the
kernel's walk along the path ends, when every directory on the way exists. -/
def normLoc : Loc → Loc
  | [] => []
  | c :: q => if c = ".." then (normLoc q).tail else if c = "." then normLoc q else c :: normLoc q

example : normLoc ["y", "..", "x", "r"] = ["y", "r"] := by decide

/-- A location `q` is on the way to the path `p`: one of the leading parts of `p` leads to it. -/
def OnTheWay (p q : Loc) : Prop := ∃ s, s <:+ p ∧ normLoc s = q

/-- A file system of directories and files, without symbolic links.  Its entries are named by
locations (no `.` or `..`), and the parent of an entry is a directory, as on every file system:
`lookupDir` relies on it when it takes `..` from a directory to its parent. -/
structure FileSystem where
  /-- Every existing location but the root, with what it is. -/
  entries : List (Loc × Kind)
  /-- The directories the process may not make entries in. -/
  readOnly : List Loc
deriving DecidableEq, Repr

namespace FileSystem

variable (fs : FileSystem)

/-- What the location `q` is: the root is a directory. -/
def kind : Loc → Option Kind
  | [] => some .dir
  | c :: q => fs.entries.lookup (c :: q)

/-- Looking a path up as a directory, its components from the root on: the first name on the way
that is missing or is not a directory fails it.  `.` and `..` stay in or leave a directory, which
has a parent directory. -/
def lookupDir : Loc → Option Errno
  | [] => none
  | c :: q =>
    match lookupDir q with
    | some e => some e
    | none =>
      if isDots c then none
      else
        match fs.kind (c :: normLoc q) with
        | some .dir => none
        | some .file => some .notdir
        | none => some .noent

/-- `Path.is_dir()`. -/
def isDir (q : Loc) : Bool := (fs.lookupDir q).isNone

/-- Whether `os.mkdir` leaves a directory at the location `c :: d` once `d` is one: it is one
already, or it is missing and `d` is writable. -/
def canMake : Loc → Bool
  | [] => true
  | c :: d =>
    match fs.kind (c :: d) with
    | some .dir => true
    | some .file => false
    | none => decide (d ∉ fs.readOnly)

/-- Whether every part of the path, `q` included, can be made in turn. -/
def makeable : Loc → Bool
  | [] => true
  | c :: q => makeable q && (isDots c || fs.canMake (c :: normLoc q))

end FileSystem

/-! ## `os.mkdir` and `Path.mkdir` -/

/-- `os.mkdir(path)`: it makes the directory, or raises and changes nothing.  A path ending in
`.` or `..` names an existing directory. -/
def osMkdir (fs : FileSystem) : Loc → Except StartError FileSystem
  | [] => .error (.os .exist [])
  | c :: parent =>
    match fs.lookupDir parent with
    | some e => .error (.os e (c :: parent))
    | none =>
      if isDots c || (fs.kind (c :: normLoc parent)).isSome then .error (.os .exist (c :: parent))
      else if normLoc parent ∈ fs.readOnly then .error (.os .acces (c :: parent))
      else .ok { fs with entries := (c :: normLoc parent, .dir) :: fs.entries }

/-- The `except OSError` clause of `Path.mkdir(exist_ok=True)`: the error stands unless the path
is a directory. -/
def raiseUnlessDir (fs : FileSystem) (q : Loc) (e : StartError) : Except StartError Unit :=
  if fs.isDir q then .ok () else .error e

/-- `Path.mkdir(parents=False, exist_ok=True)`. -/
def mkdirExistOk (fs : FileSystem) (q : Loc) : Except StartError Unit × FileSystem :=
  match osMkdir fs q with
  | .ok fs' => (.ok (), fs')
  | .error e => (if e.isNoent then .error e else raiseUnlessDir fs q e, fs)

/-- `Path.mkdir(parents=True, exist_ok=True)`: after a `FileNotFoundError` the parent is made
the same way and the path tried again.  The parent is `pathlib`'s, the path without its last
component, also when that component is `..`. -/
def mkdirParents (fs : FileSystem) : Loc → Except StartError Unit × FileSystem
  | [] => mkdirExistOk fs []
  | c :: parent =>
    match osMkdir fs (c :: parent) with
    | .ok fs' => (.ok (), fs')
    | .error e =>
      if e.isNoent then
        match mkdirParents fs parent with
        | (.ok (), fs') => mkdirExistOk fs' (c :: parent)
        | r => r
      else (raiseUnlessDir fs (c :: parent) e, fs)

/-- `fs'` is `fs` with some of the directories made that were missing on the way to `p`, each in
a writable directory. -/
def MadeOnTheWay (p : Loc) (fs fs' : FileSystem) : Prop :=
  fs'.readOnly = fs.readOnly ∧
    ∀ q, fs'.kind q = fs.kind q ∨
      (fs.kind q = none ∧ fs'.kind q = some .dir ∧ OnTheWay p q ∧ q.tail ∉ fs.readOnly)

/-! ## Looking up -/

namespace FileSystem

variable {fs : FileSystem}

theorem lookupDir_cons_of_none {c : String} {q : Loc} (hq : fs.lookupDir q = none) :
    fs.lookupDir (c :: q) =
      if isDots c then none
      else match fs.kind (c :: normLoc q) with
        | some .dir => none
        | some .file => some .notdir
        | none => some .noent := by
  rw [lookupDir, hq]

theorem isDir_cons_of_none {c : String} {q : Loc} (hq : fs.lookupDir q = none) :
    fs.isDir (c :: q) = (isDots c || fs.kind (c :: normLoc q) = some .dir) := by
  simp only [isDir, lookupDir_cons_of_none hq]
  cases isDots c
  · rcases fs.kind (c :: normLoc q) with _ | _ | _ <;> simp
  · simp

theorem lookupDir_of_cons_none {c : String} {q : Loc} (h : fs.lookupDir (c :: q) = none) :
    fs.lookupDir q = none := by
  rw [lookupDir] at h
  split at h
  · cases h
  · assumption

/-- A lookup fails only on a missing path or a file. -/
theorem lookupDir_cases : ∀ {q : Loc} {e : Errno}, fs.lookupDir q = some e →
    e = .noent ∨ e = .notdir
  | [], _, h => by cases h
  | c :: q, e, h => by
    rw [lookupDir] at h
    split at h
    · next he => cases h; exact lookupDir_cases he
    · split at h
      · cases h
      · split at h <;> cases h <;> simp

/-- A file on the way stops every attempt to make the path. -/
theorem makeable_of_notdir : ∀ {q : Loc}, fs.lookupDir q = some .notdir → fs.makeable q = false
  | [], h => by cases h
  | c :: q, h => by
    rw [lookupDir] at h
    simp only [makeable, Bool.and_eq_false_iff]
    split at h
    · next e he => exact .inl (makeable_of_notdir (by rwa [h] at he))
    · right
      split at h
      · cases h
      · next hd =>
        simp only [Bool.not_eq_true] at hd
        simp only [hd, Bool.false_or, canMake]
        split at h <;> simp_all

theorem makeable_of_lookupDir_none : ∀ {q : Loc}, fs.lookupDir q = none → fs.makeable q = true
  | [], _ => rfl
  | c :: q, h => by
    have hq := lookupDir_of_cons_none h
    rw [lookupDir_cons_of_none hq] at h
    simp only [makeable, makeable_of_lookupDir_none hq, Bool.true_and, Bool.or_eq_true]
    split at h
    · next hd => exact .inl hd
    · right
      simp only [canMake]
      split at h <;> simp_all

end FileSystem

/-! ## What `os.mkdir` changes -/

theorem normLoc_cons_of_not_isDots {c : String} (hc : isDots c = false) (q : Loc) :
    normLoc (c :: q) = c :: normLoc q := by
  have h1 : c ≠ ".." := fun h => by simp [h, isDots] at hc
  have h2 : c ≠ "." := fun h => by simp [h, isDots] at hc
  simp [normLoc, h1, h2]

/-- `os.mkdir` succeeds on a missing name whose parent is a writable directory, and adds it. -/
theorem osMkdir_eq_ok {fs fs' : FileSystem} {c : String} {parent : Loc}
    (h : osMkdir fs (c :: parent) = .ok fs') :
    fs.lookupDir parent = none ∧ isDots c = false ∧ fs.kind (c :: normLoc parent) = none ∧
      normLoc parent ∉ fs.readOnly ∧
      fs' = { fs with entries := (c :: normLoc parent, .dir) :: fs.entries } := by
  simp only [osMkdir] at h
  split at h
  · cases h
  · next hq =>
    split_ifs at h with hk hr
    cases h
    simp only [Bool.or_eq_true, not_or, Bool.not_eq_true, Option.not_isSome,
      Option.isNone_iff_eq_none] at hk
    exact ⟨hq, hk.1, hk.2, hr, rfl⟩

theorem kind_add (fs : FileSystem) (q r : Loc) (hq : q ≠ []) :
    ({ fs with entries := (q, .dir) :: fs.entries } : FileSystem).kind r =
      if r = q then some .dir else fs.kind r := by
  rcases r with _ | ⟨d, r⟩
  · simp [FileSystem.kind, Ne.symm hq]
  · by_cases hr : d :: r = q
    · subst hr; simp [FileSystem.kind, List.lookup_cons]
    · have hb : (d :: r == q) = false := by simpa using hr
      simp [FileSystem.kind, List.lookup_cons, hb, hr]

theorem madeOnTheWay_osMkdir {fs fs' : FileSystem} {q : Loc} (h : osMkdir fs q = .ok fs') :
    MadeOnTheWay q fs fs' := by
  rcases q with _ | ⟨c, parent⟩
  · cases h
  obtain ⟨-, hc, hk, hr, rfl⟩ := osMkdir_eq_ok h
  refine ⟨rfl, fun r => ?_⟩
  rw [kind_add fs _ r (List.cons_ne_nil _ _)]
  split
  · next hr' =>
    subst hr'
    exact .inr ⟨hk, rfl, ⟨c :: parent, List.suffix_refl _, normLoc_cons_of_not_isDots hc _⟩, hr⟩
  · exact .inl rfl

/-! ## `MadeOnTheWay` -/

namespace MadeOnTheWay

theorem refl (p : Loc) (fs : FileSystem) : MadeOnTheWay p fs fs := ⟨rfl, fun _ => .inl rfl⟩

theorem trans {p : Loc} {fs fs₁ fs₂ : FileSystem} (h : MadeOnTheWay p fs fs₁)
    (h' : MadeOnTheWay p fs₁ fs₂) : MadeOnTheWay p fs fs₂ := by
  refine ⟨h'.1.trans h.1, fun q => ?_⟩
  rcases h.2 q with hq | ⟨hq, hq₁, hp, hw⟩ <;> rcases h'.2 q with hq₂ | ⟨hq₂, hq₃, hp', hw'⟩
  · exact .inl (hq₂.trans hq)
  · exact .inr ⟨hq ▸ hq₂, hq₃, hp', h.1 ▸ hw'⟩
  · exact .inr ⟨hq, hq₂.trans hq₁, hp, hw⟩
  · rw [hq₁] at hq₂; cases hq₂

theorem mono {p p' : Loc} {fs fs' : FileSystem} (h : MadeOnTheWay p fs fs') (hp : p <:+ p') :
    MadeOnTheWay p' fs fs' :=
  ⟨h.1, fun q => (h.2 q).imp_right fun ⟨h1, h2, ⟨s, hs, hn⟩, h4⟩ =>
    ⟨h1, h2, ⟨s, hs.trans hp, hn⟩, h4⟩⟩

/-- A location not on the way keeps what it is. -/
theorem kind_eq {p q : Loc} {fs fs' : FileSystem} (h : MadeOnTheWay p fs fs')
    (hq : ¬ OnTheWay p q) : fs'.kind q = fs.kind q :=
  (h.2 q).resolve_right fun ⟨_, _, h3, _⟩ => hq h3

/-- An existing location keeps what it is. -/
theorem kind_of_some {p q : Loc} {fs fs' : FileSystem} (h : MadeOnTheWay p fs fs') {k : Kind}
    (hq : fs.kind q = some k) : fs'.kind q = some k :=
  ((h.2 q).resolve_right fun ⟨h1, _, _⟩ => by rw [hq] at h1; cases h1).trans hq

theorem isDir {p q : Loc} {fs fs' : FileSystem} (h : MadeOnTheWay p fs fs')
    (hq : fs.isDir q = true) : fs'.isDir q = true := by
  simp only [FileSystem.isDir, Option.isNone_iff_eq_none] at hq ⊢
  induction q with
  | nil => rfl
  | cons c q ih =>
    have hq' := FileSystem.lookupDir_of_cons_none hq
    rw [FileSystem.lookupDir_cons_of_none hq'] at hq
    rw [FileSystem.lookupDir_cons_of_none (ih hq')]
    split at hq
    · next hd => simp [hd]
    · next hd =>
      simp only [hd, if_false]
      split at hq
      · next hk => simp [h.kind_of_some hk]
      · cases hq
      · cases hq

/-- Whether `os.mkdir` can leave a directory at a location is kept: a directory made on the way
was missing in a writable directory. -/
theorem canMake_eq {p : Loc} {fs fs' : FileSystem} (h : MadeOnTheWay p fs fs') (q : Loc) :
    fs'.canMake q = fs.canMake q := by
  rcases q with _ | ⟨c, d⟩
  · rfl
  rcases h.2 (c :: d) with hk | ⟨hk, hk', -, hw⟩
  · simp only [FileSystem.canMake, hk, h.1]
  · simp only [FileSystem.canMake, hk, hk', List.tail_cons] at hw ⊢
    simp [hw]

end MadeOnTheWay

theorem isDir_of_osMkdir {fs fs' : FileSystem} {q : Loc} (h : osMkdir fs q = .ok fs') :
    fs'.isDir q = true := by
  rcases q with _ | ⟨c, parent⟩
  · cases h
  have hway := madeOnTheWay_osMkdir h
  obtain ⟨hq, hc, -, -, rfl⟩ := osMkdir_eq_ok h
  have hparent := hway.isDir (q := parent) (by simp [FileSystem.isDir, hq])
  simp only [FileSystem.isDir, Option.isNone_iff_eq_none] at hparent
  rw [FileSystem.isDir_cons_of_none hparent, kind_add fs _ _ (List.cons_ne_nil _ _)]
  simp

/-! ## `Path.mkdir` -/

theorem madeOnTheWay_mkdirExistOk (fs : FileSystem) (q : Loc) :
    MadeOnTheWay q fs (mkdirExistOk fs q).2 := by
  unfold mkdirExistOk
  split
  · exact madeOnTheWay_osMkdir (by assumption)
  · exact .refl q fs

theorem isDir_of_mkdirExistOk {fs fs' : FileSystem} {q : Loc}
    (h : mkdirExistOk fs q = (.ok (), fs')) : fs'.isDir q = true := by
  unfold mkdirExistOk at h
  split at h
  · cases h; exact isDir_of_osMkdir (by assumption)
  · simp only [raiseUnlessDir, Prod.mk.injEq] at h
    obtain ⟨h, rfl⟩ := h
    split_ifs at h with h1 h2
    exact h2

/-- Once the parent is a directory, `Path.mkdir(exist_ok=True)` leaves one at the path exactly
when the path ends in `.` or `..`, or `os.mkdir` can leave one. -/
theorem mkdirExistOk_ok_iff {fs : FileSystem} {c : String} {parent : Loc}
    (hp : fs.lookupDir parent = none) :
    (mkdirExistOk fs (c :: parent)).1 = .ok () ↔
      (isDots c || fs.canMake (c :: normLoc parent)) = true := by
  have hdir := FileSystem.isDir_cons_of_none (c := c) hp
  cases hd : isDots c
  · -- a name: `os.mkdir` decides, or the directory already there
    rcases hk : fs.kind (c :: normLoc parent) with _ | _ | _
    · by_cases hr : normLoc parent ∈ fs.readOnly <;>
        simp [mkdirExistOk, osMkdir, FileSystem.canMake, StartError.isNoent, raiseUnlessDir, hp,
          hd, hk, hr, hdir]
    all_goals simp [mkdirExistOk, osMkdir, FileSystem.canMake, StartError.isNoent, raiseUnlessDir,
      hp, hd, hk, hdir]
  · -- `.` or `..`: an existing directory
    simp [mkdirExistOk, osMkdir, StartError.isNoent, raiseUnlessDir, hp, hd, hdir]

/-- With the parent a directory, making the parents is not needed. -/
theorem mkdirParents_of_lookupDir_none {fs : FileSystem} {c : String} {parent : Loc}
    (hp : fs.lookupDir parent = none) :
    mkdirParents fs (c :: parent) = mkdirExistOk fs (c :: parent) := by
  simp only [mkdirParents, mkdirExistOk]
  split
  · rfl
  · next e he =>
    have : e.isNoent = false := by
      simp only [osMkdir, hp] at he
      split_ifs at he <;> cases he <;> rfl
    simp [this]

theorem madeOnTheWay_mkdirParents (fs : FileSystem) :
    ∀ p, MadeOnTheWay p fs (mkdirParents fs p).2
  | [] => madeOnTheWay_mkdirExistOk fs []
  | c :: parent => by
    have ih := (madeOnTheWay_mkdirParents fs parent).mono (List.suffix_cons c parent)
    unfold mkdirParents
    split
    · exact madeOnTheWay_osMkdir (by assumption)
    · split
      · rcases hr : mkdirParents fs parent with ⟨_ | ⟨⟩, fs'⟩ <;> rw [hr] at ih
        · exact ih
        · exact ih.trans (madeOnTheWay_mkdirExistOk fs' _)
      · exact .refl _ fs

theorem isDir_of_mkdirParents {fs fs' : FileSystem} :
    ∀ {p : Loc}, mkdirParents fs p = (.ok (), fs') → fs'.isDir p = true
  | [], h => isDir_of_mkdirExistOk h
  | c :: parent, h => by
    unfold mkdirParents at h
    split at h
    · cases h; exact isDir_of_osMkdir (by assumption)
    · split at h
      · rcases hr : mkdirParents fs parent with ⟨_ | ⟨⟩, fs1⟩ <;> rw [hr] at h
        · cases h
        · exact isDir_of_mkdirExistOk h
      · simp only [raiseUnlessDir, Prod.mk.injEq] at h
        obtain ⟨h, rfl⟩ := h
        split_ifs at h with h1
        exact h1

/-- An existing directory is left as it is. -/
theorem mkdirParents_of_isDir {fs : FileSystem} {p : Loc} (h : fs.isDir p = true) :
    mkdirParents fs p = (.ok (), fs) := by
  rcases p with _ | ⟨c, parent⟩
  · rfl
  have hp := FileSystem.lookupDir_of_cons_none (Option.isNone_iff_eq_none.1 h)
  rw [mkdirParents_of_lookupDir_none hp]
  have hdir := FileSystem.isDir_cons_of_none (c := c) hp
  rw [h, eq_comm, Bool.or_eq_true, decide_eq_true_eq] at hdir
  rcases hdir with hd | hk
  · simp [mkdirExistOk, osMkdir, hp, hd, StartError.isNoent, raiseUnlessDir, h]
  · simp [mkdirExistOk, osMkdir, hp, hk, StartError.isNoent, raiseUnlessDir, h]

/-- **Making the root state directory.**  `Path.mkdir(parents=True, exist_ok=True)` succeeds
exactly when every part of the path can be made in turn. -/
theorem mkdirParents_ok_iff (fs : FileSystem) :
    ∀ p, (mkdirParents fs p).1 = .ok () ↔ fs.makeable p = true
  | [] => by simp [mkdirParents, mkdirExistOk, osMkdir, raiseUnlessDir, StartError.isNoent,
      FileSystem.isDir, FileSystem.lookupDir, FileSystem.makeable]
  | c :: parent => by
    rcases hp : fs.lookupDir parent with _ | e
    · rw [mkdirParents_of_lookupDir_none hp, mkdirExistOk_ok_iff hp, FileSystem.makeable,
        FileSystem.makeable_of_lookupDir_none hp, Bool.true_and]
    rcases fs.lookupDir_cases hp with rfl | rfl
    · -- a missing directory on the way: the parents are made first
      have ih := mkdirParents_ok_iff fs parent
      have hnoent : osMkdir fs (c :: parent) = .error (.os .noent (c :: parent)) := by
        simp [osMkdir, hp]
      rw [FileSystem.makeable]
      rcases hr : mkdirParents fs parent with ⟨_ | ⟨⟩, fs'⟩
      · have hmk : fs.makeable parent = false := by
          rw [hr] at ih; simpa using ih.not.1 (by simp)
        simp [mkdirParents, hnoent, StartError.isNoent, hr, hmk]
      · have hmk : fs.makeable parent = true := by rw [hr] at ih; exact ih.1 rfl
        have hway := madeOnTheWay_mkdirParents fs parent
        rw [hr] at hway
        have hdir := isDir_of_mkdirParents hr
        simp only [FileSystem.isDir, Option.isNone_iff_eq_none] at hdir
        simp only [mkdirParents, hnoent, StartError.isNoent, if_true, hr]
        rw [mkdirExistOk_ok_iff hdir, hway.canMake_eq, hmk, Bool.true_and]
    · -- a file on the way
      have hnot : fs.isDir (c :: parent) = false := by
        simp [FileSystem.isDir, FileSystem.lookupDir, hp]
      simp [mkdirParents, osMkdir, hp, StartError.isNoent, raiseUnlessDir, hnot,
        FileSystem.makeable, FileSystem.makeable_of_notdir hp]

/-- `/r/x/../y` with only `/r`: the parents are made as `pathlib` names them, so `/r/x` is made
on the way, and the directory made is `/r/y`. -/
example : (mkdirParents ⟨[(["r"], .dir)], []⟩ ["y", "..", "x", "r"]).1.isOk ∧
    (mkdirParents ⟨[(["r"], .dir)], []⟩ ["y", "..", "x", "r"]).2 =
      ⟨[(["y", "r"], .dir), (["x", "r"], .dir), (["r"], .dir)], []⟩ := by decide

end Tribler
