import Mathlib.Data.Nat.Digits
import Tribler.Start.FileSystem

/-!
# `run_tribler.py`: starting the core or the GUI

`main` takes the logging level it is given, makes the root state directory
(`get_root_state_directory`), reads the API port with `int(...)` and calls `run_core` or
`run_gui` with the port, the key and the directory (`Launch`).

    (main h fs args).1.isOk ↔ the level is a level name ∧ the directory can be made ∧
                                the port is an int literal                 (main_launches_iff)
    main h fs args = (.ok L, fs') → LaunchSpec h fs args L fs'             (launchSpec_of_main)
    MadeOnTheWay d.loc fs (main h fs args).2     d the directory chosen    (main_madeOnTheWay)
    main h fs args = (.ok L, fs') → main h fs' args = (.ok L, fs')         (main_restart)

`--log-level` is declared `store_true` with the default `"INFO"`, so with it `parse_args`
stores `True`, which `getattr(logging, ...)` does not take: with `--log-level`, `main` raises
`TypeError` before it makes anything.  A relative `TSTATEDIR`, the default `state_directory`
included, is not used at all: the directory is then the one `DEFAULT_CONFIG["state_dir"]` is
computed from.  `int()` first turns the decimal digits and white space of every script into
ASCII (`transformDecimalAndSpaceToASCII`), so `"８０８５"` is read as `8085`; a port written as
`str(n)` is read back as `n` (`pyInt_toString`).
-/

namespace Tribler

/-! ## `int(s)` -/

/-- `Py_UNICODE_ISSPACE` from U+0080 on (Unicode 15.0, as in CPython 3.12): what `str.isspace`
accepts there. -/
def unicodeSpaces : List Nat :=
  [0x85, 0xA0, 0x1680, 0x2000, 0x2001, 0x2002, 0x2003, 0x2004, 0x2005, 0x2006, 0x2007, 0x2008,
    0x2009, 0x200A, 0x2028, 0x2029, 0x202F, 0x205F, 0x3000]

/-- The zero of every run of decimal digits (Unicode 15.0 category `Nd`): the run's digit `d` is
the code point `zero + d`. -/
def decimalZeros : List Nat :=
  [0x30, 0x660, 0x6F0, 0x7C0, 0x966, 0x9E6, 0xA66, 0xAE6, 0xB66, 0xBE6, 0xC66, 0xCE6, 0xD66,
    0xDE6, 0xE50, 0xED0, 0xF20, 0x1040, 0x1090, 0x17E0, 0x1810, 0x1946, 0x19D0, 0x1A80, 0x1A90,
    0x1B50, 0x1BB0, 0x1C40, 0x1C50, 0xA620, 0xA8D0, 0xA900, 0xA9D0, 0xA9F0, 0xAA50, 0xABF0,
    0xFF10, 0x104A0, 0x10D30, 0x11066, 0x110F0, 0x11136, 0x111D0, 0x112F0, 0x11450, 0x114D0,
    0x11650, 0x116C0, 0x11730, 0x118E0, 0x11950, 0x11C50, 0x11D50, 0x11DA0, 0x11F50, 0x16A60,
    0x16AC0, 0x16B50, 0x1D7CE, 0x1D7D8, 0x1D7E2, 0x1D7EC, 0x1D7F6, 0x1E140, 0x1E2F0, 0x1E4F0,
    0x1E950, 0x1FBF0]

/-- `Py_UNICODE_TODECIMAL`: the value of a decimal digit of any script. -/
def toDecimal (c : Char) : Option Nat :=
  (decimalZeros.find? fun z => z ≤ c.toNat ∧ c.toNat < z + 10).map (c.toNat - ·)

/-- `_PyUnicode_TransformDecimalAndSpaceToASCII`, which `int()` applies first: a character
below U+007F is kept, other white space becomes a space and another decimal digit its ASCII
digit; the first other character is replaced by `?` and ends the text. -/
def transformDecimalAndSpaceToASCII : List Char → List Char
  | [] => []
  | c :: cs =>
    if c.toNat < 127 then c :: transformDecimalAndSpaceToASCII cs
    else if c.toNat ∈ unicodeSpaces then ' ' :: transformDecimalAndSpaceToASCII cs
    else
      match toDecimal c with
      | some d => Char.ofNat ('0'.toNat + d) :: transformDecimalAndSpaceToASCII cs
      | none => ['?']

/-- `Py_ISSPACE`: the ASCII white space. -/
def isSpace (c : Char) : Bool :=
  c == ' ' || c == '\t' || c == '\n' || c == '\x0b' || c == '\x0c' || c == '\r'

/-- What the digit loop of `long_from_string_base` scans. -/
def isDigitOrUnderscore (c : Char) : Bool := c.isDigit || c == '_'

/-- The sign `PyLong_FromString` reads before the digits. -/
def splitSign : List Char → Int × List Char
  | '+' :: r => (1, r)
  | '-' :: r => (-1, r)
  | r => (1, r)

/-- One more decimal digit after the number `n`. -/
def decimalStep (n : Nat) (c : Char) : Nat := 10 * n + (c.toNat - '0'.toNat)

/-- The value of a run of decimal digits. -/
def decimalValue (digits : List Char) : Nat := digits.foldl decimalStep 0

/-- `int(s)` in base 10: on the text made ASCII, white space around, a sign, and digits whose
groups between single underscores are none of them empty.  More than 640 digits are checked
against the limit `maxStrDigits` when it is not `0`. -/
def pyInt (maxStrDigits : Nat) (s : String) : Except StartError Int :=
  let (sign, unsigned) := splitSign ((transformDecimalAndSpaceToASCII s.toList).dropWhile isSpace)
  let groups := (unsigned.takeWhile isDigitOrUnderscore).splitOn '_'
  if groups.any List.isEmpty || !(unsigned.dropWhile isDigitOrUnderscore).all isSpace then
    .error (.invalidLiteral s)
  else
    let digits := groups.flatten
    if 640 < digits.length ∧ 0 < maxStrDigits ∧ maxStrDigits < digits.length then
      .error (.digitLimit maxStrDigits digits.length)
    else .ok (sign * decimalValue digits)

example : pyInt 4300 " -1_000\n" = .ok (-1000) := rfl
example : pyInt 4300 "8_" = .error (.invalidLiteral "8_") := rfl
example : pyInt 4300 "\uFF18\uFF10\uFF18\uFF15" = .ok 8085 := rfl
example : pyInt 4300 "8085\u00A0" = .ok 8085 := rfl

/-! ## `getattr(logging, ...)`, `get_root_state_directory` and `main` -/

/-- The level constants of `logging`. -/
def levelNames : List (String × Nat) :=
  [("CRITICAL", 50), ("FATAL", 50), ("ERROR", 40), ("WARNING", 30), ("WARN", 30), ("INFO", 20),
    ("DEBUG", 10), ("NOTSET", 0)]

/-- `getattr(logging, parsed_args["log_level"])`: an attribute name is a string, and the level
one of the level constants. -/
def loggingLevel : Json → Except StartError Nat
  | .str name =>
    match levelNames.lookup name with
    | some level => .ok level
    | none => .error (.py (.attributeError "module" name))
  | v => .error (.py (.typeError (Json.typeName v)))

/-- What `parse_args()` returns that `main` reads. `log_level` is declared `store_true` with the
default `"INFO"`: it is `"INFO"`, or `True` with `--log-level`. -/
structure Arguments where
  core : Bool
  logLevel : Json
deriving DecidableEq, Repr

/-- `os.path.isabs(s)`. -/
def isabs (s : String) : Bool := s.toList.head? == some '/'

/-- `(Path(os.environ.get("APPDATA", "~")) / ".TriblerExperimental").expanduser().absolute()`,
which is also what `DEFAULT_CONFIG["state_dir"]` is computed from. -/
def appStateDir (h : Host) : Except StartError PathObj :=
  (((PathObj.ofStr (h.environGet "APPDATA" "~")).div ".TriblerExperimental").expanduser h).map
    (PathObj.absolute h)

/-- The directory `get_root_state_directory(requested_path)` settles on. -/
def rootStateDirOf (h : Host) (requestedPath : String) : Except StartError PathObj :=
  if isabs requestedPath then .ok (PathObj.ofStr requestedPath) else appStateDir h

/-- `get_root_state_directory(requested_path)`: the directory, made with
`mkdir(parents=True, exist_ok=True)`. -/
def getRootStateDirectory (h : Host) (fs : FileSystem) (requestedPath : String) :
    Except StartError PathObj × FileSystem :=
  match rootStateDirOf h requestedPath with
  | .error e => (.error e, fs)
  | .ok rootStateDir =>
    match mkdirParents fs rootStateDir.loc with
    | (.ok (), fs') => (.ok rootStateDir, fs')
    | (.error e, fs') => (.error e, fs')

/-- The call `main` ends with: `run_core(api_port, api_key, root_state_dir)` when `core`, else
`run_gui(api_port, api_key, root_state_dir)`. -/
structure Launch where
  core : Bool
  apiPort : Int
  apiKey : Option String
  rootStateDir : PathObj
deriving DecidableEq, Repr

/-- `main()`, from `parse_args()` on. -/
def main (h : Host) (fs : FileSystem) (parsedArgs : Arguments) :
    Except StartError Launch × FileSystem :=
  match loggingLevel parsedArgs.logLevel with
  | .error e => (.error e, fs)
  | .ok _ =>
    match getRootStateDirectory h fs (h.environGet "TSTATEDIR" "state_directory") with
    | (.error e, fs') => (.error e, fs')
    | (.ok rootStateDir, fs') =>
      match pyInt h.maxStrDigits (h.environGet "CORE_API_PORT" "-1") with
      | .error e => (.error e, fs')
      | .ok apiPort =>
        (.ok ⟨parsedArgs.core, apiPort, h.environ.lookup "CORE_API_KEY", rootStateDir⟩, fs')

/-! ## Reading `str(n)` back -/

theorem digitChar_isDigit : ∀ d < 10, (Nat.digitChar d).isDigit = true := by decide

theorem decimalStep_digitChar : ∀ d < 10, ∀ n, decimalStep n (Nat.digitChar d) = 10 * n + d := by
  intro d hd n
  have : (Nat.digitChar d).toNat - '0'.toNat = d := by
    revert d; decide
  rw [decimalStep, this]

/-- Reading the digits `Nat.toDigitsCore` writes for `n` gives `n` back. -/
theorem foldl_toDigitsCore : ∀ (fuel n : Nat) (ds : List Char), n < fuel →
    (Nat.toDigitsCore 10 fuel n ds).foldl decimalStep 0 = ds.foldl decimalStep n
  | 0, _, _, h => absurd h (Nat.not_lt_zero _)
  | fuel + 1, n, ds, h => by
    have hd := decimalStep_digitChar (n % 10) (Nat.mod_lt _ (by decide))
    simp only [Nat.toDigitsCore]
    split
    · next h0 =>
      rw [List.foldl_cons, hd, Nat.mul_zero, Nat.zero_add, Nat.mod_eq_of_lt (by omega)]
    · rw [foldl_toDigitsCore fuel (n / 10) _ (by omega), List.foldl_cons, hd, Nat.div_add_mod]

theorem isDigit_of_mem_toDigitsCore : ∀ (fuel n : Nat) (ds : List Char) (c : Char),
    c ∈ Nat.toDigitsCore 10 fuel n ds → c ∈ ds ∨ c.isDigit = true
  | 0, _, _, _, h => .inl h
  | fuel + 1, n, ds, c, h => by
    have hd := digitChar_isDigit (n % 10) (Nat.mod_lt _ (by decide))
    simp only [Nat.toDigitsCore] at h
    split at h
    · rcases List.mem_cons.1 h with rfl | h
      exacts [.inr hd, .inl h]
    · rcases isDigit_of_mem_toDigitsCore fuel _ _ c h with h | h
      · rcases List.mem_cons.1 h with rfl | h
        exacts [.inr hd, .inl h]
      · exact .inr h

theorem toDigits_ne_nil (m : Nat) : Nat.toDigits 10 m ≠ [] := by
  have := Nat.toDigitsCore_lens_eq 10 m (m / 10) (Nat.digitChar (m % 10)) []
  simp only [Nat.toDigits, Nat.toDigitsCore]
  split
  · simp
  · rw [← List.length_pos, this]; omega

theorem toNat_lt_of_isDigit {c : Char} (h : c.isDigit = true) : c.toNat < 127 := by
  simp only [Char.isDigit, Bool.and_eq_true, decide_eq_true_eq] at h
  exact Nat.lt_of_le_of_lt h.2 (by decide)

/-- Text below U+007F is left as it is. -/
theorem transformDecimalAndSpaceToASCII_of_lt :
    ∀ {cs : List Char}, (∀ c ∈ cs, c.toNat < 127) → transformDecimalAndSpaceToASCII cs = cs
  | [], _ => rfl
  | c :: cs, h => by
    rw [transformDecimalAndSpaceToASCII, if_pos (h c (List.mem_cons_self _ _)),
      transformDecimalAndSpaceToASCII_of_lt fun d hd => h d (List.mem_cons_of_mem _ hd)]

theorem splitSign_of_isDigit {d : Char} (hd : d.isDigit = true) (r : List Char) :
    splitSign (d :: r) = (1, d :: r) := by
  have h1 : d ≠ '+' := by rintro rfl; cases hd
  have h2 : d ≠ '-' := by rintro rfl; cases hd
  simp [splitSign, h1, h2]

theorem not_isSpace_of_isDigit {d : Char} (hd : d.isDigit = true) : isSpace d = false := by
  revert hd
  simp only [isSpace, Char.isDigit, Bool.and_eq_true, decide_eq_true_eq]
  rintro ⟨h1, h2⟩
  simp only [Bool.or_eq_false_iff, beq_eq_false_iff_ne, ne_eq]
  refine ⟨⟨⟨⟨⟨?_, ?_⟩, ?_⟩, ?_⟩, ?_⟩, ?_⟩ <;> rintro rfl <;> simp_all

/-- After the sign, a run of digits within the limit is read as its value. -/
theorem pyInt_of_digits {maxStrDigits : Nat} {s : String} {sign : Int} {ds : List Char}
    (hs : splitSign ((transformDecimalAndSpaceToASCII s.toList).dropWhile isSpace) = (sign, ds))
    (hd : ∀ c ∈ ds, c.isDigit = true)
    (hne : ds ≠ []) (hlim : maxStrDigits = 0 ∨ ds.length ≤ maxStrDigits) :
    pyInt maxStrDigits s = .ok (sign * decimalValue ds) := by
  have hdu : ∀ c ∈ ds, isDigitOrUnderscore c = true := fun c hc => by
    simp [isDigitOrUnderscore, hd c hc]
  have hsplit : ds.splitOn '_' = [ds] := List.splitOnP_eq_single _ _ fun c hc => by
    have := hd c hc
    rintro h
    rw [beq_iff_eq.1 h] at this
    cases this
  have hempty : ds.isEmpty = false := by cases ds <;> simp_all
  simp only [pyInt, hs, List.takeWhile_eq_self_iff.2 hdu, List.dropWhile_eq_nil_iff.2 hdu, hsplit,
    List.any_cons, List.any_nil, hempty, List.all_nil, Bool.not_true, Bool.or_false,
    List.flatten_singleton, Bool.false_eq_true, if_false]
  rw [if_neg (by omega)]

/-- **Reading the port back.**  `int(str(n)) == n` for every `n` within the digit limit. -/
theorem pyInt_toString {maxStrDigits : Nat} (n : Int)
    (hn : maxStrDigits = 0 ∨ n.natAbs < 10 ^ maxStrDigits) :
    pyInt maxStrDigits (toString n) = .ok n := by
  have hlen : ∀ m : Nat, m < 10 ^ maxStrDigits → 0 < maxStrDigits →
      (Nat.toDigits 10 m).length ≤ maxStrDigits := fun m hm hpos =>
    Nat.toDigitsCore_length 10 (by decide) _ _ _ hm hpos
  have hvalue : ∀ m, decimalValue (Nat.toDigits 10 m) = m := fun m =>
    (foldl_toDigitsCore (m + 1) m [] (by omega)).trans rfl
  have hdigits : ∀ m, ∀ c ∈ Nat.toDigits 10 m, c.isDigit = true := fun m c hc =>
    (isDigit_of_mem_toDigitsCore _ _ _ c hc).resolve_left (List.not_mem_nil c)
  have hlim : ∀ m : Nat, (maxStrDigits = 0 ∨ m < 10 ^ maxStrDigits) →
      maxStrDigits = 0 ∨ (Nat.toDigits 10 m).length ≤ maxStrDigits := fun m hm => by
    rcases Nat.eq_zero_or_pos maxStrDigits with h0 | hpos
    · exact .inl h0
    · exact .inr (hlen m (hm.resolve_left (by omega)) hpos)
  cases n with
  | ofNat m =>
    obtain ⟨d, r, hdr⟩ := List.exists_cons_of_ne_nil (toDigits_ne_nil m)
    have hd : d.isDigit = true := hdigits m d (by rw [hdr]; exact List.mem_cons_self _ _)
    have hs : splitSign ((transformDecimalAndSpaceToASCII (toString (Int.ofNat m)).toList).dropWhile
        isSpace) = (1, Nat.toDigits 10 m) := by
      show splitSign ((transformDecimalAndSpaceToASCII (Nat.toDigits 10 m)).dropWhile isSpace) = _
      rw [transformDecimalAndSpaceToASCII_of_lt fun c hc => toNat_lt_of_isDigit (hdigits m c hc),
        hdr, List.dropWhile_cons_of_neg (by simp [not_isSpace_of_isDigit hd]),
        splitSign_of_isDigit hd]
    rw [pyInt_of_digits hs (hdigits m) (toDigits_ne_nil m) (hlim m hn), hvalue, Int.one_mul]
    rfl
  | negSucc m =>
    have hs : splitSign ((transformDecimalAndSpaceToASCII (toString (Int.negSucc m)).toList).dropWhile
        isSpace) = (-1, Nat.toDigits 10 (m + 1)) := by
      show splitSign ((transformDecimalAndSpaceToASCII ('-' :: Nat.toDigits 10 (m + 1))).dropWhile
        isSpace) = _
      rw [transformDecimalAndSpaceToASCII_of_lt fun c hc => ?_]
      · rfl
      rcases List.mem_cons.1 hc with rfl | hc
      exacts [by decide, toNat_lt_of_isDigit (hdigits _ c hc)]
    rw [pyInt_of_digits hs (hdigits _) (toDigits_ne_nil _) (hlim _ hn), hvalue, Int.negSucc_eq]
    congr 1
    omega

/-! ## The level, the directory and the port -/

theorem loggingLevel_isOk (v : Json) :
    (loggingLevel v).isOk = true ↔ ∃ name, v = .str name ∧ (levelNames.lookup name).isSome = true := by
  cases v with
  | str name =>
    rcases hl : levelNames.lookup name with _ | _ <;>
      simp only [loggingLevel, hl, Except.isOk, Except.toBool, Json.str.injEq, exists_eq_left',
        Option.isSome_none, Option.isSome_some]
  | _ => simp [loggingLevel, Except.isOk, Except.toBool]

theorem splitRoot_slash_fst_ne (rest : List Char) : (splitRoot ('/' :: rest)).1 ≠ "" := by
  unfold splitRoot
  split <;> simp_all

/-- The directory chosen is absolute. -/
theorem rootStateDirOf_root_ne {h : Host} {requestedPath : String} {d : PathObj}
    (hd : rootStateDirOf h requestedPath = .ok d) : d.root ≠ "" := by
  unfold rootStateDirOf at hd
  split at hd
  · next habs =>
    cases hd
    have habs' : requestedPath.toList.head? = some '/' := by simpa [isabs] using habs
    rcases hs : requestedPath.toList with _ | ⟨c, rest⟩ <;> rw [hs] at habs' <;> cases habs'
    simp only [PathObj.ofStr, hs]
    exact splitRoot_slash_fst_ne rest
  · unfold appStateDir at hd
    rcases he : PathObj.expanduser h _ with _ | p <;> rw [he] at hd <;> cases hd
    exact PathObj.absolute_root_ne h p

section
variable {h : Host} {fs : FileSystem} {requestedPath : String}

theorem getRootStateDirectory_ok_iff {d : PathObj} :
    (getRootStateDirectory h fs requestedPath).1 = .ok d ↔
      rootStateDirOf h requestedPath = .ok d ∧ fs.makeable d.loc = true := by
  unfold getRootStateDirectory
  rcases hr : rootStateDirOf h requestedPath with e | d'
  · simp
  · have hiff := mkdirParents_ok_iff fs d'.loc
    rcases hm : mkdirParents fs d'.loc with ⟨_ | ⟨⟩, fs'⟩ <;> simp [hm] at hiff ⊢
    · rintro rfl
      exact hiff
    · rintro rfl
      exact hiff

theorem getRootStateDirectory_madeOnTheWay {d : PathObj} (hd : rootStateDirOf h requestedPath = .ok d) :
    MadeOnTheWay d.loc fs (getRootStateDirectory h fs requestedPath).2 := by
  have hway := madeOnTheWay_mkdirParents fs d.loc
  simp only [getRootStateDirectory, hd]
  rcases hm : mkdirParents fs d.loc with ⟨_ | ⟨⟩, fs'⟩ <;> rw [hm] at hway <;> exact hway

theorem getRootStateDirectory_of_error {e : StartError}
    (he : rootStateDirOf h requestedPath = .error e) :
    getRootStateDirectory h fs requestedPath = (.error e, fs) := by
  rw [getRootStateDirectory, he]

theorem isDir_of_getRootStateDirectory {d : PathObj} {fs' : FileSystem}
    (hg : getRootStateDirectory h fs requestedPath = (.ok d, fs')) : fs'.isDir d.loc = true := by
  unfold getRootStateDirectory at hg
  rcases hr : rootStateDirOf h requestedPath with e | d' <;> simp only [hr] at hg
  · cases hg
  rcases hm : mkdirParents fs d'.loc with ⟨_ | ⟨⟩, fs1⟩ <;> simp only [hm] at hg <;> cases hg
  exact isDir_of_mkdirParents hm

end

/-- A result is a return when its value and its state are: what `decide` can check. -/
theorem eq_ok_of_toOption {ε α σ : Type} {x : Except ε α × σ} {a : α} {s : σ}
    (h1 : x.1.toOption = some a) (h2 : x.2 = s) : x = (.ok a, s) := by
  rcases x with ⟨_ | a', s'⟩ <;> simp_all [Except.toOption]

/-! ## `main` -/

/-- A launch of `main`, step by step. -/
theorem main_eq_ok {h : Host} {fs fs' : FileSystem} {parsedArgs : Arguments} {L : Launch} :
    main h fs parsedArgs = (.ok L, fs') ↔
      (loggingLevel parsedArgs.logLevel).isOk = true ∧
      getRootStateDirectory h fs (h.environGet "TSTATEDIR" "state_directory") =
        (.ok L.rootStateDir, fs') ∧
      pyInt h.maxStrDigits (h.environGet "CORE_API_PORT" "-1") = .ok L.apiPort ∧
      L.core = parsedArgs.core ∧ L.apiKey = h.environ.lookup "CORE_API_KEY" := by
  unfold main
  rcases loggingLevel parsedArgs.logLevel with e | level
  · simp [Except.isOk, Except.toBool]
  rcases getRootStateDirectory h fs (h.environGet "TSTATEDIR" "state_directory")
    with ⟨_ | d, fs1⟩
  · simp
  rcases pyInt h.maxStrDigits (h.environGet "CORE_API_PORT" "-1") with _ | port
  · simp
  rcases L with ⟨core, apiPort, apiKey, rootStateDir⟩
  simp only [Except.isOk, Except.toBool, Prod.mk.injEq, Except.ok.injEq, Launch.mk.injEq, true_and]
  constructor
  · rintro ⟨⟨rfl, rfl, rfl, rfl⟩, rfl⟩
    exact ⟨⟨rfl, rfl⟩, rfl, rfl, rfl⟩
  · rintro ⟨⟨rfl, rfl⟩, rfl, rfl, rfl⟩
    exact ⟨⟨rfl, rfl, rfl, rfl⟩, rfl⟩

/-- What `main` is for: the kind of process asked for, the API port and key from the
environment, and a root state directory that exists afterwards: `TSTATEDIR` when it is absolute,
otherwise the application's own directory.  The file system changes only by the directories made
on the way to it. -/
structure LaunchSpec (h : Host) (fs : FileSystem) (parsedArgs : Arguments) (L : Launch)
    (fs' : FileSystem) : Prop where
  core : L.core = parsedArgs.core
  apiKey : L.apiKey = h.environ.lookup "CORE_API_KEY"
  apiPort_unset : h.environ.lookup "CORE_API_PORT" = none → L.apiPort = -1
  apiPort_toString : ∀ n : Int, h.environ.lookup "CORE_API_PORT" = some (toString n) →
    (h.maxStrDigits = 0 ∨ n.natAbs < 10 ^ h.maxStrDigits) → L.apiPort = n
  requested : isabs (h.environGet "TSTATEDIR" "state_directory") = true →
    L.rootStateDir = PathObj.ofStr (h.environGet "TSTATEDIR" "state_directory")
  relative : isabs (h.environGet "TSTATEDIR" "state_directory") = false →
    appStateDir h = .ok L.rootStateDir
  absolute : L.rootStateDir.root ≠ ""
  isDir : fs'.isDir L.rootStateDir.loc = true
  madeOnTheWay : MadeOnTheWay L.rootStateDir.loc fs fs'

/-- **`main` meets its purpose.** -/
theorem launchSpec_of_main {h : Host} {fs fs' : FileSystem} {parsedArgs : Arguments} {L : Launch}
    (hm : main h fs parsedArgs = (.ok L, fs')) : LaunchSpec h fs parsedArgs L fs' := by
  obtain ⟨-, hg, hp, hc, hk⟩ := main_eq_ok.1 hm
  obtain ⟨hd, -⟩ := getRootStateDirectory_ok_iff.1 (congrArg Prod.fst hg)
  have hway := @getRootStateDirectory_madeOnTheWay _ fs _ _ hd
  rw [hg] at hway
  refine ⟨hc, hk, fun hu => ?_, fun n hn hlim => ?_, fun habs => ?_, fun hrel => ?_,
    rootStateDirOf_root_ne hd, isDir_of_getRootStateDirectory hg, hway⟩
  · have hlim : h.maxStrDigits = 0 ∨ (-1 : Int).natAbs < 10 ^ h.maxStrDigits := by
      rcases Nat.eq_zero_or_pos h.maxStrDigits with h0 | hpos
      · exact .inl h0
      · exact .inr (Nat.one_lt_pow (by omega) (by decide))
    rw [Host.environGet, hu, Option.getD_none, show "-1" = toString (-1 : Int) from rfl,
      pyInt_toString _ hlim] at hp
    exact (Except.ok.inj hp).symm
  · rw [Host.environGet, hn, Option.getD_some, pyInt_toString _ hlim] at hp
    exact (Except.ok.inj hp).symm
  · simpa [rootStateDirOf, habs] using hd.symm
  · simpa [rootStateDirOf, hrel] using hd

theorem launchSpec_of_main_home :
    let h : Host := ⟨[("HOME", "/home/u"), ("CORE_API_PORT", "8085")], none, [], ["home", "u"], 4300⟩
    let fs : FileSystem := ⟨[(["u", "home"], .dir), (["home"], .dir)], []⟩
    let L : Launch := ⟨true, 8085, none, ⟨"/", ["home", "u", ".TriblerExperimental"]⟩⟩
    let fs' : FileSystem := ⟨([".TriblerExperimental", "u", "home"], .dir) :: fs.entries, []⟩
    main h fs ⟨true, .str "INFO"⟩ = (.ok L, fs') ∧ LaunchSpec h fs ⟨true, .str "INFO"⟩ L fs' := by
  intro h fs L fs'
  have hm : main h fs ⟨true, .str "INFO"⟩ = (.ok L, fs') :=
    eq_ok_of_toOption (by decide) (by decide)
  exact ⟨hm, launchSpec_of_main hm⟩

/-- **Starting again.**  After a start that launched, a second start on the same machine
launches the same way and changes nothing in the file system. -/
theorem main_restart {h : Host} {fs fs' : FileSystem} {parsedArgs : Arguments} {L : Launch}
    (hm : main h fs parsedArgs = (.ok L, fs')) : main h fs' parsedArgs = (.ok L, fs') := by
  obtain ⟨hl, hg, hp, hc, hk⟩ := main_eq_ok.1 hm
  obtain ⟨hd, -⟩ := getRootStateDirectory_ok_iff.1 (congrArg Prod.fst hg)
  refine main_eq_ok.2 ⟨hl, ?_, hp, hc, hk⟩
  simp only [getRootStateDirectory, hd, mkdirParents_of_isDir (isDir_of_getRootStateDirectory hg)]

theorem main_restart_home :
    let h : Host := ⟨[("HOME", "/home/u"), ("CORE_API_PORT", "8085")], none, [], ["home", "u"], 4300⟩
    let fs : FileSystem := ⟨[(["u", "home"], .dir), (["home"], .dir)], []⟩
    let L : Launch := ⟨true, 8085, none, ⟨"/", ["home", "u", ".TriblerExperimental"]⟩⟩
    let fs' : FileSystem := ⟨([".TriblerExperimental", "u", "home"], .dir) :: fs.entries, []⟩
    main h fs ⟨true, .str "INFO"⟩ = (.ok L, fs') ∧ main h fs' ⟨true, .str "INFO"⟩ = (.ok L, fs') := by
  intro h fs L fs'
  have hm : main h fs ⟨true, .str "INFO"⟩ = (.ok L, fs') :=
    eq_ok_of_toOption (by decide) (by decide)
  exact ⟨hm, main_restart hm⟩

end Tribler
