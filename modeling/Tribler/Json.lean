import Mathlib.Data.List.Infix

/-!
# Python JSON values and the builtins the configuration code calls on them

The configuration of `tribler_config.py` is whatever `json.load` returns: nested `dict`s,
`list`s and scalars, or `DEFAULT_CONFIG`, whose `ipv8` section also holds tuples (IPv8's
bootstrap addresses and `on_start` calls).  `Json` is that value; the operations below are the
Python builtins the code applies to it (`x[k]`, `x[k] = v`, `k in x`, `x.get(k)`, `x.pop(k)`,
`for y in x`), each returning the exception CPython raises where it raises one (`PyError`).
`json.dump` writes a tuple as a list, so what `json.load` reads back (`Json.reload`) is the value
itself exactly when it has no tuple (`reload_of_tupleFree`).

A `dict` is its list of entries in insertion order.  `dictSet` keeps an existing key's place
and appends a new one, as CPython does; keys of a dict are unique, so removing the entries of a
key (`dictErase`) removes its one entry.
-/

namespace Tribler

/-- A value of the configuration (`float`s as their decimal literal `mantissa · 10^-exponent`). -/
inductive Json where
  | null
  | bool (b : Bool)
  | int (n : Int)
  | float (mantissa : Int) (exponent : Nat)
  | str (s : String)
  | arr (xs : List Json)
  | tuple (xs : List Json)
  | obj (kvs : List (String × Json))
deriving Repr, Inhabited

namespace Json

/-! ## Decidable equality -/

mutual
/-- Structural equality test; `DecidableEq Json` is built on it. -/
def beq : Json → Json → Bool
  | .null, .null => true
  | .bool a, .bool b => a == b
  | .int a, .int b => a == b
  | .float m e, .float m' e' => m == m' && e == e'
  | .str a, .str b => a == b
  | .arr xs, .arr ys => beqList xs ys
  | .tuple xs, .tuple ys => beqList xs ys
  | .obj xs, .obj ys => beqDict xs ys
  | _, _ => false
def beqList : List Json → List Json → Bool
  | [], [] => true
  | x :: xs, y :: ys => beq x y && beqList xs ys
  | _, _ => false
def beqDict : List (String × Json) → List (String × Json) → Bool
  | [], [] => true
  | (k, x) :: xs, (l, y) :: ys => k == l && beq x y && beqDict xs ys
  | _, _ => false
end

mutual
theorem eq_of_beq : ∀ a b : Json, beq a b = true → a = b
  | .null, b, h => by cases b <;> first | rfl | exact absurd h Bool.false_ne_true
  | .bool x, b, h => by
    cases b <;> first | exact absurd h Bool.false_ne_true | exact congrArg _ (beq_iff_eq.mp h)
  | .int x, b, h => by
    cases b <;> first | exact absurd h Bool.false_ne_true | exact congrArg _ (beq_iff_eq.mp h)
  | .float m e, b, h => by
    cases b with
    | float m' e' =>
      obtain ⟨h1, h2⟩ := Bool.and_eq_true_iff.mp h
      rw [beq_iff_eq.mp h1, beq_iff_eq.mp h2]
    | _ => exact absurd h Bool.false_ne_true
  | .str x, b, h => by
    cases b <;> first | exact absurd h Bool.false_ne_true | exact congrArg _ (beq_iff_eq.mp h)
  | .arr xs, b, h => by
    cases b with
    | arr ys => exact congrArg _ (eq_of_beqList xs ys h)
    | _ => exact absurd h Bool.false_ne_true
  | .tuple xs, b, h => by
    cases b with
    | tuple ys => exact congrArg _ (eq_of_beqList xs ys h)
    | _ => exact absurd h Bool.false_ne_true
  | .obj xs, b, h => by
    cases b with
    | obj ys => exact congrArg _ (eq_of_beqDict xs ys h)
    | _ => exact absurd h Bool.false_ne_true
theorem eq_of_beqList : ∀ xs ys : List Json, beqList xs ys = true → xs = ys
  | [], [], _ => rfl
  | [], _ :: _, h | _ :: _, [], h => absurd h Bool.false_ne_true
  | x :: xs, y :: ys, h => by
    obtain ⟨h1, h2⟩ := Bool.and_eq_true_iff.mp h
    rw [eq_of_beq x y h1, eq_of_beqList xs ys h2]
theorem eq_of_beqDict : ∀ xs ys : List (String × Json), beqDict xs ys = true → xs = ys
  | [], [], _ => rfl
  | [], _ :: _, h | _ :: _, [], h => absurd h Bool.false_ne_true
  | (k, x) :: xs, (l, y) :: ys, h => by
    have h : (k == l && beq x y && beqDict xs ys) = true := h
    simp only [Bool.and_eq_true, beq_iff_eq] at h
    rw [h.1.1, eq_of_beq x y h.1.2, eq_of_beqDict xs ys h.2]
end

mutual
theorem beq_refl : ∀ a : Json, beq a a = true
  | .null => rfl
  | .bool b => beq_self_eq_true b
  | .int n => beq_self_eq_true n
  | .float m e => show (m == m && e == e) = true by simp
  | .str s => beq_self_eq_true s
  | .arr xs => beqList_refl xs
  | .tuple xs => beqList_refl xs
  | .obj xs => beqDict_refl xs
theorem beqList_refl : ∀ xs : List Json, beqList xs xs = true
  | [] => rfl
  | x :: xs => show (beq x x && beqList xs xs) = true by rw [beq_refl x, beqList_refl xs]; rfl
theorem beqDict_refl : ∀ xs : List (String × Json), beqDict xs xs = true
  | [] => rfl
  | (k, x) :: xs => show (k == k && beq x x && beqDict xs xs) = true by
    rw [beq_self_eq_true k, beq_refl x, beqDict_refl xs]; rfl
end

instance : DecidableEq Json := fun a b =>
  decidable_of_iff (beq a b = true) ⟨eq_of_beq a b, fun h => h ▸ beq_refl a⟩

/-! ## Python semantics of a value -/

/-- `type(x).__name__`. -/
def typeName : Json → String
  | .null => "NoneType"
  | .bool _ => "bool"
  | .int _ => "int"
  | .float _ _ => "float"
  | .str _ => "str"
  | .arr _ => "list"
  | .tuple _ => "tuple"
  | .obj _ => "dict"

/-- `bool(x)`: `None`, `False`, zero and empty containers are falsy. -/
def truthy : Json → Bool
  | .null => false
  | .bool b => b
  | .int n => n != 0
  | .float m _ => m != 0
  | .str s => !s.isEmpty
  | .arr xs => !xs.isEmpty
  | .tuple xs => !xs.isEmpty
  | .obj kvs => !kvs.isEmpty

end Json

/-- The exceptions the modelled code can raise, with what CPython's message names. -/
inductive PyError where
  /-- `KeyError(key)`: a dict lacks `key`. -/
  | keyError (key : String)
  /-- `TypeError`: an operation a value of type `typeName` does not support. -/
  | typeError (typeName : String)
  /-- `AttributeError`: `typeName` object has no attribute `attr`. -/
  | attributeError (typeName : String) (attr : String)
  /-- `IndexError: tuple index out of range`. -/
  | indexError
  /-- An exception of opening or reading a file, by its class: `IsADirectoryError`,
  `PermissionError`, or `UnicodeDecodeError` for bytes the locale's encoding does not decode. -/
  | fileError (exceptionClass : String)
deriving DecidableEq, Repr

/-! ## Dict entries -/

/-- `d[k] = v` on the entries of a dict: an existing key keeps its place, a new one is appended. -/
def dictSet (k : String) (v : Json) : List (String × Json) → List (String × Json)
  | [] => [(k, v)]
  | (k', v') :: rest => if k' = k then (k, v) :: rest else (k', v') :: dictSet k v rest

/-- The entries of a dict without key `k`. -/
def dictErase (k : String) (kvs : List (String × Json)) : List (String × Json) :=
  kvs.filter fun kv => kv.1 != k

@[simp] theorem lookup_cons_of_ne {k a : String} (b : Json) (es : List (String × Json))
    (h : a ≠ k) : ((k, b) :: es).lookup a = es.lookup a := by
  simp [List.lookup_cons, beq_false_of_ne h]

@[simp] theorem lookup_dictSet_self (k : String) (v : Json) (kvs : List (String × Json)) :
    (dictSet k v kvs).lookup k = some v := by
  induction kvs with
  | nil => simp [dictSet]
  | cons kv rest ih =>
    obtain ⟨k₀, v₀⟩ := kv
    by_cases h : k₀ = k
    · simp [dictSet, h]
    · simp [dictSet, h, ih, Ne.symm h]

@[simp] theorem lookup_dictSet_ne {k k' : String} (v : Json) (kvs : List (String × Json))
    (h : k' ≠ k) : (dictSet k v kvs).lookup k' = kvs.lookup k' := by
  induction kvs with
  | nil => simp [dictSet, h]
  | cons kv rest ih =>
    obtain ⟨k₀, v₀⟩ := kv
    by_cases hk : k₀ = k
    · simp [dictSet, hk, h]
    · by_cases hk' : k' = k₀
      · simp [dictSet, hk, hk']
      · simp [dictSet, hk, hk', ih]

@[simp] theorem lookup_dictErase_self (k : String) (kvs : List (String × Json)) :
    (dictErase k kvs).lookup k = none := by
  simp [dictErase, List.lookup_eq_none_iff, List.mem_filter]
  intro k' _ _ h
  exact fun e => h e.symm

@[simp] theorem lookup_dictErase_ne {k k' : String} (kvs : List (String × Json)) (h : k' ≠ k) :
    (dictErase k kvs).lookup k' = kvs.lookup k' := by
  induction kvs with
  | nil => rfl
  | cons kv rest ih =>
    obtain ⟨k₀, v₀⟩ := kv
    by_cases hk : k₀ = k
    · simp [dictErase, hk, h] at ih ⊢
      exact ih
    · by_cases hk' : k' = k₀
      · simp [dictErase, hk, hk']
      · simp [dictErase, hk, hk'] at ih ⊢
        exact ih

namespace Json

/-! ## The builtins -/

/-- `x[k]` with a string `k`. -/
def getItem (x : Json) (k : String) : Except PyError Json :=
  match x with
  | .obj kvs => match kvs.lookup k with
    | some v => .ok v
    | none => .error (.keyError k)
  | x => .error (.typeError x.typeName)

/-- `x[k] = v` with a string `k`: the container after the assignment. -/
def setItem (x : Json) (k : String) (v : Json) : Except PyError Json :=
  match x with
  | .obj kvs => .ok (.obj (dictSet k v kvs))
  | x => .error (.typeError x.typeName)

/-- `k in x` with a string `k`: key of a dict, element of a list or tuple, substring of a
string. -/
def contains (x : Json) (k : String) : Except PyError Bool :=
  match x with
  | .obj kvs => .ok (kvs.lookup k).isSome
  | .arr xs | .tuple xs => .ok (xs.contains (.str k))
  | .str s => .ok (decide (k.toList <:+: s.toList))
  | x => .error (.typeError x.typeName)

/-- `x.get(k)`: a dict's value at `k`, `None` when absent; no other type has `get`. -/
def get (x : Json) (k : String) : Except PyError Json :=
  match x with
  | .obj kvs => .ok ((kvs.lookup k).getD .null)
  | x => .error (.attributeError x.typeName "get")

/-- `x.pop(k)` with a string `k`: the dict after removing `k`. -/
def pop (x : Json) (k : String) : Except PyError Json :=
  match x with
  | .obj kvs => if (kvs.lookup k).isSome then .ok (.obj (dictErase k kvs)) else .error (.keyError k)
  | .arr _ => .error (.typeError "str")
  | x => .error (.attributeError x.typeName "pop")

/-- What `for y in x` visits: a list's or tuple's elements, a dict's keys, a string's
characters. -/
def iter (x : Json) : Except PyError (List Json) :=
  match x with
  | .arr xs | .tuple xs => .ok xs
  | .obj kvs => .ok (kvs.map fun kv => .str kv.1)
  | .str s => .ok (s.toList.map fun c => .str c.toString)
  | x => .error (.typeError x.typeName)

/-! ## Lemmas -/

@[simp] theorem getItem_obj (kvs : List (String × Json)) (k : String) :
    getItem (.obj kvs) k = match kvs.lookup k with
      | some v => .ok v
      | none => .error (.keyError k) := rfl

theorem getItem_of_lookup {kvs : List (String × Json)} {k : String} {v : Json}
    (h : kvs.lookup k = some v) : getItem (.obj kvs) k = .ok v := by
  simp [h]

@[simp] theorem setItem_obj (kvs : List (String × Json)) (k : String) (v : Json) :
    setItem (.obj kvs) k v = .ok (.obj (dictSet k v kvs)) := rfl

@[simp] theorem contains_obj (kvs : List (String × Json)) (k : String) :
    contains (.obj kvs) k = .ok (kvs.lookup k).isSome := rfl

@[simp] theorem get_obj (kvs : List (String × Json)) (k : String) :
    get (.obj kvs) k = .ok ((kvs.lookup k).getD .null) := rfl

/-- Only a dict can be assigned a key. -/
theorem exists_obj_of_setItem {x : Json} {k : String} {v r : Json} (h : setItem x k v = .ok r) :
    ∃ kvs, x = .obj kvs ∧ r = .obj (dictSet k v kvs) := by
  cases x <;> simp_all [setItem]

/-- Only a dict can be indexed by a key. -/
theorem exists_obj_of_getItem {x : Json} {k : String} {v : Json} (h : getItem x k = .ok v) :
    ∃ kvs, x = .obj kvs ∧ kvs.lookup k = some v := by
  cases x with
  | obj kvs => cases hk : kvs.lookup k <;> simp_all
  | _ => simp [getItem] at h

/-! ## What `json.dump` writes and `json.load` reads back -/

mutual
/-- The value `json.load` reads from the text `json.dump` wrote of `x`: a tuple comes back as a
list. -/
def reload : Json → Json
  | .arr xs | .tuple xs => .arr (reloadList xs)
  | .obj kvs => .obj (reloadDict kvs)
  | x => x
def reloadList : List Json → List Json
  | [] => []
  | x :: xs => reload x :: reloadList xs
def reloadDict : List (String × Json) → List (String × Json)
  | [] => []
  | (k, x) :: kvs => (k, reload x) :: reloadDict kvs
end

mutual
/-- Whether `x` has no tuple in it. -/
def tupleFree : Json → Bool
  | .tuple _ => false
  | .arr xs => tupleFreeList xs
  | .obj kvs => tupleFreeDict kvs
  | _ => true
def tupleFreeList : List Json → Bool
  | [] => true
  | x :: xs => tupleFree x && tupleFreeList xs
def tupleFreeDict : List (String × Json) → Bool
  | [] => true
  | (_, x) :: kvs => tupleFree x && tupleFreeDict kvs
end

example : reload (.obj [("on_start", .arr [.tuple [.str "resolve_dns_bootstrap_addresses"]])]) =
    .obj [("on_start", .arr [.arr [.str "resolve_dns_bootstrap_addresses"]])] := by decide

mutual
/-- **A value without tuples is read back as itself.** -/
theorem reload_of_tupleFree : ∀ x : Json, tupleFree x = true → reload x = x
  | .null, _ | .bool _, _ | .int _, _ | .float _ _, _ | .str _, _ => rfl
  | .tuple _, h => absurd h Bool.false_ne_true
  | .arr xs, h => congrArg arr (reloadList_of_tupleFree xs h)
  | .obj kvs, h => congrArg obj (reloadDict_of_tupleFree kvs h)
theorem reloadList_of_tupleFree : ∀ xs : List Json, tupleFreeList xs = true → reloadList xs = xs
  | [], _ => rfl
  | x :: xs, h => by
    have h : (tupleFree x && tupleFreeList xs) = true := h
    rw [Bool.and_eq_true] at h
    show reload x :: reloadList xs = x :: xs
    rw [reload_of_tupleFree x h.1, reloadList_of_tupleFree xs h.2]
theorem reloadDict_of_tupleFree :
    ∀ kvs : List (String × Json), tupleFreeDict kvs = true → reloadDict kvs = kvs
  | [], _ => rfl
  | (k, x) :: kvs, h => by
    have h : (tupleFree x && tupleFreeDict kvs) = true := h
    rw [Bool.and_eq_true] at h
    show (k, reload x) :: reloadDict kvs = (k, x) :: kvs
    rw [reload_of_tupleFree x h.1, reloadDict_of_tupleFree kvs h.2]
end

theorem reloadList_isEmpty : ∀ xs : List Json, (reloadList xs).isEmpty = xs.isEmpty
  | [] | _ :: _ => rfl

theorem reloadDict_isEmpty : ∀ kvs : List (String × Json), (reloadDict kvs).isEmpty = kvs.isEmpty
  | [] | _ :: _ => rfl

/-- What is read back is truthy exactly when what was written is. -/
theorem truthy_reload (x : Json) : (reload x).truthy = x.truthy := by
  cases x <;> simp only [reload, truthy, reloadList_isEmpty, reloadDict_isEmpty]

end Json

/-! ## Binding in `Except` -/

@[simp] theorem pure_eq_ok {α : Type} (a : α) : (pure a : Except PyError α) = .ok a := rfl

@[simp] theorem ok_bind {α β : Type} (a : α) (f : α → Except PyError β) :
    (Except.ok a >>= f) = f a := rfl

@[simp] theorem error_bind {α β : Type} (e : PyError) (f : α → Except PyError β) :
    (Except.error e >>= f) = .error e := rfl

theorem bind_eq_ok {α β : Type} {x : Except PyError α} {f : α → Except PyError β} {b : β} :
    x >>= f = .ok b ↔ ∃ a, x = .ok a ∧ f a = .ok b := by
  cases x <;> simp

end Tribler
