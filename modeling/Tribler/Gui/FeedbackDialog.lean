import Mathlib.Data.List.Basic

/-!
# The crash report's text: `dump` and `dump_with_name`

`feedbackdialog.py` renders the error and the process information with `dump`, which prints a
dict or a list one item per line, each nested value two spaces further in, and anything else
with `repr`.  The text is kept as its characters.

When no `repr` it prints has a line break in it, the layout depends on the indentation only by a
shift: dumping at `n + k` is dumping at `n` with every non-empty line after the first moved `k`
spaces right,

    dump v (n + k) = indentLines k (dump v n)                          (dump_indentLines)

so every line after the first is empty (the middle line of an empty container) or starts with the
`n` spaces of its indentation (`dump_layout`).
-/

namespace Tribler

/-! ## `dump` -/

/-- A value as `dump` tells values apart: a dict (each key as `repr` prints it, with its value),
a list, a tuple, or anything else, as `repr` prints it. -/
inductive DumpValue where
  | dict (items : List (String × DumpValue))
  | list (xs : List DumpValue)
  | tuple (xs : List DumpValue)
  | other (repr : String)

/-- `' ' * n`. -/
def spaces (n : Nat) : List Char := List.replicate n ' '

/-- `join(strings)` inside `dump`: the strings joined by `,\n`, after a line break and before a
line break and the indentation `ind`. -/
def dumpJoin (ind : List Char) (strings : List (List Char)) : List Char :=
  '\n' :: ([',', '\n'].intercalate strings ++ '\n' :: ind)

mutual
/-- `dump(obj, indent)`. -/
def dump : DumpValue → Nat → List Char
  | .dict items, indent => '{' :: dumpJoin (spaces indent) (dumpItems items indent) ++ ['}']
  | .list xs, indent => '[' :: dumpJoin (spaces indent) (dumpElems xs indent) ++ [']']
  | .tuple xs, indent => '(' :: dumpJoin (spaces indent) (dumpElems xs indent) ++ [')']
  | .other repr, _ => repr.toList

/-- `f"{ind}  {repr(k)}: {dump(v, indent + 2)}" for k, v in obj.items()`. -/
def dumpItems : List (String × DumpValue) → Nat → List (List Char)
  | [], _ => []
  | (k, v) :: rest, indent =>
    (spaces indent ++ [' ', ' '] ++ k.toList ++ [':', ' '] ++ dump v (indent + 2)) ::
      dumpItems rest indent

/-- `f"{ind}  {dump(x, indent + 2)}" for x in obj`. -/
def dumpElems : List DumpValue → Nat → List (List Char)
  | [], _ => []
  | x :: rest, indent => (spaces indent ++ [' ', ' '] ++ dump x (indent + 2)) :: dumpElems rest indent
end

/-- `dump_with_name(name, value, start, delimiter)`. -/
def dumpWithName (name : String) (value : DumpValue) (start : List Char := ['\n', '\n'])
    (delimiter : List Char := List.replicate 40 '=') : List Char :=
  start ++ delimiter ++ '\n' :: name.toList ++ [':', '\n'] ++ delimiter ++ '\n' :: dump value 0

example : dump (.dict [("'a'", .list [.other "1"]), ("'b'", .dict [])]) 0 =
    "\x7b\n  'a': [\n    1\n  ],\n  'b': \x7b\n\n  \x7d\n\x7d".toList := by decide

mutual
/-- No `repr` that `dump` prints, of a key or of a value, has a line break. -/
def DumpValue.oneLine : DumpValue → Bool
  | .dict items => DumpValue.itemsOneLine items
  | .list xs => DumpValue.elemsOneLine xs
  | .tuple xs => DumpValue.elemsOneLine xs
  | .other repr => !repr.toList.contains '\n'

def DumpValue.itemsOneLine : List (String × DumpValue) → Bool
  | [] => true
  | (k, v) :: rest => !k.toList.contains '\n' && v.oneLine && DumpValue.itemsOneLine rest

def DumpValue.elemsOneLine : List DumpValue → Bool
  | [] => true
  | x :: rest => x.oneLine && DumpValue.elemsOneLine rest
end

/-! ## Moving lines right -/

/-- The text with every non-empty line after the first moved `k` spaces right. -/
def indentLines (k : Nat) : List Char → List Char
  | [] => []
  | c :: rest =>
    if c = '\n' ∧ rest ≠ [] ∧ rest.head? ≠ some '\n' then '\n' :: (spaces k ++ indentLines k rest)
    else c :: indentLines k rest

section
variable (k : Nat)

theorem indentLines_cons_of_ne {c : Char} (hc : c ≠ '\n') (rest : List Char) :
    indentLines k (c :: rest) = c :: indentLines k rest := by
  simp [indentLines, hc]

theorem indentLines_newline_cons {c : Char} (hc : c ≠ '\n') (rest : List Char) :
    indentLines k ('\n' :: c :: rest) = '\n' :: (spaces k ++ indentLines k (c :: rest)) := by
  simp [indentLines, hc]

theorem indentLines_newline_newline (rest : List Char) :
    indentLines k ('\n' :: '\n' :: rest) = '\n' :: indentLines k ('\n' :: rest) := by
  rw [indentLines, if_neg (by simp)]

theorem indentLines_cons_cons (c d : Char) (rest : List Char) :
    indentLines k (c :: d :: rest) =
      if c = '\n' ∧ d ≠ '\n' then '\n' :: (spaces k ++ indentLines k (d :: rest))
      else c :: indentLines k (d :: rest) := by
  rw [indentLines]
  simp only [ne_eq, reduceCtorEq, not_false_eq_true, List.head?_cons, Option.some.injEq, true_and]

/-- Text that does not end a line is moved independently of what follows it. -/
theorem indentLines_append : ∀ {a : List Char}, a.getLast? ≠ some '\n' → ∀ b,
    indentLines k (a ++ b) = indentLines k a ++ indentLines k b
  | [], _, _ => rfl
  | [c], h, b => by
    have hc : c ≠ '\n' := fun hc => h (by simp [hc])
    rw [List.singleton_append, indentLines_cons_of_ne k hc, indentLines_cons_of_ne k hc]
    rfl
  | c :: d :: a, h, b => by
    have ih := @indentLines_append (d :: a) (by simpa using h) b
    rw [List.cons_append] at ih
    rw [List.cons_append, List.cons_append, indentLines_cons_cons, indentLines_cons_cons, ih]
    split <;> simp

theorem indentLines_of_not_mem {a : List Char} (h : '\n' ∉ a) : indentLines k a = a := by
  induction a with
  | nil => rfl
  | cons c a ih =>
    rw [indentLines_cons_of_ne k (fun hc => h (hc ▸ List.mem_cons_self _ _)),
      ih fun h' => h (List.mem_cons_of_mem _ h')]

/-- A one-line prefix is left as it is. -/
theorem indentLines_append_of_not_mem {a : List Char} (h : '\n' ∉ a) (b : List Char) :
    indentLines k (a ++ b) = a ++ indentLines k b := by
  rcases List.eq_nil_or_concat a with rfl | ⟨a', c, rfl⟩
  · rfl
  · rw [indentLines_append k (by simpa using fun hc => h (by simp [hc])), indentLines_of_not_mem k h]

theorem not_mem_spaces (n : Nat) : '\n' ∉ spaces n := by simp [spaces, List.mem_replicate]

theorem spaces_add (n : Nat) : spaces (n + k) = spaces k ++ spaces n := by
  unfold spaces
  rw [Nat.add_comm, List.replicate_add]

theorem intercalate_sep_singleton (sep l : List Char) : sep.intercalate [l] = l := by
  simp [List.intercalate]

theorem intercalate_sep_cons_cons (sep l l' : List Char) (ls : List (List Char)) :
    sep.intercalate (l :: l' :: ls) = l ++ sep ++ sep.intercalate (l' :: ls) := by
  simp [List.intercalate, List.intersperse]

/-- Lines joined by `,\n` after a line break are each moved right. -/
theorem indentLines_newline_intercalate : ∀ {ls : List (List Char)}, ls ≠ [] →
    (∀ l ∈ ls, l ≠ [] ∧ l.head? ≠ some '\n' ∧ l.getLast? ≠ some '\n') →
    indentLines k ('\n' :: [',', '\n'].intercalate ls) =
      '\n' :: [',', '\n'].intercalate (ls.map fun l => spaces k ++ indentLines k l)
  | [], hne, _ => absurd rfl hne
  | [l], _, h => by
    obtain ⟨hl, hhead, -⟩ := h l (List.mem_singleton_self l)
    obtain ⟨c, cs, rfl⟩ := List.exists_cons_of_ne_nil hl
    simp only [intercalate_sep_singleton, List.map_cons, List.map_nil]
    exact indentLines_newline_cons k (by simpa using hhead) cs
  | l :: l' :: ls, _, h => by
    obtain ⟨hl, hhead, hlast⟩ := h l (List.mem_cons_self _ _)
    obtain ⟨c, cs, rfl⟩ := List.exists_cons_of_ne_nil hl
    have hc : c ≠ '\n' := by simpa using hhead
    have ih := @indentLines_newline_intercalate (l' :: ls) (List.cons_ne_nil _ _)
      fun m hm => h m (List.mem_cons_of_mem _ hm)
    calc indentLines k ('\n' :: [',', '\n'].intercalate ((c :: cs) :: l' :: ls))
        = indentLines k ('\n' :: c :: (cs ++ ',' :: '\n' :: [',', '\n'].intercalate (l' :: ls))) := by
          rw [intercalate_sep_cons_cons]; simp
      _ = '\n' :: (spaces k ++
            indentLines k ((c :: cs) ++ ',' :: '\n' :: [',', '\n'].intercalate (l' :: ls))) := by
          rw [indentLines_newline_cons k hc]; rfl
      _ = '\n' :: (spaces k ++ (indentLines k (c :: cs) ++
            ',' :: indentLines k ('\n' :: [',', '\n'].intercalate (l' :: ls)))) := by
          rw [indentLines_append k hlast, @indentLines_cons_of_ne k ',' (by decide)]
      _ = _ := by rw [ih]; simp [intercalate_sep_cons_cons]

end

/-! ## The shift -/

theorem getLast?_dumpJoin_close (ind : List Char) (ls : List (List Char)) (close : Char) :
    (dumpJoin ind ls ++ [close]).getLast? = some close := by
  simp

/-- The text `dump` prints does not end a line. -/
theorem getLast?_dump {v : DumpValue} (h : v.oneLine = true) (n : Nat) :
    (dump v n).getLast? ≠ some '\n' := by
  cases v with
  | other r =>
    have hr : '\n' ∉ r.toList := by simpa [DumpValue.oneLine] using h
    exact fun hl => hr (List.mem_of_getLast?_eq_some hl)
  | _ => rw [dump, List.getLast?_append]; simp

/-- A printed line: not empty, and neither starting nor ending a line. -/
def Unbroken (l : List Char) : Prop := l ≠ [] ∧ l.head? ≠ some '\n' ∧ l.getLast? ≠ some '\n'

/-- An item line of `dump` is unbroken: it starts with spaces and ends with what it prints. -/
theorem unbroken_of_lead {a d : List Char} (ha : a.head? = some ' ') (ha' : a.getLast? = some ' ')
    (hd : d.getLast? ≠ some '\n') : Unbroken (a ++ d) := by
  refine ⟨fun h => by simp_all, ?_, ?_⟩
  · rcases a with _ | ⟨c, a⟩ <;> simp_all
  · rw [List.getLast?_append]
    cases hd' : d.getLast? <;> simp_all

theorem getLast?_intercalate : ∀ {ls : List (List Char)}, ls ≠ [] → (∀ l ∈ ls, Unbroken l) →
    ([',', '\n'].intercalate ls).getLast? ≠ some '\n'
  | [], hne, _ => absurd rfl hne
  | [l], _, h => by rw [intercalate_sep_singleton]; exact (h l (List.mem_singleton_self l)).2.2
  | l :: l' :: ls, _, h => by
    have ih := @getLast?_intercalate (l' :: ls) (List.cons_ne_nil _ _)
      fun m hm => h m (List.mem_cons_of_mem _ hm)
    have hne : [',', '\n'].intercalate (l' :: ls) ≠ [] := by
      intro h0
      rcases ls with _ | ⟨l'', ls⟩
      · exact (h l' (by simp)).1 (by simpa [intercalate_sep_singleton] using h0)
      · simp [intercalate_sep_cons_cons] at h0
    rw [intercalate_sep_cons_cons, List.getLast?_append_of_ne_nil _ hne]
    exact ih

section
variable (k : Nat)

/-- The closing line of a container: its indentation and bracket. -/
theorem indentLines_closing (n : Nat) {close : Char} (hc : close ≠ '\n') :
    indentLines k ('\n' :: (spaces n ++ [close])) = '\n' :: (spaces (n + k) ++ [close]) := by
  have hrest : indentLines k (spaces n ++ [close]) = spaces n ++ [close] :=
    indentLines_of_not_mem k (by simp [not_mem_spaces, Ne.symm hc])
  obtain ⟨c, cs, hcs, hc'⟩ : ∃ c cs, spaces n ++ [close] = c :: cs ∧ c ≠ '\n' := by
    cases n with
    | zero => exact ⟨close, [], rfl, hc⟩
    | succ n => exact ⟨' ', spaces n ++ [close], rfl, by decide⟩
  rw [hcs, indentLines_newline_cons k hc', ← hcs, hrest, spaces_add, List.append_assoc]

theorem intercalate_sep_ne_nil {l : List Char} (hl : l ≠ []) (ls : List (List Char)) :
    [',', '\n'].intercalate (l :: ls) ≠ [] := by
  cases ls with
  | nil => rwa [intercalate_sep_singleton]
  | cons l' ls => rw [intercalate_sep_cons_cons]; simp [hl]

/-- **A container moves right as a whole**: its item lines each by `k`, its closing line to the
indentation `n + k`. -/
theorem indentLines_container {openc close : Char} (ho : openc ≠ '\n') (hc : close ≠ '\n')
    (n : Nat) {ls : List (List Char)} (hls : ∀ l ∈ ls, Unbroken l) :
    indentLines k (openc :: dumpJoin (spaces n) ls ++ [close]) =
      openc :: dumpJoin (spaces (n + k)) (ls.map fun l => spaces k ++ indentLines k l) ++ [close] := by
  simp only [dumpJoin, List.cons_append, List.append_assoc, indentLines_cons_of_ne k ho]
  rcases ls with _ | ⟨l, ls⟩
  · simp only [List.intercalate, List.intersperse, List.flatten, List.nil_append, List.map_nil]
    rw [indentLines_newline_newline, indentLines_closing k n hc]
  · obtain ⟨x, xs, hx⟩ := List.exists_cons_of_ne_nil (intercalate_sep_ne_nil (hls l (by simp)).1 ls)
    have hlast : ('\n' :: [',', '\n'].intercalate (l :: ls)).getLast? ≠ some '\n' := by
      rw [hx, List.getLast?_cons_cons, ← hx]
      exact getLast?_intercalate (List.cons_ne_nil l ls) hls
    rw [← List.cons_append, indentLines_append k hlast,
      indentLines_newline_intercalate k (List.cons_ne_nil l ls)
        (fun m hm => hls m hm), indentLines_closing k n hc]
    rfl

end

theorem DumpValue.itemsOneLine_cons {key : String} {v : DumpValue}
    {rest : List (String × DumpValue)} (h : DumpValue.itemsOneLine ((key, v) :: rest) = true) :
    '\n' ∉ key.toList ∧ v.oneLine = true ∧ DumpValue.itemsOneLine rest = true := by
  simpa [DumpValue.itemsOneLine, and_assoc] using h

theorem DumpValue.elemsOneLine_cons {x : DumpValue} {rest : List DumpValue}
    (h : DumpValue.elemsOneLine (x :: rest) = true) :
    x.oneLine = true ∧ DumpValue.elemsOneLine rest = true := by
  simpa [DumpValue.elemsOneLine] using h

theorem item_lead (n : Nat) (key : String) :
    (spaces n ++ [' ', ' '] ++ key.toList ++ [':', ' ']).head? = some ' ' ∧
      (spaces n ++ [' ', ' '] ++ key.toList ++ [':', ' ']).getLast? = some ' ' :=
  ⟨by cases n <;> rfl, by rw [List.getLast?_append]; rfl⟩

theorem elem_lead (n : Nat) :
    (spaces n ++ [' ', ' ']).head? = some ' ' ∧ (spaces n ++ [' ', ' ']).getLast? = some ' ' :=
  ⟨by cases n <;> rfl, by rw [List.getLast?_append]; rfl⟩

theorem unbroken_dumpItems : ∀ {items : List (String × DumpValue)},
    DumpValue.itemsOneLine items = true → ∀ n, ∀ l ∈ dumpItems items n, Unbroken l
  | [], _, _, _, hl => by simp [dumpItems] at hl
  | (key, v) :: rest, h, n, l, hl => by
    obtain ⟨-, hv, hr⟩ := DumpValue.itemsOneLine_cons h
    rcases List.mem_cons.1 hl with rfl | hl
    · exact unbroken_of_lead (item_lead n key).1 (item_lead n key).2 (getLast?_dump hv _)
    · exact unbroken_dumpItems hr n l hl

theorem unbroken_dumpElems : ∀ {xs : List DumpValue},
    DumpValue.elemsOneLine xs = true → ∀ n, ∀ l ∈ dumpElems xs n, Unbroken l
  | [], _, _, _, hl => by simp [dumpElems] at hl
  | x :: rest, h, n, l, hl => by
    obtain ⟨hx, hr⟩ := DumpValue.elemsOneLine_cons h
    rcases List.mem_cons.1 hl with rfl | hl
    · exact unbroken_of_lead (elem_lead n).1 (elem_lead n).2 (getLast?_dump hx _)
    · exact unbroken_dumpElems hr n l hl

section
variable (k : Nat)

mutual
/-- **Dumping further in is dumping and moving the lines right.** -/
theorem dump_indentLines : ∀ {v : DumpValue}, v.oneLine = true → ∀ n,
    dump v (n + k) = indentLines k (dump v n)
  | .dict items, h, n => by
    rw [dump, dump, dumpItems_indentLines h n,
      indentLines_container k (by decide) (by decide) n (unbroken_dumpItems h n)]
  | .list xs, h, n => by
    rw [dump, dump, dumpElems_indentLines h n,
      indentLines_container k (by decide) (by decide) n (unbroken_dumpElems h n)]
  | .tuple xs, h, n => by
    rw [dump, dump, dumpElems_indentLines h n,
      indentLines_container k (by decide) (by decide) n (unbroken_dumpElems h n)]
  | .other r, h, _ => by
    have hr : '\n' ∉ r.toList := by simpa [DumpValue.oneLine] using h
    exact (indentLines_of_not_mem k hr).symm

theorem dumpItems_indentLines : ∀ {items : List (String × DumpValue)},
    DumpValue.itemsOneLine items = true → ∀ n,
    dumpItems items (n + k) = (dumpItems items n).map fun l => spaces k ++ indentLines k l
  | [], _, _ => rfl
  | (key, v) :: rest, h, n => by
    obtain ⟨hk, hv, hr⟩ := DumpValue.itemsOneLine_cons h
    have hpre : '\n' ∉ spaces n ++ [' ', ' '] ++ key.toList ++ [':', ' '] := by
      simp only [List.mem_append, not_or]
      exact ⟨⟨⟨not_mem_spaces n, by decide⟩, hk⟩, by decide⟩
    rw [dumpItems, dumpItems, List.map_cons, dumpItems_indentLines hr n, Nat.add_right_comm,
      dump_indentLines hv (n + 2), indentLines_append_of_not_mem k hpre, spaces_add]
    simp

theorem dumpElems_indentLines : ∀ {xs : List DumpValue},
    DumpValue.elemsOneLine xs = true → ∀ n,
    dumpElems xs (n + k) = (dumpElems xs n).map fun l => spaces k ++ indentLines k l
  | [], _, _ => rfl
  | x :: rest, h, n => by
    obtain ⟨hx, hr⟩ := DumpValue.elemsOneLine_cons h
    have hpre : '\n' ∉ spaces n ++ [' ', ' '] := by simp [not_mem_spaces]
    rw [dumpElems, dumpElems, List.map_cons, dumpElems_indentLines hr n, Nat.add_right_comm,
      dump_indentLines hx (n + 2), indentLines_append_of_not_mem k hpre, spaces_add]
    simp
end

end

/-! ## The layout -/

theorem head?_indentLines_newline (k : Nat) (rest : List Char) :
    (indentLines k ('\n' :: rest)).head? = some '\n' := by
  rw [indentLines]; split <;> rfl

/-- After a line break of moved text comes the end, an empty line, or the `k` spaces. -/
theorem indentLines_after_newline (k : Nat) :
    ∀ {x pre post : List Char}, indentLines k x = pre ++ '\n' :: post →
      post = [] ∨ post.head? = some '\n' ∨ spaces k <+: post
  | [], pre, post, h => by simp [indentLines] at h
  | c :: rest, pre, post, h => by
    rw [indentLines] at h
    split at h
    · next hc =>
      rcases pre with _ | ⟨p, pre⟩
      · obtain ⟨-, rfl⟩ := List.cons_eq_cons.1 h
        exact .inr (.inr (List.prefix_append _ _))
      · obtain ⟨-, h⟩ := List.cons_eq_cons.1 h
        rcases List.append_eq_append_iff.1 h.symm with ⟨a', hs, ha'⟩ | ⟨c', rfl, hrest⟩
        · rcases a' with _ | ⟨x, a'⟩
          · exact @indentLines_after_newline k _ [] _ (by simpa using ha'.symm)
          · obtain ⟨rfl, -⟩ := List.cons_eq_cons.1 ha'
            exact absurd (hs ▸ List.mem_append_right _ (List.mem_cons_self _ _)) (not_mem_spaces k)
        · exact indentLines_after_newline k hrest
    · next hc =>
      rcases pre with _ | ⟨p, pre⟩
      · obtain ⟨rfl, rfl⟩ := List.cons_eq_cons.1 h
        rcases rest with _ | ⟨d, rest⟩
        · exact .inl rfl
        · have hd : d = '\n' := by simpa using hc
          subst hd
          exact .inr (.inl (head?_indentLines_newline k rest))
      · exact indentLines_after_newline k (List.cons_eq_cons.1 h).2

/-- **The layout of `dump`.**  When no `repr` it prints has a line break, dumping `n + k` deep
is dumping `n` deep with every non-empty line after the first moved `k` spaces right; so every
line after the first is empty (inside an empty container) or starts with the `n` spaces of the
indentation. -/
theorem dump_layout {v : DumpValue} (h : v.oneLine = true) (n k : Nat) :
    dump v (n + k) = indentLines k (dump v n) ∧
      ∀ pre post, dump v n = pre ++ '\n' :: post → post.head? = some '\n' ∨ spaces n <+: post := by
  refine ⟨dump_indentLines k h n, fun pre post hd => ?_⟩
  have hd0 : dump v n = indentLines n (dump v 0) := by simpa using dump_indentLines n h 0
  rw [hd0] at hd
  rcases indentLines_after_newline n hd with rfl | h' | h'
  · have hlast := getLast?_dump h n
    rw [hd0, hd] at hlast
    simp at hlast
  · exact .inl h'
  · exact .inr h'

/-- A dict holding a list and an empty dict, dumped two and four deep. -/
theorem dump_layout_nested :
    let v : DumpValue := .dict [("'a'", .list [.other "1"]), ("'b'", .dict [])]
    v.oneLine = true ∧ (dump v (2 + 2) = indentLines 2 (dump v 2) ∧
      ∀ pre post, dump v 2 = pre ++ '\n' :: post → post.head? = some '\n' ∨ spaces 2 <+: post) := by
  intro v
  exact ⟨rfl, dump_layout (v := v) rfl 2 2⟩

end Tribler
