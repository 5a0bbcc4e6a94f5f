import Mathlib.Data.List.Infix
import Mathlib.Data.List.Sort

namespace ClawGuard.Js

/-- `String.prototype.length`: UTF-16 code units, two for a code point above U+FFFF. -/
def length (s : String) : Nat :=
  s.toList.foldr (fun c n => (if c.toNat > 0xFFFF then 2 else 1) + n) 0

/-- `s.startsWith(p)`. -/
def startsWith (s p : String) : Bool := p.toList.isPrefixOf s.toList

/-- `s.endsWith(p)`. -/
def endsWith (s p : String) : Bool := p.toList.isSuffixOf s.toList

/-- `s.includes(p)`. -/
def includes (s p : String) : Bool := decide (p.toList <:+: s.toList)

/-- A string is truthy iff it is not empty; `s || d` picks `d` on the empty string. -/
def orElse (s d : String) : String := if s = "" then d else s

/-- `toUpperCase` on ASCII letters; other code points are kept (the Unicode mapping is not
modelled). -/
def toUpperCase (s : String) : String := String.mk (s.toList.map Char.toUpper)

/-- The WhiteSpace and LineTerminator code points, which `trim` removes. -/
def isSpace (c : Char) : Bool :=
  [9, 10, 11, 12, 13, 32, 160, 5760, 8232, 8233, 8239, 8287, 12288, 65279].contains c.toNat ||
    (8192 ≤ c.toNat && c.toNat ≤ 8202)

/-- `s.trim()`. -/
def trim (s : String) : String :=
  String.mk ((s.toList.dropWhile isSpace).reverse.dropWhile isSpace).reverse

/-- `s.split(sep)[0]` for a one-character separator. -/
def splitFirst (s : String) (sep : Char) : String := String.mk (s.toList.takeWhile (· ≠ sep))

@[simp] theorem startsWith_iff (s p : String) : startsWith s p = true ↔ p.toList <+: s.toList := by
  simp [startsWith, List.isPrefixOf_iff_prefix]

@[simp] theorem endsWith_iff (s p : String) : endsWith s p = true ↔ p.toList <:+ s.toList := by
  simp [endsWith, List.isSuffixOf_iff_suffix]

theorem orElse_of_ne {s : String} (d : String) (h : s ≠ "") : orElse s d = s := if_neg h

/-- `s.split(sep)` for a one-character separator. -/
def split (s : String) (sep : Char) : List String := (s.toList.splitOn sep).map String.mk

theorem splitOn_append_cons {α : Type} [DecidableEq α] (x : α) (a b : List α) :
    (a ++ x :: b).splitOn x = a.splitOn x ++ b.splitOn x := by
  induction a with
  | nil => simp [List.splitOn]
  | cons y a ih =>
    simp only [List.splitOn] at ih ⊢
    obtain ⟨c, cs, hc⟩ := List.exists_cons_of_ne_nil (List.splitOnP_ne_nil (· == x) a)
    rw [List.cons_append, List.splitOnP_cons, List.splitOnP_cons, ih, hc]
    split <;> rfl

theorem intercalate_cons_cons {α : Type} (x : α) (a b : List α) (l : List (List α)) :
    [x].intercalate (a :: b :: l) = a ++ x :: [x].intercalate (b :: l) := by
  simp [List.intercalate, List.intersperse_cons_cons]

theorem intercalate_append {α : Type} (x : α) {A B : List (List α)} (hA : A ≠ []) (hB : B ≠ []) :
    [x].intercalate (A ++ B) = [x].intercalate A ++ x :: [x].intercalate B := by
  induction A with
  | nil => exact absurd rfl hA
  | cons a A ih =>
    obtain ⟨b, B', rfl⟩ := List.exists_cons_of_ne_nil hB
    cases A with
    | nil => rw [List.singleton_append, intercalate_cons_cons]; simp [List.intercalate]
    | cons a' A =>
      calc [x].intercalate (a :: a' :: (A ++ b :: B'))
          = a ++ x :: [x].intercalate ((a' :: A) ++ b :: B') := intercalate_cons_cons x a a' _
        _ = _ := by rw [ih (List.cons_ne_nil _ _), intercalate_cons_cons]; simp

/-- The pieces of `e` end the pieces of `l` exactly when `l` is `e` or ends with a separator
followed by `e`. -/
theorem splitOn_suffix_iff {α : Type} [DecidableEq α] (x : α) (e l : List α) :
    e.splitOn x <:+ l.splitOn x ↔ l = e ∨ (x :: e) <:+ l := by
  constructor
  · rintro ⟨A, hA⟩
    have hl := (List.intercalate_splitOn l x).symm
    rw [← hA] at hl
    rcases A with _ | ⟨a, A'⟩
    · left; rwa [List.nil_append, List.intercalate_splitOn] at hl
    · right
      rw [@intercalate_append _ x _ (e.splitOn x) (List.cons_ne_nil _ _) (List.splitOnP_ne_nil _ _),
        List.intercalate_splitOn] at hl
      exact ⟨_, hl.symm⟩
  · rintro (rfl | ⟨p, rfl⟩)
    · exact List.suffix_refl _
    · rw [splitOn_append_cons]
      exact List.suffix_append _ _

theorem split_suffix_iff (e l : String) (sep : Char) :
    split e sep <:+ split l sep ↔ l = e ∨ (sep :: e.toList) <:+ l.toList := by
  have hinj : Function.Injective (List.map String.mk) :=
    List.map_injective_iff.mpr fun _ _ h => congrArg String.data h
  have key := splitOn_suffix_iff sep e.toList l.toList
  rw [split, split, List.isSuffix_map_iff]
  constructor
  · rintro ⟨A, hA, h⟩
    rw [← hinj h] at hA
    exact (key.mp hA).imp_left fun h => congrArg String.mk h
  · rintro (rfl | h)
    · exact ⟨_, List.suffix_refl _, rfl⟩
    · exact ⟨_, key.mpr (.inr h), rfl⟩

theorem split_of_not_mem {s : String} {sep : Char} (h : sep ∉ s.toList) : split s sep = [s] := by
  rw [split, List.splitOn, List.splitOnP_eq_single _ _ fun c hc e => h ((beq_iff_eq.mp e : c = sep) ▸ hc)]
  rfl

theorem split_append_sep (a b : String) (sep : Char) :
    split (a ++ String.mk [sep] ++ b) sep = split a sep ++ split b sep := by
  simp only [split, String.toList, String.data_append, List.append_assoc, List.singleton_append,
    splitOn_append_cons, List.map_append]

theorem mem_intersperse {α : Type} {sep x : α} {l : List α} (h : x ∈ l.intersperse sep) :
    x = sep ∨ x ∈ l := by
  induction l with
  | nil => cases h
  | cons a rest ih =>
    cases rest with
    | nil => exact .inr h
    | cons b rest' =>
      rw [List.intersperse_cons₂] at h
      rcases List.mem_cons.mp h with rfl | h
      · exact .inr (.head _)
      · rcases List.mem_cons.mp h with rfl | h
        · exact .inl rfl
        · exact (ih h).imp_right (.tail _)

/-- Every element of a list is the separator or an element of one of its pieces. -/
theorem mem_splitOn_of_mem {α : Type} [DecidableEq α] (x : α) {c : α} {l : List α} (hc : c ∈ l) :
    c = x ∨ ∃ p ∈ l.splitOn x, c ∈ p := by
  rw [← List.intercalate_splitOn l x, List.intercalate, List.mem_flatten] at hc
  obtain ⟨p, hp, hcp⟩ := hc
  rcases mem_intersperse hp with rfl | hp
  · exact .inl (List.mem_singleton.mp hcp)
  · exact .inr ⟨p, hp, hcp⟩

theorem mem_split_of_mem {s : String} (sep : Char) {c : Char} (hc : c ∈ s.toList) :
    c = sep ∨ ∃ p ∈ split s sep, c ∈ p.toList := by
  rcases mem_splitOn_of_mem sep hc with e | ⟨p, hp, hcp⟩
  · exact .inl e
  · exact .inr ⟨String.mk p, List.mem_map_of_mem _ hp, hcp⟩

/-- Own property names of `Object.prototype`: a lookup of one of these on a plain object that
lacks it finds a truthy inherited value without fields. -/
def objectPrototypeNames : List String :=
  ["constructor", "__defineGetter__", "__defineSetter__", "hasOwnProperty",
    "__lookupGetter__", "__lookupSetter__", "isPrototypeOf", "propertyIsEnumerable",
    "toString", "valueOf", "__proto__", "toLocaleString"]

/-- A property as a read of a record sees it: falsy (which reads like a missing one), truthy
without any field of the record (a string, an array, a method of `Object.prototype`), or an
object with the record's fields. -/
inductive Slot (α : Type)
  | falsy
  | plain
  | obj (v : α)
  deriving DecidableEq, Repr

/-- A plain object: own properties in insertion order, and the prototype that an assignment to
`__proto__` installed, as a record and with its own properties (`Object.prototype` stays behind
it). -/
structure Obj (α : Type) where
  own : List (String × α)
  proto : Option (α × List (String × Slot α)) := none
  deriving DecidableEq, Repr

/-- What `o[k]` finds: an own value, an inherited one (`none` when it has no field of the
record), or nothing truthy. -/
inductive Found (α : Type)
  | own (v : α)
  | inherited (v : Option α)
  | missing
  deriving DecidableEq, Repr

namespace Obj

variable {α : Type}

def empty : Obj α := ⟨[], none⟩

/-- `o[k]`: an own property, else the prototype itself for `__proto__`, else a property of the
installed prototype, else one of `Object.prototype`. -/
def get (o : Obj α) (k : String) : Found α :=
  match o.own.lookup k with
  | some v => .own v
  | none =>
    if k = "__proto__" then .inherited (o.proto.map Prod.fst)
    else match o.proto.bind fun p => p.2.lookup k with
      | some .falsy => .missing
      | some .plain => .inherited none
      | some (.obj v) => .inherited (some v)
      | none => if k ∈ objectPrototypeNames then .inherited none else .missing

/-- `!!o[k]`. -/
def truthy (o : Obj α) (k : String) : Bool :=
  match o.get k with
  | .missing => false
  | _ => true

/-- Own-property update that keeps the key's position, or appends a new key. -/
def upsert (k : String) (v : α) : List (String × α) → List (String × α)
  | [] => [(k, v)]
  | (k', v') :: rest => if k' = k then (k, v) :: rest else (k', v') :: upsert k v rest

/-- `o[k] = v`, where `props` are the own properties of `v`. Assigning `__proto__` installs `v`
as the prototype and adds no own property. -/
def set (o : Obj α) (k : String) (v : α) (props : List (String × Slot α)) : Obj α :=
  if k = "__proto__" then { o with proto := some (v, props) } else { o with own := upsert k v o.own }

/-- `delete o[k]`: removes an own property only. -/
def delete (o : Obj α) (k : String) : Obj α :=
  { o with own := o.own.filter (fun p => p.1 ≠ k) }

def decimalValue (l : List Char) : Nat := l.foldl (fun n c => 10 * n + (c.toNat - 48)) 0

/-- Canonical array index (digits, no leading zero, below 2^32 - 1): such keys come first in
`Object.entries`, in numeric order. -/
def isArrayIndex (k : String) : Bool :=
  k.toList ≠ [] && k.toList.all Char.isDigit && (k.toList.head? != some '0' || k.toList.length == 1) &&
    decimalValue k.toList < 4294967295

/-- `Object.entries(o)`: array-index keys ascending, then the other keys in insertion order. -/
def entries (o : Obj α) : List (String × α) :=
  (o.own.filter (fun p => isArrayIndex p.1)).insertionSort
      (fun a b => decimalValue a.1.toList ≤ decimalValue b.1.toList) ++
    o.own.filter (fun p => !isArrayIndex p.1)

theorem lookup_cons_ne {k k' : String} (v : α) (l : List (String × α)) (h : k ≠ k') :
    ((k', v) :: l).lookup k = l.lookup k := by
  simp [List.lookup_cons, beq_eq_false_iff_ne.mpr h]

theorem lookup_upsert_self (k : String) (v : α) (l : List (String × α)) :
    (upsert k v l).lookup k = some v := by
  induction l with
  | nil => simp [upsert, List.lookup_cons]
  | cons p rest ih =>
    obtain ⟨k', v'⟩ := p
    by_cases h : k' = k
    · simp [upsert, h, List.lookup_cons]
    · simp only [upsert, if_neg h, lookup_cons_ne _ _ (Ne.symm h), ih]

theorem lookup_upsert_ne {k j : String} (v : α) (l : List (String × α)) (h : j ≠ k) :
    (upsert k v l).lookup j = l.lookup j := by
  induction l with
  | nil => rw [upsert, lookup_cons_ne _ _ h]
  | cons p rest ih =>
    obtain ⟨k', v'⟩ := p
    by_cases hk : k' = k
    · subst hk; rw [upsert, if_pos rfl, lookup_cons_ne _ _ h, lookup_cons_ne _ _ h]
    · by_cases hj : j = k'
      · subst hj; simp [upsert, hk, List.lookup_cons]
      · simp only [upsert, if_neg hk, lookup_cons_ne _ _ hj, ih]

theorem lookup_filter_ne (l : List (String × α)) (k j : String) :
    (l.filter (fun p => p.1 ≠ k)).lookup j = if j = k then none else l.lookup j := by
  induction l with
  | nil => simp [List.lookup_cons]
  | cons p rest ih =>
    obtain ⟨k', v'⟩ := p
    by_cases hk : k' = k
    · subst hk
      rw [List.filter_cons_of_neg (by simp), ih]
      by_cases hj : j = k'
      · simp [hj]
      · simp [hj, lookup_cons_ne _ _ hj]
    · rw [List.filter_cons_of_pos (by simpa using hk)]
      by_cases hj : j = k'
      · subst hj; simp [List.lookup_cons, hk]
      · rw [lookup_cons_ne _ _ hj, lookup_cons_ne _ _ hj, ih]

@[simp] theorem set_own_get {o : Obj α} {k : String} (v : α) (ks : List (String × Slot α))
    (hk : k ≠ "__proto__") : ((o.set k v ks).own).lookup k = some v := by
  simp [set, hk, lookup_upsert_self]

theorem set_own_ne {o : Obj α} {k j : String} (v : α) (ks : List (String × Slot α)) (h : j ≠ k) :
    ((o.set k v ks).own).lookup j = o.own.lookup j := by
  unfold set; split
  · rfl
  · exact lookup_upsert_ne v o.own h

theorem delete_own (o : Obj α) (k j : String) :
    (o.delete k).own.lookup j = if j = k then none else o.own.lookup j :=
  lookup_filter_ne o.own k j

theorem get_eq_own {o : Obj α} {k : String} {v : α} (h : o.get k = .own v) : o.own.lookup k = some v := by
  unfold get at h
  split at h
  · cases h; assumption
  · split at h
    · cases h
    · split at h <;> (try split at h) <;> cases h

/-- A falsy entry is no own property, and its name is not `__proto__` (which is inherited). -/
theorem truthy_eq_false {o : Obj α} {k : String} (h : o.truthy k = false) :
    o.own.lookup k = none ∧ k ≠ "__proto__" := by
  unfold truthy get at h
  cases hl : o.own.lookup k with
  | some v => rw [hl] at h; cases h
  | none =>
    rw [hl] at h
    refine ⟨rfl, fun hk => ?_⟩
    subst hk
    simp at h

theorem set_own (o : Obj α) (k : String) (v : α) (ks : List (String × Slot α)) :
    (o.set k v ks).own = if k = "__proto__" then o.own else upsert k v o.own := by
  unfold set; split <;> rfl

/-- Only an assignment to `__proto__` changes the prototype. -/
theorem set_proto {o : Obj α} {k : String} (v : α) (ks : List (String × Slot α))
    (hk : k ≠ "__proto__") : (o.set k v ks).proto = o.proto := by
  simp [set, hk]

theorem lookup_eq_some_iff {l : List (String × α)} (h : (l.map Prod.fst).Nodup) {k : String}
    {v : α} : l.lookup k = some v ↔ (k, v) ∈ l := by
  induction l with
  | nil => simp [List.lookup_cons]
  | cons p rest ih =>
    obtain ⟨k', v'⟩ := p
    simp only [List.map_cons, List.nodup_cons] at h
    by_cases hk : k = k'
    · subst hk
      simp only [List.lookup_cons, beq_self_eq_true, Option.some.injEq, List.mem_cons, Prod.mk.injEq,
        true_and]
      exact ⟨fun hv => .inl hv.symm, fun hm => hm.elim Eq.symm
        fun he => absurd (List.mem_map_of_mem Prod.fst he) h.1⟩
    · rw [lookup_cons_ne _ _ hk, ih h.2, List.mem_cons]
      simp [hk]

/-- With distinct keys, a lookup does not depend on the order of the entries. -/
theorem lookup_perm {l₁ l₂ : List (String × α)} (p : l₁.Perm l₂) (h : (l₁.map Prod.fst).Nodup)
    (k : String) : l₁.lookup k = l₂.lookup k := by
  have h₂ : (l₂.map Prod.fst).Nodup := ((p.map Prod.fst).nodup_iff).mp h
  cases h1 : l₁.lookup k with
  | some v => exact ((lookup_eq_some_iff h₂).mpr (p.mem_iff.mp ((lookup_eq_some_iff h).mp h1))).symm
  | none =>
    cases h2 : l₂.lookup k with
    | none => rfl
    | some v =>
      rw [(lookup_eq_some_iff h).mpr (p.mem_iff.mpr ((lookup_eq_some_iff h₂).mp h2))] at h1
      cases h1

theorem entries_perm (o : Obj α) : o.entries.Perm o.own :=
  ((List.perm_insertionSort _ _).append_right _).trans (List.filter_append_perm _ _)

/-- `Object.entries` orders by key alone, so it commutes with a map over the values. -/
theorem entries_map {β : Type} (f : α → β) (l : List (String × α)) :
    entries ⟨l.map (fun p => (p.1, f p.2)), none⟩ = (entries ⟨l, none⟩).map fun p => (p.1, f p.2) := by
  simp only [entries, List.map_append, List.filter_map, Function.comp_def]
  exact congrArg (· ++ _) (List.map_insertionSort _ _ _ _ (by intros; rfl)).symm

theorem lookup_filter_key {p : String → Bool} {k : String} (hk : p k = true) :
    ∀ l : List (String × α), (l.filter fun e => p e.1).lookup k = l.lookup k
  | [] => rfl
  | (k', v) :: rest => by
    by_cases hkk : k = k'
    · subst hkk; simp [List.filter_cons, hk, List.lookup_cons]
    · have := lookup_filter_key hk rest
      by_cases hp : p k' <;> simp [List.filter_cons, hp, lookup_cons_ne _ _ hkk, this]

/-- `Object.entries` lists a key that is no array index where the object has it. -/
theorem entries_lookup {k : String} (hk : isArrayIndex k = false)
    (l : List (String × α)) : (entries ⟨l, none⟩).lookup k = l.lookup k := by
  have hnone : ((l.filter fun p => isArrayIndex p.1).insertionSort
      (fun a b => decimalValue a.1.toList ≤ decimalValue b.1.toList)).lookup k = none :=
    List.lookup_eq_none_iff.mpr fun p hp => bne_iff_ne.mpr fun h => by
      have := (List.mem_filter.mp ((List.perm_insertionSort _ _).mem_iff.mp hp)).2
      rw [← h, hk] at this; cases this
  rw [entries, List.lookup_append, hnone, Option.none_or]
  exact @lookup_filter_key _ (fun s => !isArrayIndex s) k (by simp [hk]) l

end Obj

/-- A JS `Map` with string keys: entries in insertion order, each key once. -/
structure Map (α : Type) where
  entries : List (String × α)
  nodup : (entries.map Prod.fst).Nodup

namespace Map

variable {α : Type}

theorem keys_upsert (k : String) (v : α) (l : List (String × α)) :
    (Obj.upsert k v l).map Prod.fst =
      if k ∈ l.map Prod.fst then l.map Prod.fst else l.map Prod.fst ++ [k] := by
  induction l with
  | nil => simp [Obj.upsert]
  | cons p rest ih =>
    obtain ⟨k', v'⟩ := p
    by_cases h : k' = k
    · simp [Obj.upsert, h]
    · simp only [Obj.upsert, if_neg h, List.map_cons, ih, List.mem_cons, Ne.symm h, false_or]
      split <;> rfl

theorem lookup_eq_none {k : String} {l : List (String × α)} (h : k ∉ l.map Prod.fst) :
    l.lookup k = none := by
  induction l with
  | nil => rfl
  | cons p rest ih =>
    obtain ⟨k', v'⟩ := p
    simp only [List.map_cons, List.mem_cons, not_or] at h
    rw [Obj.lookup_cons_ne _ _ h.1, ih h.2]

theorem lookup_filter {l : List (String × α)} (hl : (l.map Prod.fst).Nodup)
    (p : String → α → Bool) (k : String) :
    (l.filter fun e => p e.1 e.2).lookup k = (l.lookup k).filter (p k) := by
  induction l with
  | nil => rfl
  | cons e rest ih =>
    obtain ⟨k', v'⟩ := e
    simp only [List.map_cons, List.nodup_cons] at hl
    have ih := ih hl.2
    by_cases hk : k = k'
    · subst hk
      rw [lookup_eq_none hl.1, Option.filter_none] at ih
      by_cases hp : p k v' <;> simp [List.filter_cons, hp, List.lookup_cons, ih, Option.filter]
    · rw [List.filter_cons, Obj.lookup_cons_ne _ _ hk]
      split
      · rw [Obj.lookup_cons_ne _ _ hk, ih]
      · exact ih

def empty : Map α := ⟨[], List.nodup_nil⟩

/-- `m.get(k)`. -/
def get (m : Map α) (k : String) : Option α := m.entries.lookup k

/-- `m.set(k, v)`: an existing key keeps its position. -/
def set (m : Map α) (k : String) (v : α) : Map α :=
  ⟨Obj.upsert k v m.entries, by
    rw [keys_upsert]
    split
    · exact m.nodup
    · exact m.nodup.append (List.nodup_singleton k) (List.disjoint_singleton.mpr ‹_›)⟩

/-- The entries that `p` keeps: a `for … of` loop that deletes the others. -/
def filter (m : Map α) (p : String → α → Bool) : Map α :=
  ⟨m.entries.filter fun e => p e.1 e.2, m.nodup.sublist ((List.filter_sublist _).map _)⟩

/-- `m.delete(k)`. -/
def delete (m : Map α) (k : String) : Map α := m.filter fun k' _ => k' ≠ k

def keys (m : Map α) : List String := m.entries.map Prod.fst

@[simp] theorem get_empty (k : String) : (empty : Map α).get k = none := rfl

@[simp] theorem get_set_self (m : Map α) (k : String) (v : α) : (m.set k v).get k = some v :=
  Obj.lookup_upsert_self k v m.entries

theorem get_set_ne (m : Map α) {k j : String} (v : α) (h : j ≠ k) : (m.set k v).get j = m.get j :=
  Obj.lookup_upsert_ne v m.entries h

@[simp] theorem get_filter (m : Map α) (p : String → α → Bool) (k : String) :
    (m.filter p).get k = (m.get k).filter (p k) :=
  lookup_filter m.nodup p k

theorem get_of_get_filter {m : Map α} {p : String → α → Bool} {k : String} {v : α}
    (h : (m.filter p).get k = some v) : m.get k = some v := by
  rw [get_filter] at h
  cases hm : m.get k with
  | none => rw [hm] at h; cases h
  | some w => rw [hm, Option.filter_some] at h; split at h <;> cases h; rfl

@[simp] theorem get_delete (m : Map α) (k j : String) :
    (m.delete k).get j = if j = k then none else m.get j := by
  simp only [delete, get_filter]
  cases m.get j <;> by_cases h : j = k <;> simp [h]

end Map

end ClawGuard.Js
