import Mathlib

/-!
# Insertion-ordered finite maps

A `Dict κ α` is a finite map that remembers the order in which its keys were
first stored: overwriting a key keeps its place, storing a new key appends it.
Every key occurs once, and that is a field of the structure, so a map with a
duplicated key cannot be built.

Two maps are compared by what they answer, not by the order of their entries:
`Dict.Same d e` says that every lookup agrees.  The sum of an additive quantity
over the entries (`Dict.sumBy`) is governed by two equations, one for storing a
key and one for removing it; both are stated through the old value of the key,
so a proof about a total never has to look at the entry list.
-/

namespace ChronosHFT

open List

universe u v

/-- A finite map whose entries are kept in insertion order, each key once. -/
structure Dict (κ : Type u) (α : Type v) where
  items : List (κ × α)
  nodup : (items.map Prod.fst).Nodup

namespace Dict

variable {κ : Type u} {α : Type v}

/-- The map without entries. -/
def empty : Dict κ α := ⟨[], nodup_nil⟩

instance : EmptyCollection (Dict κ α) := ⟨empty⟩

instance [DecidableEq κ] [DecidableEq α] : DecidableEq (Dict κ α) := fun d e =>
  decidable_of_iff (d.items = e.items) (by cases d; cases e; simp)

/-- The keys, oldest first. -/
def keys (d : Dict κ α) : List κ := d.items.map Prod.fst

/-- The values, in the order of their keys. -/
def values (d : Dict κ α) : List α := d.items.map Prod.snd

/-- No entry at all. -/
def isEmpty (d : Dict κ α) : Bool := d.items.isEmpty

@[simp] theorem items_empty : (∅ : Dict κ α).items = [] := rfl

@[simp] theorem keys_empty : (∅ : Dict κ α).keys = [] := rfl

@[simp] theorem values_empty : (∅ : Dict κ α).values = [] := rfl

theorem keys_nodup (d : Dict κ α) : d.keys.Nodup := d.nodup

theorem isEmpty_iff {d : Dict κ α} : d.isEmpty = true ↔ d = ∅ := by
  cases d with
  | mk items nodup =>
    cases items with
    | nil => exact ⟨fun _ => rfl, fun _ => rfl⟩
    | cons p rest =>
      constructor
      · intro h
        cases h
      · intro h
        cases congrArg items h

section Lookup

variable [DecidableEq κ]

/-- The first value stored under `k` in an entry list. -/
def lookupIn (k : κ) : List (κ × α) → Option α
  | [] => none
  | p :: rest => if p.1 = k then some p.2 else lookupIn k rest

/-- Look a key up. -/
def get? (d : Dict κ α) (k : κ) : Option α := lookupIn k d.items

/-- Look a key up, with an answer for a missing key. -/
def getD (d : Dict κ α) (k : κ) (fallback : α) : α := (d.get? k).getD fallback

/-- Is the key present? -/
def contains (d : Dict κ α) (k : κ) : Bool := (d.get? k).isSome

/-- Overwrite in place, or append a new entry at the end. -/
def setIn (k : κ) (a : α) : List (κ × α) → List (κ × α)
  | [] => [(k, a)]
  | p :: rest => if p.1 = k then (k, a) :: rest else p :: setIn k a rest

theorem mem_keys_setIn (k : κ) (a : α) (l : List (κ × α)) (k' : κ) :
    k' ∈ (setIn k a l).map Prod.fst ↔ k' = k ∨ k' ∈ l.map Prod.fst := by
  induction l with
  | nil => simp [setIn]
  | cons p rest ih =>
    by_cases hp : p.1 = k
    · rw [setIn, if_pos hp]
      simp only [map_cons, mem_cons, hp]
      tauto
    · rw [setIn, if_neg hp]
      simp only [map_cons, mem_cons, ih]
      tauto

variable {entries l : List (κ × α)} {d e : Dict κ α} {k k' : κ} {a : α}

theorem nodup_setIn (k : κ) (a : α)
    (h : (l.map Prod.fst).Nodup) : ((setIn k a l).map Prod.fst).Nodup := by
  induction l with
  | nil => simp [setIn]
  | cons p rest ih =>
    simp only [map_cons, nodup_cons] at h
    by_cases hp : p.1 = k
    · simp only [setIn, if_pos hp, map_cons, nodup_cons]
      exact ⟨hp ▸ h.1, h.2⟩
    simp only [setIn, if_neg hp, map_cons, nodup_cons]
    refine ⟨?_, ih h.2⟩
    intro hmem
    rcases (mem_keys_setIn k a rest p.1).mp hmem with heq | hrest
    · exact hp heq
    · exact h.1 hrest

/-- Store `a` under `k`. -/
def set (d : Dict κ α) (k : κ) (a : α) : Dict κ α :=
  ⟨setIn k a d.items, nodup_setIn k a d.nodup⟩

/-- Drop the entry of `k`, if there is one. -/
def erase (d : Dict κ α) (k : κ) : Dict κ α :=
  ⟨d.items.filter (fun p => decide (p.1 ≠ k)),
    d.nodup.sublist ((filter_sublist).map Prod.fst)⟩

/-- Store a list of entries, in order. -/
def setAll (d : Dict κ α) (entries : List (κ × α)) : Dict κ α :=
  entries.foldl (fun acc p => acc.set p.1 p.2) d

/-- The map holding the listed entries, later ones winning. -/
def ofList (entries : List (κ × α)) : Dict κ α := setAll ∅ entries

/-- Every value changed in its place. -/
def mapValues {β : Type*} (d : Dict κ α) (f : α → β) : Dict κ β :=
  ⟨d.items.map fun p => (p.1, f p.2), by
    rw [map_map]
    exact d.nodup⟩

/-- Two maps answer every lookup alike. -/
def Same (d e : Dict κ α) : Prop := ∀ k, d.get? k = e.get? k

/-! ## Lookups -/

theorem lookupIn_setIn (k : κ) (a : α) (l : List (κ × α)) (k' : κ) :
    lookupIn k' (setIn k a l) = if k' = k then some a else lookupIn k' l := by
  induction l with
  | nil =>
    by_cases h : k' = k
    · simp [setIn, lookupIn, h]
    · simp [setIn, lookupIn, h, Ne.symm h]
  | cons p rest ih =>
    by_cases hp : p.1 = k
    · by_cases h : k' = k
      · simp [setIn, lookupIn, hp, h]
      · simp [setIn, lookupIn, hp, h, Ne.symm h]
    · simp only [setIn, if_neg hp, lookupIn, ih]
      by_cases h : k' = k
      · subst h
        simp [hp]
      · simp [h]

theorem setIn_setIn (k : κ) (a b : α) (l : List (κ × α)) :
    setIn k b (setIn k a l) = setIn k b l := by
  induction l with
  | nil => simp [setIn]
  | cons p rest ih =>
    by_cases hp : p.1 = k
    · simp [setIn, hp]
    · simp only [setIn, if_neg hp, ih]

omit [DecidableEq κ] in
@[ext] theorem ext_items (h : d.items = e.items) : d = e := by
  cases d
  cases e
  simpa using h

/-- A second store under the same key wins. -/
@[simp] theorem set_set (d : Dict κ α) (k : κ) (a b : α) : (d.set k a).set k b = d.set k b :=
  ext_items (setIn_setIn k a b d.items)

@[simp] theorem get?_empty (k : κ) : (∅ : Dict κ α).get? k = none := rfl

@[simp] theorem getD_empty (k : κ) (a : α) : (∅ : Dict κ α).getD k a = a := rfl

@[grind =] theorem get?_set (d : Dict κ α) (k : κ) (a : α) (k' : κ) :
    (d.set k a).get? k' = if k' = k then some a else d.get? k' :=
  lookupIn_setIn k a d.items k'

@[simp] theorem get?_set_self (d : Dict κ α) (k : κ) (a : α) :
    (d.set k a).get? k = some a := by
  rw [get?_set, if_pos rfl]

theorem get?_set_of_ne (d : Dict κ α) (a : α) (h : k' ≠ k) :
    (d.set k a).get? k' = d.get? k' := by
  rw [get?_set, if_neg h]

theorem getD_set (d : Dict κ α) (k : κ) (a : α) (k' : κ) (b : α) :
    (d.set k a).getD k' b = if k' = k then a else d.getD k' b := by
  unfold getD
  rw [get?_set]
  by_cases h : k' = k <;> simp [h]

@[simp] theorem getD_set_self (d : Dict κ α) (k : κ) (a b : α) :
    (d.set k a).getD k b = a := by
  rw [getD_set, if_pos rfl]

theorem getD_set_of_ne (d : Dict κ α) (a b : α) (h : k' ≠ k) :
    (d.set k a).getD k' b = d.getD k' b := by
  rw [getD_set, if_neg h]

theorem lookupIn_map {β : Type*} (f : α → β) (k : κ) (l : List (κ × α)) :
    lookupIn k (l.map fun p => (p.1, f p.2)) = (lookupIn k l).map f := by
  induction l with
  | nil => rfl
  | cons p rest ih =>
    by_cases hp : p.1 = k
    · simp only [map_cons, lookupIn, if_pos hp, Option.map_some]
    · simp only [map_cons, lookupIn, if_neg hp, ih]

@[simp] theorem get?_mapValues {β : Type*} (d : Dict κ α) (f : α → β) (k : κ) :
    (d.mapValues f).get? k = (d.get? k).map f :=
  lookupIn_map f k d.items

theorem lookupIn_filter_ne (k : κ) (l : List (κ × α)) (k' : κ) :
    lookupIn k' (l.filter (fun p => decide (p.1 ≠ k))) =
      if k' = k then none else lookupIn k' l := by
  induction l with
  | nil => simp [lookupIn]
  | cons p rest ih =>
    by_cases hp : p.1 = k
    · rw [filter_cons_of_neg (by simp [hp]), ih]
      by_cases h : k' = k
      · simp [h]
      · simp [lookupIn, hp, h, Ne.symm h]
    · rw [filter_cons_of_pos (by simp [hp])]
      simp only [lookupIn, ih]
      by_cases h : k' = k
      · subst h
        simp [hp]
      · simp [h]

@[grind =] theorem get?_erase (d : Dict κ α) (k k' : κ) :
    (d.erase k).get? k' = if k' = k then none else d.get? k' :=
  lookupIn_filter_ne k d.items k'

@[simp] theorem get?_erase_self (d : Dict κ α) (k : κ) :
    (d.erase k).get? k = none := by
  rw [get?_erase, if_pos rfl]

theorem get?_erase_of_ne (d : Dict κ α) (h : k' ≠ k) : (d.erase k).get? k' = d.get? k' := by
  rw [get?_erase, if_neg h]

/-- What is left after a key was dropped is of another key. -/
theorem get?_of_erase (h : (d.erase k).get? k' = some a) : k' ≠ k ∧ d.get? k' = some a := by
  rw [get?_erase] at h
  split at h
  · cases h
  · next hne => exact ⟨hne, h⟩

theorem lookupIn_eq_some_iff (h : (l.map Prod.fst).Nodup) : lookupIn k l = some a ↔
    (k, a) ∈ l := by
  induction l with
  | nil => simp [lookupIn]
  | cons p rest ih =>
    simp only [map_cons, nodup_cons] at h
    by_cases hp : p.1 = k
    · simp only [lookupIn, if_pos hp, Option.some.injEq, mem_cons]
      constructor
      · rintro rfl
        exact Or.inl (by rw [← hp])
      · rintro (heq | hmem)
        · rw [← heq]
        · exact absurd (mem_map_of_mem (f := Prod.fst) hmem) (hp ▸ h.1)
    · simp only [lookupIn, if_neg hp, ih h.2, mem_cons]
      constructor
      · exact Or.inr
      · rintro (heq | hmem)
        · exact absurd (by rw [← heq]) hp
        · exact hmem

/-- A key answers `a` exactly when the entry `(k, a)` is listed. -/
theorem get?_eq_some_iff : d.get? k = some a ↔ (k, a) ∈ d.items :=
  lookupIn_eq_some_iff d.nodup

/-- An entry of an updated map is the new one or an old one. -/
theorem mem_items_set {entry : κ × α}
    (h : entry ∈ (d.set k a).items) : entry = (k, a) ∨ entry ∈ d.items := by
  obtain ⟨k', a'⟩ := entry
  have hget := get?_eq_some_iff.mpr h
  by_cases heq : k' = k
  · rw [heq, get?_set_self] at hget
    cases hget
    exact Or.inl (by rw [heq])
  · rw [get?_set_of_ne d a heq] at hget
    exact Or.inr (get?_eq_some_iff.mp hget)

theorem get?_eq_none_iff : d.get? k = none ↔ k ∉ d.keys := by
  constructor
  · intro h hmem
    obtain ⟨⟨k', a⟩, hp, rfl⟩ := mem_map.mp hmem
    rw [get?_eq_some_iff.mpr hp] at h
    cases h
  · intro h
    cases hget : d.get? k with
    | none => rfl
    | some a =>
      exact absurd (mem_map_of_mem (f := Prod.fst) (get?_eq_some_iff.mp hget)) h

theorem mem_keys_iff : k ∈ d.keys ↔ ∃ a, d.get? k = some a := by
  constructor
  · intro h
    cases hget : d.get? k with
    | none => exact absurd h (get?_eq_none_iff.mp hget)
    | some a => exact ⟨a, rfl⟩
  · rintro ⟨a, h⟩
    by_contra hmem
    rw [get?_eq_none_iff.mpr hmem] at h
    cases h

theorem mem_values_iff : a ∈ d.values ↔ ∃ k, d.get? k = some a := by
  constructor
  · intro h
    obtain ⟨⟨k, b⟩, hp, rfl⟩ := mem_map.mp h
    exact ⟨k, get?_eq_some_iff.mpr hp⟩
  · rintro ⟨k, h⟩
    exact mem_map_of_mem (f := Prod.snd) (get?_eq_some_iff.mp h)

@[simp] theorem mem_keys_set : k' ∈ (d.set k a).keys ↔ k' = k ∨ k' ∈ d.keys :=
  mem_keys_setIn k a d.items k'

/-- A map that answers no lookup has no entry. -/
theorem eq_empty_iff : d = ∅ ↔ ∀ k, d.get? k = none := by
  constructor
  · rintro rfl k
    rfl
  intro h
  rw [← isEmpty_iff]
  cases hd : d.items with
  | nil => simp [isEmpty, hd]
  | cons p rest =>
    have hmem : (p.1, p.2) ∈ d.items := by rw [hd]; exact mem_cons_self
    rw [← get?_eq_some_iff, h] at hmem
    cases hmem

namespace Same

variable {d e f : Dict κ α}

@[refl] protected theorem refl (d : Dict κ α) : Same d d := fun _ => rfl

end Same

/-! ## Order of the entries -/

theorem setIn_of_not_mem (a : α) (h : k ∉ l.map Prod.fst) : setIn k a l = l ++ [(k, a)] := by
  induction l with
  | nil => rfl
  | cons p rest ih =>
    rw [map_cons, mem_cons, not_or] at h
    simp only [setIn, if_neg (Ne.symm h.1), ih h.2, cons_append]

/-- New entries are appended in the order in which they are stored. -/
theorem items_setAll :
    ∀ {d : Dict κ α}, (entries.map Prod.fst).Nodup → (∀ k ∈ entries.map Prod.fst, k ∉ d.keys) →
      (d.setAll entries).items = d.items ++ entries := by
  induction entries with
  | nil =>
    intro d _ _
    exact (append_nil _).symm
  | cons p rest ih =>
    intro d hnodup hfresh
    rw [map_cons, nodup_cons] at hnodup
    have hset : (d.set p.1 p.2).items = d.items ++ [p] :=
      setIn_of_not_mem p.2 (hfresh p.1 mem_cons_self)
    show ((d.set p.1 p.2).setAll rest).items = _
    rw [ih hnodup.2 ?_, hset, append_assoc, singleton_append]
    intro k hk hmem
    rw [mem_keys_set] at hmem
    rcases hmem with rfl | hmem
    · exact hnodup.1 hk
    · exact hfresh k (mem_cons_of_mem _ hk) hmem

theorem mem_keys_setAll :
    ∀ {d : Dict κ α}, k ∈ (d.setAll entries).keys ↔ k ∈ d.keys ∨ k ∈ entries.map Prod.fst := by
  induction entries with
  | nil => exact fun {d} => (or_iff_left not_mem_nil).symm
  | cons p rest ih =>
    intro d
    show k ∈ ((d.set p.1 p.2).setAll rest).keys ↔ _
    rw [ih, mem_keys_set, map_cons, mem_cons, or_comm (a := k = p.1), or_assoc]

/-- Storing entries leaves the other keys alone. -/
theorem get?_setAll_of_not_mem (h : k ∉ entries.map Prod.fst) :
    ∀ {d : Dict κ α}, (d.setAll entries).get? k = d.get? k := by
  induction entries with
  | nil => exact rfl
  | cons p rest ih =>
    intro d
    rw [map_cons, mem_cons, not_or] at h
    show ((d.set p.1 p.2).setAll rest).get? k = d.get? k
    rw [ih h.2, get?_set_of_ne d p.2 h.1]

/-- What is stored under distinct keys is found there. -/
theorem get?_setAll_of_mem (hnodup : (entries.map Prod.fst).Nodup) (h : (k, a) ∈ entries) :
    ∀ {d : Dict κ α}, (d.setAll entries).get? k = some a := by
  induction entries with
  | nil => cases h
  | cons p rest ih =>
    intro d
    rw [map_cons, nodup_cons] at hnodup
    show ((d.set p.1 p.2).setAll rest).get? k = some a
    rcases mem_cons.mp h with hhead | hrest
    · subst hhead
      rw [get?_setAll_of_not_mem hnodup.1, get?_set_self]
    · exact ih hnodup.2 hrest

theorem mem_keys_ofList : k ∈ (ofList entries).keys ↔ k ∈ entries.map Prod.fst :=
  mem_keys_setAll.trans (or_iff_right not_mem_nil)

/-- Entries with different keys are kept as they are listed. -/
theorem items_ofList (h : (entries.map Prod.fst).Nodup) : (ofList entries).items = entries :=
  (items_setAll h (fun _ _ hmem => by cases hmem)).trans (nil_append _)

@[simp] theorem ofList_items (d : Dict κ α) : ofList d.items = d :=
  ext_items (items_ofList d.nodup)

theorem get?_ofList_eq_some_iff (h : (entries.map Prod.fst).Nodup) :
    (ofList entries).get? k = some a ↔ (k, a) ∈ entries := by
  rw [get?_eq_some_iff, items_ofList h]

theorem keys_setIn (k : κ) (a : α) (l : List (κ × α)) :
    (setIn k a l).map Prod.fst =
      if k ∈ l.map Prod.fst then l.map Prod.fst else l.map Prod.fst ++ [k] := by
  induction l with
  | nil => rfl
  | cons p rest ih =>
    by_cases hp : p.1 = k
    · simp [setIn, hp]
    by_cases hmem : k ∈ rest.map Prod.fst
    · simp only [setIn, if_neg hp, map_cons, ih, mem_cons, hmem,
        or_true, if_true]
    have hnot : k ∉ p.1 :: rest.map Prod.fst := by
      rw [mem_cons, not_or]
      exact ⟨Ne.symm hp, hmem⟩
    simp only [setIn, if_neg hp, map_cons, ih, if_neg hmem, if_neg hnot,
      cons_append]

theorem keys_set (d : Dict κ α) (k : κ) (a : α) :
    (d.set k a).keys = if k ∈ d.keys then d.keys else d.keys ++ [k] :=
  keys_setIn k a d.items

theorem keys_erase (d : Dict κ α) (k : κ) :
    (d.erase k).keys = d.keys.filter (fun k' => decide (k' ≠ k)) := by
  unfold keys erase
  rw [filter_map]
  rfl

/-- Two maps with the same keys in the same order and the same answers are equal. -/
theorem ext_keys (hkeys : d.keys = e.keys) (hsame : Same d e) : d = e := by
  refine ext_items (ext_getElem ?_ ?_)
  · simpa [keys] using congrArg List.length hkeys
  intro i hd he
  have hfst : d.items[i].1 = e.items[i].1 := by
    have hi : d.keys[i]? = e.keys[i]? := by rw [hkeys]
    simpa [keys, hd, he] using hi
  have hdget : d.get? d.items[i].1 = some d.items[i].2 :=
    get?_eq_some_iff.mpr (getElem_mem hd)
  have heget : e.get? e.items[i].1 = some e.items[i].2 :=
    get?_eq_some_iff.mpr (getElem_mem he)
  rw [hsame, hfst, heget] at hdget
  exact Prod.ext hfst (Option.some.inj hdget).symm

@[simp] theorem erase_erase (d : Dict κ α) (k : κ) : (d.erase k).erase k = d.erase k :=
  ext_items (by simp [erase, filter_filter])

theorem erase_of_get?_none (h : d.get? k = none) : d.erase k = d := by
  refine ext_items (filter_eq_self.mpr ?_)
  intro p hp
  refine decide_eq_true fun heq => ?_
  rw [get?_eq_none_iff] at h
  exact h (heq ▸ mem_map_of_mem hp)

theorem get?_foldl_erase (keys : List κ) (d : Dict κ α) (k : κ) :
    (keys.foldl erase d).get? k = if k ∈ keys then none else d.get? k := by
  induction keys generalizing d with
  | nil => simp
  | cons key rest ih =>
    rw [foldl_cons, ih, get?_erase]
    by_cases hrest : k ∈ rest
    · simp [hrest]
    · by_cases hkey : k = key
      · simp [hkey]
      · simp [hkey, hrest]

theorem get?_of_foldl_erase {keys : List κ}
    (h : (keys.foldl erase d).get? k = some a) : k ∉ keys ∧ d.get? k = some a := by
  rw [get?_foldl_erase] at h
  split at h
  · cases h
  · next hkey => exact ⟨hkey, h⟩

/-- Erasing the same keys leaves the same keys, whatever is stored under them. -/
theorem keys_foldl_erase {β : Type*} (keys : List κ) {e : Dict κ β}
    (h : d.keys = e.keys) : (keys.foldl erase d).keys = (keys.foldl erase e).keys := by
  induction keys generalizing d e with
  | nil => exact h
  | cons key rest ih =>
    rw [foldl_cons, foldl_cons]
    apply ih
    rw [keys_erase, keys_erase, h]

/-! ## The values, in any order -/

theorem setIn_perm (k : κ) (a : α) (h : (l.map Prod.fst).Nodup) :
    (setIn k a l).Perm ((k, a) :: l.filter (fun p => decide (p.1 ≠ k))) := by
  induction l with
  | nil => exact List.Perm.refl _
  | cons p rest ih =>
    rw [map_cons, nodup_cons] at h
    by_cases hp : p.1 = k
    · have hrest : rest.filter (fun q => decide (q.1 ≠ k)) = rest := by
        refine filter_eq_self.mpr fun q hq => decide_eq_true fun heq => ?_
        exact h.1 (hp ▸ heq ▸ mem_map_of_mem hq)
      rw [setIn, if_pos hp, filter_cons_of_neg (by simp [hp]), hrest]
    · rw [setIn, if_neg hp, filter_cons_of_pos (by simp [hp])]
      exact ((ih h.2).cons p).trans (List.Perm.swap _ _ _)

/-- **Storing a key** puts its value in the place of the old one. -/
theorem values_set_perm (d : Dict κ α) (k : κ) (a : α) :
    (d.set k a).values.Perm (a :: (d.erase k).values) :=
  (setIn_perm k a d.nodup).map Prod.snd

theorem setIn_lookupIn (h : lookupIn k l = some a) : setIn k a l = l := by
  induction l with
  | nil => cases h
  | cons p rest ih =>
    by_cases hp : p.1 = k
    · rw [lookupIn, if_pos hp] at h
      cases h
      rw [setIn, if_pos hp, ← hp]
    · rw [lookupIn, if_neg hp] at h
      rw [setIn, if_neg hp, ih h]

/-- The values are those of the other keys, and the one of the key. -/
theorem values_perm_erase (h : d.get? k = some a) : d.values.Perm (a :: (d.erase k).values) := by
  have hset : d.set k a = d := ext_items (setIn_lookupIn h)
  have hperm := d.values_set_perm k a
  rwa [hset] at hperm

/-- A new key adds its value. -/
theorem values_set_perm_of_none (a : α) (h : d.get? k = none) :
    (d.set k a).values.Perm (a :: d.values) := by
  have hperm := d.values_set_perm k a
  rwa [erase_of_get?_none h] at hperm

/-! ## Totals -/

section Totals

variable {M : Type*} [AddCommGroup M]

/-- The sum of `f` over the entries. -/
def sumBy (d : Dict κ α) (f : κ → α → M) : M := (d.items.map fun p => f p.1 p.2).sum

/-- The contribution of one key to a total. -/
def contribution (d : Dict κ α) (f : κ → α → M) (k : κ) : M :=
  match d.get? k with
  | none => 0
  | some a => f k a

omit [DecidableEq κ] in
@[simp] theorem sumBy_empty (f : κ → α → M) : (∅ : Dict κ α).sumBy f = 0 := rfl

theorem sum_setIn (f : κ → α → M) (k : κ) (a : α) {l : List (κ × α)}
    (h : (l.map Prod.fst).Nodup) :
    ((setIn k a l).map fun p => f p.1 p.2).sum =
      (l.map fun p => f p.1 p.2).sum -
        (match lookupIn k l with | none => 0 | some b => f k b) + f k a := by
  induction l with
  | nil => simp [setIn, lookupIn]
  | cons p rest ih =>
    simp only [map_cons, nodup_cons] at h
    by_cases hp : p.1 = k
    · subst hp
      simp only [setIn, if_pos, lookupIn, map_cons, sum_cons]
      abel
    · rw [setIn, if_neg hp]
      simp only [lookupIn, if_neg hp, map_cons, sum_cons, ih h.2]
      abel

/-- **Storing a key** replaces its contribution by the new one. -/
theorem sumBy_set (d : Dict κ α) (f : κ → α → M) (k : κ) (a : α) :
    (d.set k a).sumBy f = d.sumBy f - d.contribution f k + f k a :=
  sum_setIn f k a d.nodup

theorem sum_filter_ne (f : κ → α → M) (k : κ) {l : List (κ × α)}
    (h : (l.map Prod.fst).Nodup) :
    ((l.filter (fun p => decide (p.1 ≠ k))).map fun p => f p.1 p.2).sum =
      (l.map fun p => f p.1 p.2).sum -
        (match lookupIn k l with | none => 0 | some b => f k b) := by
  induction l with
  | nil => simp [lookupIn]
  | cons p rest ih =>
    simp only [map_cons, nodup_cons] at h
    by_cases hp : p.1 = k
    · subst hp
      have habsent : lookupIn p.1 rest = none := by
        have := (get?_eq_none_iff (d := ⟨rest, h.2⟩) (k := p.1)).mpr h.1
        exact this
      rw [filter_cons_of_neg (by simp), ih h.2, habsent]
      simp [lookupIn]
    · rw [filter_cons_of_pos (by simp [hp])]
      simp only [lookupIn, if_neg hp, map_cons, sum_cons, ih h.2]
      abel

/-- **Removing a key** removes its contribution. -/
theorem sumBy_erase (d : Dict κ α) (f : κ → α → M) (k : κ) :
    (d.erase k).sumBy f = d.sumBy f - d.contribution f k :=
  sum_filter_ne f k d.nodup

/-- A total without one key, written as a total over all keys. -/
theorem sumBy_erase_eq_sumBy (d : Dict κ α) (f : κ → α → M) (k : κ) :
    (d.erase k).sumBy f = d.sumBy fun k' a => if k' = k then 0 else f k' a := by
  unfold sumBy erase
  simp only
  induction d.items with
  | nil => rfl
  | cons p rest ih =>
    by_cases hp : p.1 = k
    · rw [filter_cons_of_neg (by simp [hp]), ih, map_cons, sum_cons, if_pos hp,
        zero_add]
    · rw [filter_cons_of_pos (by simp [hp]), map_cons, sum_cons, ih,
        map_cons, sum_cons, if_neg hp]

end Totals

end Lookup

end Dict

end ChronosHFT
