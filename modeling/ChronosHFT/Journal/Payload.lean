import ChronosHFT.Lib.JsonLaws

/-!
# Payloads

What `oms/journal.py` makes of the values it is given.  `_normalize` replaces enumeration
members and times, turns tuples into lists and keys into texts; `json.dumps` then writes
the result with sorted keys, or refuses it.

The normal form is meant to consist of JSON values (`IsPlain`), and these are read back
as they were (`encode_of_plain`).  One branch does not recurse: an enumeration member
becomes its `value`, whatever that is.  A tuple inside it is written as a list, and the
numeric keys of a dict inside it are written as texts, in the order of the numbers.
-/

namespace ChronosHFT.Journal

/-- A key of a dict, with the two texts of it: what `str` and what `json.dumps` make
of it. -/
inductive PyKey where
  | str (text : String)
  /-- An `int`, `float` or `bool`. -/
  | number (value : ℚ) (text json : String)
  | none
  /-- Anything else: `json.dumps` refuses it. -/
  | other (text : String)
deriving DecidableEq

/-- A value in a payload.  A member of a `str` enumeration inside an enumeration is equal
to its text and counts as one. -/
inductive PyValue where
  | none
  | bool (value : Bool)
  | int (value : ℤ)
  /-- A finite `float`, by its `repr`. -/
  | float (value : FloatText)
  /-- A NaN or an infinity. -/
  | nonFinite
  | str (value : String)
  /-- A member of an enumeration. -/
  | enum (value : PyValue)
  /-- A `datetime`, by its `isoformat()`. -/
  | datetime (iso : String)
  | list (items : List PyValue)
  | tuple (items : List PyValue)
  | dict (entries : List (PyKey × PyValue))
  /-- Anything `json.dumps` has no text for. -/
  | object

namespace PyKey

/-- `str(key)`. -/
def text : PyKey → String
  | str text => text
  | number _ text _ => text
  | none => "None"
  | other text => text

/-- The key of a JSON object. -/
def jsonText? : PyKey → Option String
  | str text => some text
  | number _ _ json => some json
  | none => some "null"
  | other _ => Option.none

/-- `a < b` or `a == b`; comparing two kinds of keys raises. -/
def le? : PyKey → PyKey → Option Bool
  | str a, str b => some (a ≤ b)
  | number a _ _, number b _ _ => some (a ≤ b)
  | _, _ => Option.none

/-- Can the keys be sorted? -/
def sortable (keys : List PyKey) : Bool :=
  keys.length ≤ 1 || keys.all fun a => keys.all fun b => (le? a b).isSome

/-- The order of sorted items. -/
def entryLE {α : Type} (a b : PyKey × α) : Prop := le? a.1 b.1 = some true

instance {α : Type} : DecidableRel (@entryLE α) := fun a b =>
  inferInstanceAs (Decidable (le? a.1 b.1 = some true))

/-- The entries of a dict as `json.dumps` writes them: sorted by key, with the keys as
texts. -/
def jsonEntries? (entries : List (PyKey × Json)) : Option (List (String × Json)) :=
  if sortable (entries.map Prod.fst) then
    (entries.insertionSort entryLE).mapM fun entry =>
      entry.1.jsonText?.map fun text => (text, entry.2)
  else Option.none

end PyKey

namespace PyValue

mutual

/-- `_normalize`. -/
def normalize : PyValue → PyValue
  | .enum value => value
  | .datetime iso => .str iso
  | .dict entries => .dict (Dict.ofList (normalizeEntries entries)).items
  | .list items => .list (normalizeItems items)
  | .tuple items => .list (normalizeItems items)
  | .none => .none
  | .bool b => .bool b
  | .int n => .int n
  | .float x => .float x
  | .nonFinite => .nonFinite
  | .str s => .str s
  | .object => .object

def normalizeItems : List PyValue → List PyValue
  | [] => []
  | x :: rest => normalize x :: normalizeItems rest

/-- Keys become texts; the last of equal texts wins. -/
def normalizeEntries : List (PyKey × PyValue) → List (PyKey × PyValue)
  | [] => []
  | (key, x) :: rest => (.str key.text, normalize x) :: normalizeEntries rest

end

mutual

/-- `json.dumps` with sorted keys; `none` when it raises. -/
def encode : PyValue → Option Json
  | .none => some .null
  | .bool b => some (.bool b)
  | .int n => some (.int n)
  | .float x => some (.float x)
  | .str s => some (.str s)
  | .list items => (encodeItems items).map Json.arr
  | .tuple items => (encodeItems items).map Json.arr
  | .dict entries => ((encodeEntries entries).bind PyKey.jsonEntries?).map Json.obj
  | .nonFinite => Option.none
  | .enum _ => Option.none
  | .datetime _ => Option.none
  | .object => Option.none

def encodeItems : List PyValue → Option (List Json)
  | [] => some []
  | x :: rest => (encode x).bind fun j => (encodeItems rest).map fun more => j :: more

def encodeEntries : List (PyKey × PyValue) → Option (List (PyKey × Json))
  | [] => some []
  | (key, x) :: rest =>
    (encode x).bind fun j => (encodeEntries rest).map fun more => (key, j) :: more

end

mutual

/-- What `json.loads` makes of a value. -/
def ofJson : Json → PyValue
  | .null => .none
  | .bool b => .bool b
  | .int n => .int n
  | .float x => .float x
  | .str s => .str s
  | .arr items => .list (ofJsonItems items)
  | .obj entries => .dict (ofJsonEntries entries)

def ofJsonItems : List Json → List PyValue
  | [] => []
  | x :: rest => ofJson x :: ofJsonItems rest

def ofJsonEntries : List (String × Json) → List (PyKey × PyValue)
  | [] => []
  | (key, x) :: rest => (.str key, ofJson x) :: ofJsonEntries rest

end

mutual

/-- The JSON value a value is, when it is one. -/
def toJson? : PyValue → Option Json
  | .none => some .null
  | .bool b => some (.bool b)
  | .int n => some (.int n)
  | .float x => some (.float x)
  | .str s => some (.str s)
  | .list items => (toJsonItems? items).map Json.arr
  | .dict entries =>
    (toJsonEntries? entries).bind fun plain =>
      if (plain.map Prod.fst).Nodup then some (.obj plain) else Option.none
  | .nonFinite => Option.none
  | .tuple _ => Option.none
  | .enum _ => Option.none
  | .datetime _ => Option.none
  | .object => Option.none

def toJsonItems? : List PyValue → Option (List Json)
  | [] => some []
  | x :: rest => (toJson? x).bind fun j => (toJsonItems? rest).map fun more => j :: more

def toJsonEntries? : List (PyKey × PyValue) → Option (List (String × Json))
  | [] => some []
  | (.str key, x) :: rest =>
    (toJson? x).bind fun j => (toJsonEntries? rest).map fun more => (key, j) :: more
  | _ :: _ => Option.none

end

/-- A value that consists of JSON values. -/
def IsPlain (v : PyValue) : Prop := (toJson? v).isSome = true

instance (v : PyValue) : Decidable v.IsPlain := inferInstanceAs (Decidable (_ = true))

/-- A value read from a text is the value: the same up to the order of the keys in a
dict, which does not count. -/
def IsReadAs (v : PyValue) (j : Json) : Prop :=
  ∃ same : Json, v = ofJson same ∧ same.Distinct ∧ same.sortKeys = j.sortKeys

/-! ## Plain values -/

theorem ofJsonEntries_eq (entries : List (String × Json)) :
    ofJsonEntries entries = entries.map fun entry => (.str entry.1, ofJson entry.2) := by
  induction entries with
  | nil => rfl
  | cons entry rest ih => rw [ofJsonEntries, ih, List.map_cons]

mutual

/-- **A value is a JSON value exactly when it is what one is read as.** -/
theorem ofJson_of_toJson? : ∀ (v : PyValue) {j : Json}, toJson? v = some j →
    v = ofJson j ∧ j.Distinct
  | .none, j, h => by
      cases h
      exact ⟨rfl, trivial⟩
  | .bool b, j, h => by
      cases h
      exact ⟨rfl, trivial⟩
  | .int n, j, h => by
      cases h
      exact ⟨rfl, trivial⟩
  | .float x, j, h => by
      cases h
      exact ⟨rfl, trivial⟩
  | .str s, j, h => by
      cases h
      exact ⟨rfl, trivial⟩
  | .list items, j, h => by
      obtain ⟨plain, hplain, rfl⟩ := Option.map_eq_some_iff.mp h
      obtain ⟨heq, hdistinct⟩ := ofJsonItems_of_toJsonItems? items hplain
      exact ⟨by rw [heq]; rfl, hdistinct⟩
  | .dict entries, j, h => by
      obtain ⟨plain, hplain, hobj⟩ := Option.bind_eq_some_iff.mp h
      obtain ⟨heq, hdistinct⟩ := ofJsonEntries_of_toJsonEntries? entries hplain
      split at hobj
      · next hnodup =>
        cases hobj
        exact ⟨by rw [heq]; rfl, hnodup, hdistinct⟩
      · cases hobj
  | .nonFinite, j, h => by cases h
  | .tuple _, j, h => by cases h
  | .enum _, j, h => by cases h
  | .datetime _, j, h => by cases h
  | .object, j, h => by cases h

theorem ofJsonItems_of_toJsonItems? : ∀ (items : List PyValue) {plain : List Json},
    toJsonItems? items = some plain → items = ofJsonItems plain ∧ Json.DistinctItems plain
  | [], plain, h => by
      cases h
      exact ⟨rfl, trivial⟩
  | x :: rest, plain, h => by
      obtain ⟨j, hj, hmore⟩ := Option.bind_eq_some_iff.mp h
      obtain ⟨more, hrest, rfl⟩ := Option.map_eq_some_iff.mp hmore
      obtain ⟨hx, hdistinct⟩ := ofJson_of_toJson? x hj
      obtain ⟨hmore, hdistinct'⟩ := ofJsonItems_of_toJsonItems? rest hrest
      exact ⟨by rw [hx, hmore]; rfl, hdistinct, hdistinct'⟩

theorem ofJsonEntries_of_toJsonEntries? : ∀ (entries : List (PyKey × PyValue))
    {plain : List (String × Json)}, toJsonEntries? entries = some plain →
    entries = ofJsonEntries plain ∧ Json.DistinctEntries plain
  | [], plain, h => by
      cases h
      exact ⟨rfl, trivial⟩
  | (.str key, x) :: rest, plain, h => by
      obtain ⟨j, hj, hmore⟩ := Option.bind_eq_some_iff.mp h
      obtain ⟨more, hrest, rfl⟩ := Option.map_eq_some_iff.mp hmore
      obtain ⟨hx, hdistinct⟩ := ofJson_of_toJson? x hj
      obtain ⟨hmore, hdistinct'⟩ := ofJsonEntries_of_toJsonEntries? rest hrest
      exact ⟨by rw [hx, hmore]; rfl, hdistinct, hdistinct'⟩
  | (.number _ _ _, x) :: rest, plain, h => by cases h
  | (.none, x) :: rest, plain, h => by cases h
  | (.other _, x) :: rest, plain, h => by cases h

end

mutual

theorem toJson?_ofJson : ∀ (j : Json), j.Distinct → toJson? (ofJson j) = some j
  | .null, _ => rfl
  | .bool _, _ => rfl
  | .int _, _ => rfl
  | .float _, _ => rfl
  | .str _, _ => rfl
  | .arr items, h => by
      simp only [ofJson, toJson?, toJsonItems?_ofJson items h, Option.map_some]
  | .obj entries, h => by
      simp only [ofJson, toJson?, toJsonEntries?_ofJson entries h.2, Option.bind_some]
      rw [if_pos h.1]

theorem toJsonItems?_ofJson : ∀ (items : List Json), Json.DistinctItems items →
    toJsonItems? (ofJsonItems items) = some items
  | [], _ => rfl
  | x :: rest, h => by
      simp only [ofJsonItems, toJsonItems?, toJson?_ofJson x h.1, toJsonItems?_ofJson rest h.2,
        Option.bind_some, Option.map_some]

theorem toJsonEntries?_ofJson : ∀ (entries : List (String × Json)),
    Json.DistinctEntries entries →
    toJsonEntries? (ofJsonEntries entries) = some entries
  | [], _ => rfl
  | (key, x) :: rest, h => by
      simp only [ofJsonEntries, toJsonEntries?, toJson?_ofJson x h.1,
        toJsonEntries?_ofJson rest h.2,
        Option.bind_some, Option.map_some]

end

/-- Sorting texts as keys is sorting them as texts. -/
theorem jsonEntries?_str (entries : List (String × Json)) :
    PyKey.jsonEntries? (entries.map fun entry => (.str entry.1, entry.2)) =
      some (entries.insertionSort Json.keyLE) := by
  have hsortable : PyKey.sortable
      ((entries.map fun entry => ((PyKey.str entry.1, entry.2) : PyKey × Json)).map Prod.fst) =
        true := by
    unfold PyKey.sortable
    rw [Bool.or_eq_true]
    refine Or.inr (List.all_eq_true.mpr ?_)
    intro a ha
    refine List.all_eq_true.mpr ?_
    intro b hb
    rw [List.map_map] at ha hb
    obtain ⟨x, -, rfl⟩ := List.mem_map.mp ha
    obtain ⟨y, -, rfl⟩ := List.mem_map.mp hb
    rfl
  have hsorted : (entries.map fun entry =>
      ((PyKey.str entry.1, entry.2) : PyKey × Json)).insertionSort
        PyKey.entryLE =
      (entries.insertionSort Json.keyLE).map fun entry => (.str entry.1, entry.2) := by
    refine (List.map_insertionSort Json.keyLE PyKey.entryLE _ entries ?_).symm
    intro a _ b _
    show a.1 ≤ b.1 ↔ some (decide (a.1 ≤ b.1)) = some true
    simp
  unfold PyKey.jsonEntries?
  rw [if_pos hsortable, hsorted, List.mapM_map]
  have hpure : ((fun entry : PyKey × Json => entry.1.jsonText?.map fun text => (text, entry.2)) ∘
      fun entry : String × Json => (PyKey.str entry.1, entry.2)) = fun entry => some entry := rfl
  rw [hpure]
  simpa using @List.mapM_pure Option _ _ _ _ (entries.insertionSort Json.keyLE) id

mutual

/-- `json.dumps` on what `json.loads` returns. -/
theorem encode_ofJson : ∀ (j : Json), encode (ofJson j) = some j.sortKeys
  | .null => rfl
  | .bool _ => rfl
  | .int _ => rfl
  | .float _ => rfl
  | .str _ => rfl
  | .arr items => by
      simp only [ofJson, encode, encodeItems_ofJson items, Option.map_some]
      rfl
  | .obj entries => by
      simp only [ofJson, encode, encodeEntries_ofJson entries, Option.bind_some,
        jsonEntries?_str,
        Option.map_some]
      rfl

theorem encodeItems_ofJson : ∀ (items : List Json),
    encodeItems (ofJsonItems items) = some (Json.sortItems items)
  | [] => rfl
  | x :: rest => by
      simp only [ofJsonItems, encodeItems, encode_ofJson x, encodeItems_ofJson rest,
        Option.bind_some, Option.map_some]
      rfl

theorem encodeEntries_ofJson : ∀ (entries : List (String × Json)),
    encodeEntries (ofJsonEntries entries) =
      some ((Json.sortEntries entries).map fun entry => (.str entry.1, entry.2))
  | [] => rfl
  | (key, x) :: rest => by
      simp only [ofJsonEntries, encodeEntries, encode_ofJson x, encodeEntries_ofJson rest,
        Option.bind_some, Option.map_some]
      rfl

end

/-- A value is read as itself from some text exactly when it is plain. -/
theorem isPlain_iff {v : PyValue} : v.IsPlain ↔ ∃ j, v = ofJson j ∧ j.Distinct := by
  unfold IsPlain
  rw [Option.isSome_iff_exists]
  constructor
  · rintro ⟨j, h⟩
    exact ⟨j, ofJson_of_toJson? v h⟩
  · rintro ⟨j, rfl, h⟩
    exact ⟨j, toJson?_ofJson j h⟩

end PyValue

end ChronosHFT.Journal
