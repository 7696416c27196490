import ChronosHFT.Lib.Json

/-!
# Reading back what was written

**A printed value is read back as it is** (`loads_print`), provided no object repeats a
key: the reader takes the last of several equal keys, and a printed object has each key
once.  `dumps` prints the value with its keys in order, so its text is read back as that
value (`loads_dumps`); two values with one text are the same up to the order of keys
(`sortKeys_eq_of_dumps_eq`).

The proof follows the printer: characters, strings, numbers, and then values, arrays and
objects together.  A number ends where the text goes on with another kind of character,
which is why `Ends` accompanies every statement about what follows a value.
-/

namespace ChronosHFT

open List

namespace Json

/-! ## A printed string is read back -/

theorem hexValue?_hexDigit (n : ℕ) : hexValue? (hexDigit n) = some (n % 16) := by
  have hall : ∀ m < 16, hexValue? (Nat.digitChar m) = some m := by decide
  exact hall (n % 16) (Nat.mod_lt n (by decide))

theorem readHex4_hexDigits {n : ℕ} (h : n < 65536) :
    readHex4 (hexDigit (n / 4096)) (hexDigit (n / 256)) (hexDigit (n / 16)) (hexDigit n) =
      some n := by
  unfold readHex4
  simp only [hexValue?_hexDigit]
  congr 1
  omega

/-- An escape of the basic plane. -/
theorem parseString_escape {n : ℕ} (h : n < 65536) (hplain : ¬(55296 ≤ n ∧ n < 57344))
    (rest : List Char) :
    parseString ('\\' :: 'u' :: hex4 n ++ rest) =
      (parseString rest).map fun p => (Char.ofNat n :: p.1, p.2) := by
  show parseString ('\\' :: 'u' :: hexDigit (n / 4096) :: hexDigit (n / 256) ::
    hexDigit (n / 16) :: hexDigit n :: rest) = _
  rw [parseString]
  simp only [readHex4_hexDigits h]
  rw [if_neg (by omega), if_neg (by omega)]

/-- An escape beyond the basic plane. -/
theorem parseString_pair {high low : ℕ} (hhigh : 55296 ≤ high ∧ high < 56320)
    (hlow : 56320 ≤ low ∧ low < 57344) (rest : List Char) :
    parseString ('\\' :: 'u' :: hex4 high ++ '\\' :: 'u' :: hex4 low ++ rest) =
      (parseString rest).map fun p =>
        (Char.ofNat (65536 + (high - 55296) * 1024 + (low - 56320)) :: p.1, p.2) := by
  show parseString ('\\' :: 'u' :: hexDigit (high / 4096) :: hexDigit (high / 256) ::
    hexDigit (high / 16) :: hexDigit high :: '\\' :: 'u' :: hexDigit (low / 4096) ::
    hexDigit (low / 256) :: hexDigit (low / 16) :: hexDigit low :: rest) = _
  rw [parseString]
  simp only [readHex4_hexDigits (show high < 65536 by omega),
    readHex4_hexDigits (show low < 65536 by omega)]
  rw [if_pos hhigh, if_pos hlow]

/-- A character that needs no escape. -/
theorem parseString_plain {c : Char} (hquote : c ≠ '"') (hescape : c ≠ '\\')
    (hprintable : 32 ≤ c.toNat) (rest : List Char) :
    parseString (c :: rest) = (parseString rest).map fun p => (c :: p.1, p.2) := by
  rw [parseString.eq_def]
  split
  · next h => cases h
  · next h =>
    cases h
    exact absurd rfl hquote
  · next h =>
    cases h
    exact absurd rfl hescape
  · next h =>
    cases h
    exact absurd rfl hescape
  · next h =>
    cases h
    rw [if_neg]
    rintro (hlow | hbackslash)
    · exact absurd hprintable (not_le.mpr hlow)
    · exact hescape hbackslash

theorem toNat_bounds (c : Char) :
    c.toNat < 55296 ∨ (57344 ≤ c.toNat ∧ c.toNat < 1114112) := by
  rcases c.valid with h | ⟨h₁, h₂⟩
  · exact Or.inl h
  · exact Or.inr ⟨h₁, h₂⟩

/-- **One character** is read back, however it is written. -/
theorem parseString_escapeChar (c : Char) (rest : List Char) :
    parseString (escapeChar c ++ rest) = (parseString rest).map fun p => (c :: p.1, p.2) := by
  have hbounds := toNat_bounds c
  unfold escapeChar
  split
  · next h =>
    rw [h]
    rfl
  split
  · next h =>
    rw [h]
    rfl
  split
  · next h =>
    rw [h]
    rfl
  split
  · next h =>
    rw [h]
    rfl
  split
  · next h =>
    rw [h]
    rfl
  split
  · next h =>
    rw [h]
    rfl
  split
  · next h =>
    rw [h]
    rfl
  split
  · next hquote hescape _ _ _ _ _ hprintable =>
    exact parseString_plain hquote hescape hprintable.1 rest
  split
  · next hbasic =>
    rw [parseString_escape hbasic (by omega), Char.ofNat_toNat]
  next hbeyond =>
    simp only
    rw [parseString_pair (by omega) (by omega)]
    have hvalue : 65536 + (55296 + (c.toNat - 65536) / 1024 - 55296) * 1024 +
        (56320 + (c.toNat - 65536) % 1024 - 56320) = c.toNat := by omega
    rw [hvalue, Char.ofNat_toNat]

/-- **A string** is read back. -/
theorem parseString_printChars (chars rest : List Char) :
    parseString (printChars chars ++ rest) = some (chars, rest) := by
  induction chars with
  | nil => rfl
  | cons c chars ih =>
    show parseString (escapeChar c ++ printChars chars ++ rest) = _
    rw [append_assoc, parseString_escapeChar, ih]
    rfl

/-! ## A printed number is read back -/

/-- A text that does not go on with a character of numbers. -/
def Ends (rest : List Char) : Prop := ∀ c more, rest = c :: more → numberChar c = false

theorem ends_cons {c : Char} (h : numberChar c = false) (rest : List Char) :
    Ends (c :: rest) := by
  intro c' more heq
  cases heq
  exact h

variable {rest token : List Char} {j : Json} {a b entries : List (String × Json)}

theorem span_number (htoken : ∀ c ∈ token, numberChar c = true) (hrest : Ends rest) :
    (token ++ rest).takeWhile numberChar = token ∧
    (token ++ rest).dropWhile numberChar = rest := by
  have hstop : rest.takeWhile numberChar = [] ∧ rest.dropWhile numberChar = rest := by
    cases rest with
    | nil => exact ⟨rfl, rfl⟩
    | cons c more =>
      have hc := hrest c more rfl
      exact ⟨by rw [takeWhile_cons, hc]; rfl, by rw [dropWhile_cons, hc]; rfl⟩
  rw [takeWhile_append_of_pos htoken, dropWhile_append_of_pos htoken, hstop.1, hstop.2,
    append_nil]
  exact ⟨rfl, rfl⟩

theorem digits_numberChar (n : ℕ) : ∀ c ∈ Nat.toDigits 10 n, c.isDigit = true := by
  intro c hc
  exact Nat.isDigit_of_mem_toDigits (by decide) (by decide) hc

theorem readDigits_toDigits (n : ℕ) : readDigits (Nat.toDigits 10 n) = some n := by
  unfold readDigits
  rw [Nat.ofDigitChars_ten_toDigits, if_pos rfl]

theorem not_isFloat_of_digits
    (h : ∀ c ∈ token, c.isDigit = true ∨ c = '-') : isFloat token = false := by
  have hnone : token.any fractionChar = false := by
    rw [any_eq_false]
    intro c hc hfraction
    unfold fractionChar at hfraction
    rcases h c hc with hdigit | rfl
    · simp only [decide_eq_true_eq, mem_cons, not_mem_nil, or_false] at hfraction
      rcases hfraction with rfl | rfl | rfl <;> cases hdigit
    · cases hfraction
  unfold isFloat
  simp [hnone]

/-- **An integer** is read back. -/
theorem parseNumber_printInt (n : ℤ) (hrest : Ends rest) :
    parseNumber (printInt n ++ rest) = some (.int n, rest) := by
  have hchars : ∀ c ∈ printInt n, c.isDigit = true ∨ c = '-' := by
    intro c hc
    cases n with
    | ofNat n => exact Or.inl (digits_numberChar n c hc)
    | negSucc n =>
      rcases mem_cons.mp hc with hminus | hdigit
      · exact Or.inr hminus
      · exact Or.inl (digits_numberChar _ c hdigit)
  have hnumber : ∀ c ∈ printInt n, numberChar c = true := by
    intro c hc
    unfold numberChar
    rcases hchars c hc with hdigit | rfl
    · rw [hdigit, Bool.true_or]
    · rfl
  have hread : readInt (printInt n) = some n := by
    cases n with
    | ofNat n =>
      have hdigits : ∀ digits, Nat.toDigits 10 n ≠ '-' :: digits := by
        intro digits heq
        have hmem := digits_numberChar n '-' (by rw [heq]; exact mem_cons_self)
        cases hmem
      show readInt (Nat.toDigits 10 n) = _
      unfold readInt
      split
      · next digits heq => exact absurd heq (hdigits digits)
      · rw [readDigits_toDigits]
        rfl
    | negSucc n =>
      simp only [printInt, readInt, readDigits_toDigits]
      rfl
  obtain ⟨htake, hdrop⟩ := span_number hnumber hrest
  unfold parseNumber
  simp only [htake, hdrop]
  rw [dif_neg (by rw [not_isFloat_of_digits hchars]; simp), hread]
  rfl

/-- **A number with a fraction** is read back. -/
theorem parseNumber_float (x : FloatText) (hrest : Ends rest) :
    parseNumber (x.chars ++ rest) = some (.float x, rest) := by
  have hnumber : ∀ c ∈ x.chars, numberChar c = true := by
    have hspells := x.spells
    unfold isFloat at hspells
    simp only [Bool.and_eq_true] at hspells
    exact all_eq_true.mp hspells.1.1.1
  obtain ⟨htake, hdrop⟩ := span_number hnumber hrest
  unfold parseNumber
  simp only [htake, hdrop]
  rw [dif_pos x.spells]

/-! ## A printed value is read back -/

mutual

/-- No object repeats a key. -/
def Distinct : Json → Prop
  | .arr items => DistinctItems items
  | .obj entries => (entries.map Prod.fst).Nodup ∧ DistinctEntries entries
  | _ => True

def DistinctItems : List Json → Prop
  | [] => True
  | x :: rest => Distinct x ∧ DistinctItems rest

def DistinctEntries : List (String × Json) → Prop
  | [] => True
  | (_, x) :: rest => Distinct x ∧ DistinctEntries rest

end

theorem numberChar_of_printInt (n : ℤ) : ∃ c more, printInt n = c :: more ∧
    numberChar c = true := by
  cases n with
  | ofNat n =>
    cases h : Nat.toDigits 10 n with
    | nil => exact absurd h Nat.toDigits_ne_nil
    | cons c more =>
      have hdigit := digits_numberChar n c (by rw [h]; exact mem_cons_self)
      refine ⟨c, more, h, ?_⟩
      unfold numberChar
      rw [hdigit, Bool.true_or]
  | negSucc n => exact ⟨'-', _, rfl, rfl⟩

theorem numberChar_of_float (x : FloatText) :
    ∃ c more, x.chars = c :: more ∧ numberChar c = true := by
  have hspells := x.spells
  unfold isFloat at hspells
  simp only [Bool.and_eq_true] at hspells
  cases h : x.chars with
  | nil =>
    have hany := hspells.1.1.2
    rw [h] at hany
    cases hany
  | cons c more =>
    have hc := all_eq_true.mp hspells.1.1.1 c (by rw [h]; exact mem_cons_self)
    exact ⟨c, more, rfl, hc⟩

/-- The first character of a value. -/
theorem print_head (j : Json) :
    ∃ c more, print j = c :: more ∧ isBlank c = false ∧ c ≠ ']' := by
  have hnumber : ∀ c : Char, numberChar c = true → isBlank c = false ∧ c ≠ ']' := by
    intro c hc
    constructor
    · by_contra hblank
      have hmem : c ∈ [' ', '\t', '\n', '\r'] := of_decide_eq_true (Bool.not_eq_false _ ▸ hblank)
      fin_cases hmem <;> cases hc
    · rintro rfl
      cases hc
  match j with
  | .null => exact ⟨'n', _, rfl, rfl, by decide⟩
  | .bool true => exact ⟨'t', _, rfl, rfl, by decide⟩
  | .bool false => exact ⟨'f', _, rfl, rfl, by decide⟩
  | .int n =>
    obtain ⟨c, more, hprint, hc⟩ := numberChar_of_printInt n
    exact ⟨c, more, hprint, hnumber c hc⟩
  | .float x =>
    obtain ⟨c, more, hprint, hc⟩ := numberChar_of_float x
    exact ⟨c, more, hprint, hnumber c hc⟩
  | .str s => exact ⟨'"', _, rfl, rfl, by decide⟩
  | .arr [] => exact ⟨'[', _, rfl, rfl, by decide⟩
  | .arr (x :: rest) => exact ⟨'[', _, rfl, rfl, by decide⟩
  | .obj [] => exact ⟨'{', _, rfl, rfl, by decide⟩
  | .obj ((key, x) :: rest) => exact ⟨'{', _, rfl, rfl, by decide⟩

theorem skipBlanks_print (j : Json) (rest : List Char) :
    skipBlanks (print j ++ rest) = print j ++ rest := by
  obtain ⟨c, more, hprint, hblank, -⟩ := print_head j
  rw [hprint]
  show List.dropWhile isBlank (c :: (more ++ rest)) = _
  rw [dropWhile_cons, hblank]
  rfl

theorem printItems_ends (items : List Json) (rest : List Char) :
    Ends (printItems items ++ rest) := by
  cases items with
  | nil => exact ends_cons rfl rest
  | cons x items => exact ends_cons rfl _

theorem printEntries_ends (entries : List (String × Json)) (rest : List Char) :
    Ends (printEntries entries ++ rest) := by
  cases entries with
  | nil => exact ends_cons rfl rest
  | cons entry entries => exact ends_cons rfl _

/-- Entries with different keys are kept by a hook. -/
def KeepsUnique (hook : PairsHook) : Prop :=
  ∀ entries, (entries.map Prod.fst).Nodup → hook entries = some entries

theorem keepsUnique_lastWins : KeepsUnique lastWins := fun entries h => by
  unfold lastWins
  rw [Dict.items_ofList h]

section Parser

variable {hook : PairsHook}

/-- A value that starts with a character of numbers is read as a number. -/
theorem parseValue_number {chars rest : List Char} {c : Char} {more : List Char}
    (hhead : chars = c :: more) (hc : numberChar c = true) (fuel : ℕ) :
    parseValue hook (fuel + 1) (chars ++ rest) = parseNumber (chars ++ rest) := by
  rw [hhead, cons_append]
  unfold parseValue
  have hne : ∀ d : Char, numberChar d = false → c ≠ d := by
    rintro d hd rfl
    rw [hd] at hc
    cases hc
  simp only [if_neg (hne '"' rfl), if_neg (hne '[' rfl), if_neg (hne '{' rfl),
    if_neg (hne 'n' rfl), if_neg (hne 't' rfl), if_neg (hne 'f' rfl)]

/-- One entry is read back when its value is. -/
theorem parseMember_print {key : String} {x : Json} {fuel : ℕ} {rest : List Char}
    (hvalue : parseValue hook fuel (print x ++ rest) = some (x, rest)) :
    parseMember hook (fuel + 1) (printString key ++ ':' :: (print x ++ rest)) =
      some ((key, x), rest) := by
  show parseMember hook (fuel + 1)
    ('"' :: (printChars key.toList ++ ':' :: (print x ++ rest))) = _
  unfold parseMember
  simp only [parseString_printChars]
  show Option.map _ (parseValue hook fuel (skipBlanks (print x ++ rest))) = _
  rw [skipBlanks_print, hvalue]
  show some ((String.ofList key.toList, x), rest) = _
  rw [String.ofList_toList]

mutual

/-- **A value** is read back.  The induction follows the value; the fuel is counted
against the length of its text, which every recursive call of the reader shortens. -/
theorem parseValue_print (hhook : KeepsUnique hook) : ∀ (j : Json), Distinct j →
    ∀ (fuel : ℕ) (rest : List Char), (print j).length ≤ fuel → Ends rest →
    parseValue hook fuel (print j ++ rest) = some (j, rest)
  | .null, _, fuel, rest, hfuel, _ => by
      obtain ⟨fuel, rfl⟩ := Nat.exists_eq_succ_of_ne_zero (show fuel ≠ 0 by
        simp [print] at hfuel; omega)
      rfl
  | .bool true, _, fuel, rest, hfuel, _ => by
      obtain ⟨fuel, rfl⟩ := Nat.exists_eq_succ_of_ne_zero (show fuel ≠ 0 by
        simp [print] at hfuel; omega)
      rfl
  | .bool false, _, fuel, rest, hfuel, _ => by
      obtain ⟨fuel, rfl⟩ := Nat.exists_eq_succ_of_ne_zero (show fuel ≠ 0 by
        simp [print] at hfuel; omega)
      rfl
  | .int n, _, fuel, rest, hfuel, hends => by
      obtain ⟨c, more, hprint, hc⟩ := numberChar_of_printInt n
      have hlength : (printInt n).length ≤ fuel := hfuel
      rw [hprint, length_cons] at hlength
      obtain ⟨fuel, rfl⟩ := Nat.exists_eq_succ_of_ne_zero (show fuel ≠ 0 by omega)
      exact (parseValue_number hprint hc fuel).trans (parseNumber_printInt n hends)
  | .float x, _, fuel, rest, hfuel, hends => by
      obtain ⟨c, more, hprint, hc⟩ := numberChar_of_float x
      have hlength : x.chars.length ≤ fuel := hfuel
      rw [hprint, length_cons] at hlength
      obtain ⟨fuel, rfl⟩ := Nat.exists_eq_succ_of_ne_zero (show fuel ≠ 0 by omega)
      exact (parseValue_number hprint hc fuel).trans (parseNumber_float x hends)
  | .str s, _, fuel, rest, hfuel, _ => by
      obtain ⟨fuel, rfl⟩ := Nat.exists_eq_succ_of_ne_zero
        (show fuel ≠ 0 by simp [print, printString] at hfuel; omega)
      show Option.map _ (parseString (printChars s.toList ++ rest)) = _
      rw [parseString_printChars]
      show some (Json.str (String.ofList s.toList), rest) = _
      rw [String.ofList_toList]
  | .arr [], _, fuel, rest, hfuel, _ => by
      obtain ⟨fuel, rfl⟩ := Nat.exists_eq_succ_of_ne_zero (show fuel ≠ 0 by
        simp [print] at hfuel; omega)
      rfl
  | .arr (x :: items), hdistinct, fuel, rest, hfuel, _ => by
      simp only [print, length_cons, length_append] at hfuel
      obtain ⟨fuel, rfl⟩ := Nat.exists_eq_succ_of_ne_zero (show fuel ≠ 0 by omega)
      have hx := parseValue_print hhook x hdistinct.1 fuel (printItems items ++ rest) (by omega)
        (printItems_ends items rest)
      have hitems := parseItems_print hhook items hdistinct.2 fuel rest (by omega)
      obtain ⟨c, more, hprint, -, hclose⟩ := print_head x
      have hskip := skipBlanks_print x (printItems items ++ rest)
      show parseValue hook (fuel + 1) ('[' :: ((print x ++ printItems items) ++ rest)) = _
      rw [append_assoc]
      unfold parseValue
      simp only [show ('[' : Char) ≠ '"' by decide, if_false, if_true, hskip]
      rw [hprint] at hx ⊢
      split
      · next heq =>
        cases heq
        exact absurd rfl hclose
      · simp only [hx, hitems]
        rfl
  | .obj [], _, fuel, rest, hfuel, _ => by
      obtain ⟨fuel, rfl⟩ := Nat.exists_eq_succ_of_ne_zero (show fuel ≠ 0 by
        simp [print] at hfuel; omega)
      rfl
  | .obj ((key, x) :: entries), hdistinct, fuel, rest, hfuel, _ => by
      simp only [print, length_cons, length_append] at hfuel
      obtain ⟨fuel, rfl⟩ := Nat.exists_eq_succ_of_ne_zero (show fuel ≠ 0 by omega)
      obtain ⟨fuel, rfl⟩ := Nat.exists_eq_succ_of_ne_zero (show fuel ≠ 0 by omega)
      have hx := parseValue_print hhook x hdistinct.2.1 fuel (printEntries entries ++ rest)
        (by omega)
        (printEntries_ends entries rest)
      have hentries := parseEntries_print hhook entries hdistinct.2.2 (fuel + 1) rest (by omega)
      have hmember := @parseMember_print hook key x fuel _ hx
      show parseValue hook (fuel + 2)
        ('{' :: ((printString key ++ ':' :: (print x ++ printEntries entries)) ++ rest)) = _
      rw [append_assoc, cons_append, append_assoc]
      unfold parseValue
      have hskip : skipBlanks (printString key ++ ':' ::
          (print x ++ (printEntries entries ++ rest))) =
          printString key ++ ':' :: (print x ++ (printEntries entries ++ rest)) := rfl
      simp only [show ('{' : Char) ≠ '"' by decide, show ('{' : Char) ≠ '[' by decide, if_false,
        if_true, hskip]
      split
      · next heq => cases heq
      · simp only [hmember, hentries, Option.bind_some]
        rw [hhook _ hdistinct.1]
        rfl

/-- **The rest of an array** is read back. -/
theorem parseItems_print (hhook : KeepsUnique hook) :
    ∀ (items : List Json), DistinctItems items →
    ∀ (fuel : ℕ)
    (rest : List Char), (printItems items).length ≤ fuel →
    parseItems hook fuel (printItems items ++ rest) = some (items, rest)
  | [], _, fuel, rest, hfuel => by
      obtain ⟨fuel, rfl⟩ := Nat.exists_eq_succ_of_ne_zero
        (show fuel ≠ 0 by simp [printItems] at hfuel; omega)
      rfl
  | x :: items, hdistinct, fuel, rest, hfuel => by
      simp only [printItems, length_cons, length_append] at hfuel
      obtain ⟨fuel, rfl⟩ := Nat.exists_eq_succ_of_ne_zero (show fuel ≠ 0 by omega)
      have hx := parseValue_print hhook x hdistinct.1 fuel (printItems items ++ rest) (by omega)
        (printItems_ends items rest)
      have hitems := parseItems_print hhook items hdistinct.2 fuel rest (by omega)
      show parseItems hook (fuel + 1) (',' :: ((print x ++ printItems items) ++ rest)) = _
      rw [append_assoc]
      unfold parseItems
      have hskip : skipBlanks (',' :: (print x ++ (printItems items ++ rest))) =
          ',' :: (print x ++ (printItems items ++ rest)) := rfl
      simp only [hskip, skipBlanks_print, hx, hitems]
      rfl

/-- **The rest of an object** is read back. -/
theorem parseEntries_print (hhook : KeepsUnique hook) :
    ∀ (entries : List (String × Json)), DistinctEntries entries →
    ∀ (fuel : ℕ) (rest : List Char), (printEntries entries).length ≤ fuel →
    parseEntries hook fuel (printEntries entries ++ rest) = some (entries, rest)
  | [], _, fuel, rest, hfuel => by
      obtain ⟨fuel, rfl⟩ := Nat.exists_eq_succ_of_ne_zero
        (show fuel ≠ 0 by simp [printEntries] at hfuel; omega)
      rfl
  | (key, x) :: entries, hdistinct, fuel, rest, hfuel => by
      simp only [printEntries, length_cons, length_append] at hfuel
      obtain ⟨fuel, rfl⟩ := Nat.exists_eq_succ_of_ne_zero (show fuel ≠ 0 by omega)
      obtain ⟨fuel, rfl⟩ := Nat.exists_eq_succ_of_ne_zero (show fuel ≠ 0 by omega)
      have hx := parseValue_print hhook x hdistinct.1 fuel (printEntries entries ++ rest)
        (by omega)
        (printEntries_ends entries rest)
      have hentries := parseEntries_print hhook entries hdistinct.2 (fuel + 1) rest (by omega)
      have hmember := @parseMember_print hook key x fuel _ hx
      show parseEntries hook (fuel + 2)
        (',' :: ((printString key ++ ':' :: (print x ++ printEntries entries)) ++ rest)) = _
      rw [append_assoc, cons_append, append_assoc]
      unfold parseEntries
      have hcomma : skipBlanks
          (',' :: (printString key ++ ':' :: (print x ++ (printEntries entries ++ rest)))) =
          ',' :: (printString key ++ ':' :: (print x ++ (printEntries entries ++ rest))) := rfl
      have hskip : skipBlanks (printString key ++ ':' ::
          (print x ++ (printEntries entries ++ rest))) =
          printString key ++ ':' :: (print x ++ (printEntries entries ++ rest)) := rfl
      simp only [hcomma, hskip, hmember, hentries]
      rfl

end

/-- **A printed value is read back**, with blanks after it. -/
theorem parseWith_print (hhook : KeepsUnique hook) {j : Json} (h : Distinct j)
    {blanks : List Char}
    (hblanks : ∀ c ∈ blanks, isBlank c = true) :
    parseWith hook (print j ++ blanks) = some j := by
  have hends : Ends blanks := by
    intro c more heq
    have hblank := hblanks c (by rw [heq]; exact mem_cons_self)
    have hmem : c ∈ [' ', '\t', '\n', '\r'] := of_decide_eq_true hblank
    fin_cases hmem <;> rfl
  have hskip : skipBlanks blanks = [] := by
    unfold skipBlanks
    rw [dropWhile_eq_nil_iff]
    exact hblanks
  unfold parseWith
  rw [skipBlanks_print, length_append,
    parseValue_print hhook j h _ blanks (by omega) hends]
  simp only [hskip, if_true]

end Parser

/-- A printed value is read back without a hook. -/
theorem loads_print (h : Distinct j) {blanks : List Char}
    (hblanks : ∀ c ∈ blanks, isBlank c = true) :
    loads (String.ofList (print j ++ blanks)) = some j := by
  unfold loads parse
  rw [String.toList_ofList]
  exact parseWith_print keepsUnique_lastWins h hblanks

/-! ## Values with sorted keys -/

instance : Std.Total keyLE := ⟨fun a b => le_total a.1 b.1⟩

instance : IsTrans (String × Json) keyLE := ⟨fun _ _ _ => le_trans⟩

theorem sortItems_eq (items : List Json) : sortItems items = items.map sortKeys := by
  induction items with
  | nil => rfl
  | cons x rest ih => rw [sortItems, ih, map_cons]

theorem sortEntries_eq (entries : List (String × Json)) :
    sortEntries entries = entries.map fun entry => (entry.1, sortKeys entry.2) := by
  induction entries with
  | nil => rfl
  | cons entry rest ih => rw [sortEntries, ih, map_cons]

theorem distinctItems_iff {items : List Json} : DistinctItems items ↔
    ∀ x ∈ items, Distinct x := by
  induction items with
  | nil => simp [DistinctItems]
  | cons x rest ih => simp [DistinctItems, ih]

theorem distinctEntries_iff : DistinctEntries entries ↔ ∀ entry ∈ entries, Distinct entry.2 := by
  induction entries with
  | nil => simp [DistinctEntries]
  | cons entry rest ih => simp [DistinctEntries, ih]

theorem keys_sortEntries (entries : List (String × Json)) :
    (sortEntries entries).map Prod.fst = entries.map Prod.fst := by
  rw [sortEntries_eq, map_map]
  rfl

theorem mem_insertionSort_keys :
    ((entries.insertionSort keyLE).map Prod.fst).Perm (entries.map Prod.fst) :=
  (perm_insertionSort keyLE entries).map _

/-- Two orders of the same entries have one sorted order. -/
theorem insertionSort_eq_of_perm (hnodup : (a.map Prod.fst).Nodup)
    (h : a.Perm b) : a.insertionSort keyLE = b.insertionSort keyLE := by
  have hperm : (a.insertionSort keyLE).Perm (b.insertionSort keyLE) :=
    ((perm_insertionSort keyLE a).trans h).trans (perm_insertionSort keyLE b).symm
  refine List.Perm.eq_of_pairwise ?_ (pairwise_insertionSort keyLE a)
    (pairwise_insertionSort keyLE b) hperm
  intro x y hx hy hxy hyx
  have hmem : y ∈ a.insertionSort keyLE := hperm.mem_iff.mpr hy
  have hkeys : ((a.insertionSort keyLE).map Prod.fst).Nodup :=
    (mem_insertionSort_keys.nodup_iff).mpr hnodup
  exact inj_on_of_nodup_map hkeys hx hmem (le_antisymm hxy hyx)

theorem sortKeys_obj_of_perm (hnodup : (a.map Prod.fst).Nodup)
    (h : a.Perm b) : sortKeys (.obj a) = sortKeys (.obj b) := by
  simp only [sortKeys, sortEntries_eq]
  rw [insertionSort_eq_of_perm _ (h.map _)]
  rw [← sortEntries_eq, keys_sortEntries]
  exact hnodup

mutual

/-- Sorting twice is sorting once. -/
theorem sortKeys_sortKeys : ∀ j : Json, sortKeys (sortKeys j) = sortKeys j
  | .null => rfl
  | .bool _ => rfl
  | .int _ => rfl
  | .float _ => rfl
  | .str _ => rfl
  | .arr items => by
      simp only [sortKeys, sortItems_eq, map_map]
      congr 1
      refine map_congr_left ?_
      intro x hx
      exact sortItems_fixed items x hx
  | .obj entries => by
      have hfixed : sortEntries ((sortEntries entries).insertionSort keyLE) =
          (sortEntries entries).insertionSort keyLE := by
        rw [sortEntries_eq, sortEntries_eq]
        nth_rewrite 2 [← map_id (List.insertionSort keyLE _)]
        refine map_congr_left ?_
        intro entry hentry
        obtain ⟨old, hold, rfl⟩ := mem_map.mp ((mem_insertionSort keyLE).mp hentry)
        exact Prod.ext rfl (sortEntries_fixed entries old hold)
      simp only [sortKeys]
      rw [hfixed, (pairwise_insertionSort keyLE _).insertionSort_eq]

theorem sortItems_fixed : ∀ items : List Json, ∀ x ∈ items, sortKeys (sortKeys x) = sortKeys x
  | [], x, hx => by cases hx
  | y :: rest, x, hx => by
      rcases mem_cons.mp hx with heq | hrest
      · rw [heq]
        exact sortKeys_sortKeys y
      · exact sortItems_fixed rest x hrest

theorem sortEntries_fixed : ∀ entries : List (String × Json), ∀ entry ∈ entries,
    sortKeys (sortKeys entry.2) = sortKeys entry.2
  | [], entry, hentry => by cases hentry
  | (key, y) :: rest, entry, hentry => by
      rcases mem_cons.mp hentry with heq | hrest
      · rw [heq]
        exact sortKeys_sortKeys y
      · exact sortEntries_fixed rest entry hrest

end

mutual

theorem distinct_sortKeys : ∀ j : Json, Distinct j → Distinct (sortKeys j)
  | .null, _ => trivial
  | .bool _, _ => trivial
  | .int _, _ => trivial
  | .float _, _ => trivial
  | .str _, _ => trivial
  | .arr items, h => by
      show DistinctItems (sortItems items)
      rw [sortItems_eq, distinctItems_iff]
      intro x hx
      obtain ⟨y, hy, rfl⟩ := mem_map.mp hx
      exact distinct_sortItems items h y hy
  | .obj entries, h => by
      refine ⟨?_, distinctEntries_iff.mpr ?_⟩
      · rw [mem_insertionSort_keys.nodup_iff, keys_sortEntries]
        exact h.1
      intro entry hentry
      rw [mem_insertionSort, sortEntries_eq] at hentry
      obtain ⟨old, hold, rfl⟩ := mem_map.mp hentry
      exact distinct_sortEntries entries h.2 old hold

theorem distinct_sortItems : ∀ items : List Json, DistinctItems items → ∀ x ∈ items,
    Distinct (sortKeys x)
  | [], _, x, hx => by cases hx
  | y :: rest, h, x, hx => by
      rcases mem_cons.mp hx with heq | hrest
      · rw [heq]
        exact distinct_sortKeys y h.1
      · exact distinct_sortItems rest h.2 x hrest

theorem distinct_sortEntries : ∀ entries : List (String × Json), DistinctEntries entries →
    ∀ entry ∈ entries, Distinct (sortKeys entry.2)
  | [], _, entry, hentry => by cases hentry
  | (key, y) :: rest, h, entry, hentry => by
      rcases mem_cons.mp hentry with heq | hrest
      · rw [heq]
        exact distinct_sortKeys y h.1
      · exact distinct_sortEntries rest h.2 entry hrest

end

/-- **What `dumps` writes is read back with its keys in order**, with blanks after it. -/
theorem loads_dumps (h : Distinct j) {blanks : String}
    (hblanks : ∀ c ∈ blanks.toList, isBlank c = true) :
    loads (dumps j ++ blanks) = some (sortKeys j) := by
  have hread := loads_print (distinct_sortKeys j h) hblanks
  rw [String.ofList_append, String.ofList_toList] at hread
  exact hread

theorem dumps_sortKeys (j : Json) : dumps (sortKeys j) = dumps j := by
  unfold dumps
  rw [sortKeys_sortKeys]

/-! ## Fields -/

theorem lookupIn_perm (hnodup : (a.map Prod.fst).Nodup)
    (h : a.Perm b) (key : String) : Dict.lookupIn key a = Dict.lookupIn key b := by
  have hnodup' : (b.map Prod.fst).Nodup := ((h.map Prod.fst).nodup_iff).mp hnodup
  ext x
  rw [Dict.lookupIn_eq_some_iff hnodup, Dict.lookupIn_eq_some_iff hnodup', h.mem_iff]

theorem lookupIn_sortEntries (entries : List (String × Json)) (key : String) :
    Dict.lookupIn key (sortEntries entries) = (Dict.lookupIn key entries).map sortKeys := by
  induction entries with
  | nil => rfl
  | cons entry rest ih =>
    obtain ⟨k, x⟩ := entry
    simp only [sortEntries, Dict.lookupIn]
    split
    · rfl
    · exact ih

/-- A field of the sorted object is the field, sorted. -/
theorem get?_sortKeys (h : Distinct j) (key : String) :
    (sortKeys j).get? key = (j.get? key).map sortKeys := by
  cases j with
  | obj entries =>
    show Dict.lookupIn key ((sortEntries entries).insertionSort keyLE) = _
    rw [lookupIn_perm _ (perm_insertionSort keyLE _), lookupIn_sortEntries]
    · rfl
    · rw [mem_insertionSort_keys.nodup_iff, keys_sortEntries]
      exact h.1
  | _ => rfl

theorem keys_sortKeys (j : Json) : (sortKeys j).keys.Perm j.keys := by
  cases j with
  | obj entries =>
    show ((List.insertionSort keyLE (sortEntries entries)).map Prod.fst).Perm
      (entries.map Prod.fst)
    rw [← keys_sortEntries entries]
    exact mem_insertionSort_keys
  | _ => exact List.Perm.refl _

/-- Dropping a field and sorting commute. -/
theorem sortKeys_without (h : Distinct j) (key : String) :
    sortKeys ((sortKeys j).without key) = sortKeys (j.without key) := by
  cases j with
  | obj entries =>
    have hfiltered : (sortEntries entries).filter (fun entry => entry.1 ≠ key) =
        sortEntries (entries.filter fun entry => entry.1 ≠ key) := by
      rw [sortEntries_eq, sortEntries_eq, filter_map]
      rfl
    have hperm : ((sortEntries entries).insertionSort keyLE).filter (fun entry => entry.1 ≠ key)
        |>.Perm ((sortEntries entries).filter fun entry => entry.1 ≠ key) :=
      (perm_insertionSort keyLE _).filter _
    have hnodup : (((sortEntries entries).insertionSort keyLE).filter
        (fun entry => entry.1 ≠ key) |>.map Prod.fst).Nodup := by
      refine List.Nodup.sublist (filter_sublist.map Prod.fst) ?_
      rw [mem_insertionSort_keys.nodup_iff, keys_sortEntries]
      exact h.1
    show sortKeys (.obj (((sortEntries entries).insertionSort keyLE).filter _)) = _
    rw [sortKeys_obj_of_perm hnodup hperm, hfiltered]
    have hfixed : sortEntries (sortEntries (entries.filter fun entry => entry.1 ≠ key)) =
        sortEntries (entries.filter fun entry => entry.1 ≠ key) := by
      simp only [sortEntries_eq, map_map]
      refine map_congr_left ?_
      intro entry _
      exact Prod.ext rfl (sortKeys_sortKeys entry.2)
    show Json.obj (List.insertionSort keyLE (sortEntries (sortEntries _))) = _
    rw [hfixed]
    rfl
  | _ => exact sortKeys_sortKeys _

/-! ## Sizes -/

/-- The bytes of characters in UTF-8. -/
def size (chars : List Char) : ℕ := (chars.map Char.utf8Size).sum

@[simp] theorem size_nil : size [] = 0 := rfl

@[simp] theorem size_cons (c : Char) (chars : List Char) :
    size (c :: chars) = c.utf8Size + size chars := by
  rw [size, map_cons, sum_cons]
  rfl

@[simp] theorem size_append (first second : List Char) :
    size (first ++ second) = size first + size second := by
  rw [size, map_append, sum_append]
  rfl

theorem length_le_size (chars : List Char) : chars.length ≤ size chars := by
  induction chars with
  | nil => exact le_rfl
  | cons c rest ih =>
    have hpositive := c.utf8Size_pos
    rw [length_cons, size_cons]
    omega

theorem utf8ByteSize_ofList (chars : List Char) :
    (String.ofList chars).utf8ByteSize = size chars := by
  induction chars with
  | nil => rfl
  | cons c rest ih =>
    rw [String.ofList_cons, String.utf8ByteSize_append, ih, String.utf8ByteSize_singleton,
      size_cons]

theorem length_le_printString (s : String) : s.length + 2 ≤ size (printString s) := by
  have hescape : ∀ c : Char, 1 ≤ size (escapeChar c) := by
    intro c
    refine le_trans ?_ (length_le_size _)
    unfold escapeChar
    repeat' split
    all_goals simp
  have hchars : ∀ chars : List Char, chars.length + 1 ≤ size (printChars chars) := by
    intro chars
    induction chars with
    | nil => exact le_rfl
    | cons c rest ih =>
      have hc := hescape c
      rw [printChars, size_append, length_cons]
      omega
  have hs := hchars s.toList
  rw [String.length_toList] at hs
  rw [printString, size_cons]
  have hquote : Char.utf8Size '"' = 1 := rfl
  omega

theorem size_printString_le (s : String) : size (printString s) ≤ 48 * s.length + 8 := by
  have hsize : ∀ chars : List Char, size chars ≤ 4 * chars.length := by
    intro chars
    induction chars with
    | nil => exact le_rfl
    | cons c rest ih =>
      have hc := c.utf8Size_le_four
      rw [size_cons, length_cons]
      omega
  have hescape : ∀ c : Char, (escapeChar c).length ≤ 12 := by
    intro c
    unfold escapeChar
    repeat' split
    all_goals simp [hex4]
  have hchars : ∀ chars : List Char, (printChars chars).length ≤ 12 * chars.length + 1 := by
    intro chars
    induction chars with
    | nil => exact le_rfl
    | cons c rest ih =>
      have hc := hescape c
      rw [printChars, length_append, length_cons]
      omega
  have hs := hchars s.toList
  have hprinted := hsize (printString s)
  rw [String.length_toList] at hs
  rw [printString, length_cons] at hprinted
  rw [printString]
  omega

/-- A printable character other than a quote or a backslash is written as itself. -/
theorem escapeChar_plain {c : Char} (h : 32 ≤ c.toNat ∧ c.toNat ≤ 126) (hquote : c ≠ '"')
    (hescape : c ≠ '\\') : escapeChar c = [c] ∧ c.utf8Size = 1 := by
  have hne : ∀ d : Char, d.toNat < 32 → c ≠ d := by
    rintro d hd rfl
    omega
  constructor
  · unfold escapeChar
    rw [if_neg hquote, if_neg hescape, if_neg (hne _ (by decide)), if_neg (hne _ (by decide)),
      if_neg (hne _ (by decide)), if_neg (hne _ (by decide)), if_neg (hne _ (by decide)),
      if_pos h]
  · have hascii : c.val.toNat ≤ 127 := Nat.le_succ_of_le h.2
    exact Char.utf8Size_eq_one_iff.mpr (UInt32.le_iff_toNat_le.mpr hascii)

theorem size_toDigits (n : ℕ) : size (Nat.toDigits 10 n) = (Nat.toDigits 10 n).length := by
  have hone : ∀ chars : List Char, (∀ c ∈ chars, c.utf8Size = 1) →
      size chars = chars.length := by
    intro chars
    induction chars with
    | nil => exact fun _ => rfl
    | cons c rest ih =>
      intro hall
      rw [size_cons, hall c mem_cons_self, ih fun c hc => hall c (mem_cons_of_mem _ hc),
        length_cons]
      omega
  refine hone _ fun c hc => ?_
  have hdigit := digits_numberChar n c hc
  simp only [Char.isDigit, Bool.and_eq_true, decide_eq_true_eq] at hdigit
  have hascii : '9'.val ≤ 127 := by decide
  exact Char.utf8Size_eq_one_iff.mpr (UInt32.le_trans hdigit.2 hascii)

/-- A string without escapes. -/
theorem size_printString {s : String}
    (h : ∀ c ∈ s.toList, escapeChar c = [c] ∧ c.utf8Size = 1) :
    size (printString s) = s.length + 2 := by
  have hchars : ∀ chars : List Char, (∀ c ∈ chars, escapeChar c = [c] ∧ c.utf8Size = 1) →
      size (printChars chars) = chars.length + 1 := by
    intro chars
    induction chars with
    | nil => exact fun _ => rfl
    | cons c rest ih =>
      intro hall
      obtain ⟨hplain, hone⟩ := hall c mem_cons_self
      have hrest := ih fun c hc => hall c (mem_cons_of_mem _ hc)
      rw [printChars, hplain, size_append, size_cons, size_nil, hone, hrest, length_cons]
      omega
  rw [printString, size_cons, hchars s.toList h, String.length_toList]
  have hquote : Char.utf8Size '"' = 1 := rfl
  omega

/-- The bytes of an entry with its separators. -/
def entrySize (entry : String × Json) : ℕ :=
  size (printString entry.1) + size (print entry.2) + 2

theorem size_printEntries (entries : List (String × Json)) :
    size (printEntries entries) = 1 + (entries.map entrySize).sum := by
  induction entries with
  | nil => rfl
  | cons entry rest ih =>
    have hcomma : Char.utf8Size ',' = 1 := rfl
    have hcolon : Char.utf8Size ':' = 1 := rfl
    rw [printEntries, size_cons, size_append, size_cons, size_append, ih, map_cons,
      sum_cons, entrySize]
    omega

/-- The bytes of the text of an object. -/
theorem utf8ByteSize_dumps_obj (h : entries ≠ []) : (dumps (.obj entries)).utf8ByteSize =
      1 + (entries.map fun entry => entrySize (entry.1, entry.2.sortKeys)).sum := by
  have hprint : ∀ {sorted : List (String × Json)}, sorted ≠ [] →
      size (print (.obj sorted)) = 1 + (sorted.map entrySize).sum := by
    rintro (_ | ⟨entry, rest⟩) hne
    · exact absurd rfl hne
    have hbrace : Char.utf8Size '{' = 1 := rfl
    have hcolon : Char.utf8Size ':' = 1 := rfl
    rw [print, size_cons, size_append, size_cons, size_append, size_printEntries, map_cons,
      sum_cons, entrySize]
    omega
  have hperm := perm_insertionSort keyLE (sortEntries entries)
  have hne : (sortEntries entries).insertionSort keyLE ≠ [] := by
    intro hnil
    have hlength := hperm.length_eq
    rw [hnil, sortEntries_eq, length_map] at hlength
    exact h (eq_nil_of_length_eq_zero hlength.symm)
  unfold dumps
  rw [utf8ByteSize_ofList]
  show size (print (.obj ((sortEntries entries).insertionSort keyLE))) = _
  rw [hprint hne, (hperm.map entrySize).sum_eq, sortEntries_eq, map_map]
  rfl

end Json

end ChronosHFT
