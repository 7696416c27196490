import ChronosHFT.Lib.Dict

/-!
# JSON texts

Values, the compact text of a value, and a reader of texts.

A number is an integer or a number with a fraction or an exponent; the latter is
kept as the text that spells it (`FloatText`), which is all a faithful writer and
reader agree on.  A string is a sequence of Unicode scalar values; everything outside
the printable ASCII range is escaped, beyond the basic plane as a surrogate pair, so a
text is plain ASCII.

`print` writes the entries of an object in their order; `dumps` orders them by key
first.  The reader takes blanks between tokens; what it does about equal keys is up to
its hook, and without one the last of them wins.
-/

namespace ChronosHFT

namespace Json

/-! ## Numbers with a fraction -/

/-- The characters of numbers. -/
def numberChar (c : Char) : Bool := c.isDigit || c ∈ ['-', '+', '.', 'e', 'E']

/-- The characters that make a number more than an integer. -/
def fractionChar (c : Char) : Bool := c ∈ ['.', 'e', 'E']

/-- `(0|[1-9][0-9]*)`. -/
def isWhole (digits : List Char) : Bool :=
  match digits with
  | [] => false
  | [c] => c.isDigit
  | c :: rest => c.isDigit && c ≠ '0' && rest.all Char.isDigit

/-- `[eE][-+]?[0-9]+`, or nothing. -/
def isExponent (chars : List Char) : Bool :=
  match chars with
  | [] => true
  | 'e' :: '-' :: rest | 'e' :: '+' :: rest | 'E' :: '-' :: rest | 'E' :: '+' :: rest
  | 'e' :: rest | 'E' :: rest => rest ≠ [] && rest.all Char.isDigit
  | _ => false

/-- `(\.[0-9]+)?` and an exponent. -/
def isFraction (chars : List Char) : Bool :=
  match chars with
  | '.' :: rest =>
    rest.takeWhile Char.isDigit ≠ [] && isExponent (rest.dropWhile Char.isDigit)
  | _ => isExponent chars

/-- Does the text spell a number with a fraction or an exponent? -/
def isFloat (chars : List Char) : Bool :=
  let body := if chars.head? = some '-' then chars.tail else chars
  chars.all numberChar && chars.any fractionChar &&
    isWhole (body.takeWhile Char.isDigit) && isFraction (body.dropWhile Char.isDigit)

end Json

/-- A number with a fraction or an exponent, as it is spelled. -/
structure FloatText where
  chars : List Char
  spells : Json.isFloat chars = true
deriving DecidableEq

/-- A JSON value; the entries of an object are in the order of their keys' first
occurrence. -/
inductive Json where
  | null
  | bool (value : Bool)
  | int (value : ℤ)
  | float (value : FloatText)
  | str (value : String)
  | arr (items : List Json)
  | obj (entries : List (String × Json))

namespace Json

/-! ## Equality -/

mutual

/-- Are two values the same? -/
def beq : Json → Json → Bool
  | .null, .null => true
  | .bool a, .bool b => a = b
  | .int a, .int b => a = b
  | .float a, .float b => a = b
  | .str a, .str b => a = b
  | .arr a, .arr b => beqItems a b
  | .obj a, .obj b => beqEntries a b
  | _, _ => false

/-- Are two lists of values the same? -/
def beqItems : List Json → List Json → Bool
  | [], [] => true
  | x :: a, y :: b => beq x y && beqItems a b
  | _, _ => false

/-- Are two lists of entries the same? -/
def beqEntries : List (String × Json) → List (String × Json) → Bool
  | [], [] => true
  | (k, x) :: a, (l, y) :: b => k = l && beq x y && beqEntries a b
  | _, _ => false

end

mutual

theorem beq_iff : ∀ a b : Json, beq a b = true ↔ a = b
  | .null, b => by cases b <;> simp [beq]
  | .bool a, b => by cases b <;> simp [beq]
  | .int a, b => by cases b <;> simp [beq]
  | .float a, b => by cases b <;> simp [beq]
  | .str a, b => by cases b <;> simp [beq]
  | .arr a, b => by cases b <;> simp [beq, beqItems_iff a]
  | .obj a, b => by cases b <;> simp [beq, beqEntries_iff a]

theorem beqItems_iff : ∀ a b : List Json, beqItems a b = true ↔ a = b
  | [], b => by cases b <;> simp [beqItems]
  | x :: a, b => by cases b <;> simp [beqItems, beq_iff x, beqItems_iff a]

theorem beqEntries_iff : ∀ a b : List (String × Json), beqEntries a b = true ↔ a = b
  | [], b => by cases b <;> simp [beqEntries]
  | (k, x) :: a, b => by
      cases b with
      | nil => simp [beqEntries]
      | cons entry b => simp [beqEntries, beq_iff x, beqEntries_iff a, Prod.ext_iff]

end

instance : DecidableEq Json := fun a b => decidable_of_iff _ (beq_iff a b)

/-! ## Writing -/

/-- A digit of `\u` escapes. -/
def hexDigit (n : ℕ) : Char := Nat.digitChar (n % 16)

/-- Four hexadecimal digits. -/
def hex4 (n : ℕ) : List Char :=
  [hexDigit (n / 4096), hexDigit (n / 256), hexDigit (n / 16), hexDigit n]

/-- A character inside a string. -/
def escapeChar (c : Char) : List Char :=
  if c = '"' then ['\\', '"']
  else if c = '\\' then ['\\', '\\']
  else if c = '\n' then ['\\', 'n']
  else if c = '\r' then ['\\', 'r']
  else if c = '\t' then ['\\', 't']
  else if c = '\x0c' then ['\\', 'f']
  else if c = '\x08' then ['\\', 'b']
  else if 32 ≤ c.toNat ∧ c.toNat ≤ 126 then [c]
  else if c.toNat < 65536 then '\\' :: 'u' :: hex4 c.toNat
  else
    let offset := c.toNat - 65536
    '\\' :: 'u' :: hex4 (55296 + offset / 1024) ++
      '\\' :: 'u' :: hex4 (56320 + offset % 1024)

/-- A string without its opening quote. -/
def printChars : List Char → List Char
  | [] => ['"']
  | c :: rest => escapeChar c ++ printChars rest

/-- A string. -/
def printString (s : String) : List Char := '"' :: printChars s.toList

/-- An integer. -/
def printInt : ℤ → List Char
  | .ofNat n => Nat.toDigits 10 n
  | .negSucc n => '-' :: Nat.toDigits 10 (n + 1)

mutual

/-- The compact text of a value. -/
def print : Json → List Char
  | .null => ['n', 'u', 'l', 'l']
  | .bool true => ['t', 'r', 'u', 'e']
  | .bool false => ['f', 'a', 'l', 's', 'e']
  | .int n => printInt n
  | .float x => x.chars
  | .str s => printString s
  | .arr [] => ['[', ']']
  | .arr (x :: rest) => '[' :: (print x ++ printItems rest)
  | .obj [] => ['{', '}']
  | .obj ((key, x) :: rest) => '{' :: (printString key ++ ':' :: (print x ++ printEntries rest))

/-- The items of an array after the first, and its end. -/
def printItems : List Json → List Char
  | [] => [']']
  | x :: rest => ',' :: (print x ++ printItems rest)

/-- The entries of an object after the first, and its end. -/
def printEntries : List (String × Json) → List Char
  | [] => ['}']
  | (key, x) :: rest =>
    ',' :: (printString key ++ ':' :: (print x ++ printEntries rest))

end

/-- The order of the entries of a sorted object. -/
def keyLE (a b : String × Json) : Prop := a.1 ≤ b.1

instance : DecidableRel keyLE := fun a b => inferInstanceAs (Decidable (a.1 ≤ b.1))

mutual

/-- The value with the keys of every object in order. -/
def sortKeys : Json → Json
  | .null => .null
  | .bool b => .bool b
  | .int n => .int n
  | .float x => .float x
  | .str s => .str s
  | .arr items => .arr (sortItems items)
  | .obj entries => .obj ((sortEntries entries).insertionSort keyLE)

def sortItems : List Json → List Json
  | [] => []
  | x :: rest => sortKeys x :: sortItems rest

def sortEntries : List (String × Json) → List (String × Json)
  | [] => []
  | (key, x) :: rest => (key, sortKeys x) :: sortEntries rest

end

/-- `json.dumps` with sorted keys and compact separators. -/
def dumps (j : Json) : String := String.ofList (print (sortKeys j))

/-! ## Reading -/

/-- The value of a hexadecimal digit. -/
def hexValue? (c : Char) : Option ℕ :=
  if c.isDigit then some (c.toNat - 48)
  else if 97 ≤ c.toNat ∧ c.toNat ≤ 102 then some (c.toNat - 87)
  else if 65 ≤ c.toNat ∧ c.toNat ≤ 70 then some (c.toNat - 55)
  else none

/-- Four hexadecimal digits. -/
def readHex4 (a b c d : Char) : Option ℕ :=
  match hexValue? a, hexValue? b, hexValue? c, hexValue? d with
  | some a, some b, some c, some d => some (a * 4096 + b * 256 + c * 16 + d)
  | _, _, _, _ => none

/-- The one-letter escapes. -/
def unescape (c : Char) : Option Char :=
  if c = '"' then some '"'
  else if c = '\\' then some '\\'
  else if c = '/' then some '/'
  else if c = 'b' then some '\x08'
  else if c = 'f' then some '\x0c'
  else if c = 'n' then some '\n'
  else if c = 'r' then some '\r'
  else if c = 't' then some '\t'
  else none

/-- A string after its opening quote.  A surrogate that is not part of a pair is not a
character. -/
def parseString : List Char → Option (List Char × List Char)
  | [] => none
  | '"' :: rest => some ([], rest)
  | '\\' :: 'u' :: a :: b :: c :: d :: rest =>
    match readHex4 a b c d with
    | none => none
    | some high =>
      if 55296 ≤ high ∧ high < 56320 then
        match rest with
        | '\\' :: 'u' :: a' :: b' :: c' :: d' :: rest' =>
          match readHex4 a' b' c' d' with
          | none => none
          | some low =>
            if 56320 ≤ low ∧ low < 57344 then
              (parseString rest').map fun p =>
                (Char.ofNat (65536 + (high - 55296) * 1024 + (low - 56320)) :: p.1, p.2)
            else none
        | _ => none
      else if 56320 ≤ high ∧ high < 57344 then none
      else (parseString rest).map fun p => (Char.ofNat high :: p.1, p.2)
  | '\\' :: c :: rest =>
    match unescape c with
    | none => none
    | some plain => (parseString rest).map fun p => (plain :: p.1, p.2)
  | c :: rest =>
    if c.toNat < 32 ∨ c = '\\' then none
    else (parseString rest).map fun p => (c :: p.1, p.2)

/-- Digits without a leading zero. -/
def readDigits (digits : List Char) : Option ℕ :=
  let n := Nat.ofDigitChars 10 digits 0
  if Nat.toDigits 10 n = digits then some n else none

/-- An integer. -/
def readInt (chars : List Char) : Option ℤ :=
  match chars with
  | '-' :: digits => (readDigits digits).map fun n => -(n : ℤ)
  | digits => (readDigits digits).map fun n => (n : ℤ)

/-- A number: the longest run of number characters. -/
def parseNumber (chars : List Char) : Option (Json × List Char) :=
  let token := chars.takeWhile numberChar
  let rest := chars.dropWhile numberChar
  if h : isFloat token = true then some (.float ⟨token, h⟩, rest)
  else (readInt token).map fun n => (.int n, rest)

/-- Blanks between tokens. -/
def isBlank (c : Char) : Bool := c ∈ [' ', '\t', '\n', '\r']

/-- The text after its leading blanks. -/
def skipBlanks (chars : List Char) : List Char := chars.dropWhile isBlank

/-- What becomes of the entries of an object, as `object_pairs_hook`; `none` refuses them. -/
abbrev PairsHook := List (String × Json) → Option (List (String × Json))

/-- The last of several equal keys wins, as without a hook. -/
def lastWins : PairsHook := fun entries => some (Dict.ofList entries).items

/-- Equal keys are refused. -/
def uniqueKeys : PairsHook := fun entries =>
  if (entries.map Prod.fst).Nodup then some entries else none

section Parser

variable (hook : PairsHook)

mutual

/-- A value at the start of a text, and what follows it. -/
def parseValue : ℕ → List Char → Option (Json × List Char)
  | 0, _ => none
  | _ + 1, [] => none
  | fuel + 1, c :: rest =>
    if c = '"' then (parseString rest).map fun p => (.str (String.ofList p.1), p.2)
    else if c = '[' then
      match skipBlanks rest with
      | ']' :: rest' => some (.arr [], rest')
      | first =>
        match parseValue fuel first with
        | none => none
        | some (x, more) =>
          (parseItems fuel more).map fun p => (.arr (x :: p.1), p.2)
    else if c = '{' then
      match skipBlanks rest with
      | '}' :: rest' => some (.obj [], rest')
      | first =>
        match parseMember fuel first with
        | none => none
        | some (entry, more) =>
          (parseEntries fuel more).bind fun p =>
            (hook (entry :: p.1)).map fun entries => (.obj entries, p.2)
    else if c = 'n' then
      match rest with
      | 'u' :: 'l' :: 'l' :: rest' => some (.null, rest')
      | _ => none
    else if c = 't' then
      match rest with
      | 'r' :: 'u' :: 'e' :: rest' => some (.bool true, rest')
      | _ => none
    else if c = 'f' then
      match rest with
      | 'a' :: 'l' :: 's' :: 'e' :: rest' => some (.bool false, rest')
      | _ => none
    else parseNumber (c :: rest)

/-- The rest of an array after one of its items. -/
def parseItems : ℕ → List Char → Option (List Json × List Char)
  | 0, _ => none
  | fuel + 1, chars =>
    match skipBlanks chars with
    | ']' :: rest => some ([], rest)
    | ',' :: rest =>
      match parseValue fuel (skipBlanks rest) with
      | none => none
      | some (x, more) => (parseItems fuel more).map fun p => (x :: p.1, p.2)
    | _ => none

/-- One entry of an object. -/
def parseMember : ℕ → List Char → Option ((String × Json) × List Char)
  | 0, _ => none
  | fuel + 1, chars =>
    match chars with
    | '"' :: rest =>
      match parseString rest with
      | none => none
      | some (key, more) =>
        match skipBlanks more with
        | ':' :: value =>
          (parseValue fuel (skipBlanks value)).map fun p =>
            ((String.ofList key, p.1), p.2)
        | _ => none
    | _ => none

/-- The rest of an object after one of its entries. -/
def parseEntries : ℕ → List Char → Option (List (String × Json) × List Char)
  | 0, _ => none
  | fuel + 1, chars =>
    match skipBlanks chars with
    | '}' :: rest => some ([], rest)
    | ',' :: rest =>
      match parseMember fuel (skipBlanks rest) with
      | none => none
      | some (entry, more) => (parseEntries fuel more).map fun p => (entry :: p.1, p.2)
    | _ => none

end

/-- One value, with blanks around it. -/
def parseWith (chars : List Char) : Option Json :=
  match parseValue hook (chars.length + 1) (skipBlanks chars) with
  | none => none
  | some (j, rest) => if skipBlanks rest = [] then some j else none

end Parser

/-- `json.loads` on characters. -/
def parse (chars : List Char) : Option Json := parseWith lastWins chars

/-- `json.loads`. -/
def loads (text : String) : Option Json := parse text.toList

/-- `json.loads` that refuses equal keys in an object. -/
def loadsUnique (text : String) : Option Json := parseWith uniqueKeys text.toList

/-! ## Fields -/

/-- A field of an object. -/
def get? (j : Json) (key : String) : Option Json :=
  match j with
  | .obj entries => Dict.lookupIn key entries
  | _ => none

/-- The keys of an object. -/
def keys : Json → List String
  | .obj entries => entries.map Prod.fst
  | _ => []

/-- An object without one of its fields. -/
def without (j : Json) (key : String) : Json :=
  match j with
  | .obj entries => .obj (entries.filter fun entry => entry.1 ≠ key)
  | j => j

/-! ## Numbers and truth -/

/-- The number after an `e`, and zero where there is none. -/
def exponent (chars : List Char) : ℤ :=
  match chars with
  | [] => 0
  | _ :: '-' :: digits => -(Nat.ofDigitChars 10 digits 0 : ℤ)
  | _ :: '+' :: digits => Nat.ofDigitChars 10 digits 0
  | _ :: digits => Nat.ofDigitChars 10 digits 0

/-- The number a text spells. -/
def floatValue (x : FloatText) : ℚ :=
  let body := if x.chars.head? = some '-' then x.chars.tail else x.chars
  let whole := body.takeWhile Char.isDigit
  let rest := body.dropWhile Char.isDigit
  let fraction := match rest with
    | '.' :: rest => rest.takeWhile Char.isDigit
    | _ => []
  let scale := match rest with
    | '.' :: rest => exponent (rest.dropWhile Char.isDigit)
    | _ => exponent rest
  let mantissa : ℚ := Nat.ofDigitChars 10 (whole ++ fraction) 0
  (if x.chars.head? = some '-' then -mantissa else mantissa) *
    10 ^ (scale - (fraction.length : ℤ))

/-- The number of a value that counts as one; a truth value counts as 0 or 1. -/
def number? : Json → Option ℚ
  | .bool b => some (if b then 1 else 0)
  | .int n => some n
  | .float x => some (floatValue x)
  | _ => none

/-- Does the value count as true? -/
def truthy : Json → Bool
  | .null => false
  | .bool b => b
  | .int n => n ≠ 0
  | .float x => floatValue x ≠ 0
  | .str s => s ≠ ""
  | .arr items => !items.isEmpty
  | .obj entries => !entries.isEmpty

/-- A number that does not count as true is zero. -/
theorem number?_of_not_truthy {j : Json} {q : ℚ} (h : j.number? = some q)
    (hfalse : j.truthy = false) : q = 0 := by
  cases j with
  | bool b =>
    cases hfalse
    cases h
    rfl
  | int n =>
    have hzero : n = 0 := not_not.mp (of_decide_eq_false hfalse)
    cases h
    exact hzero ▸ Int.cast_zero
  | float x =>
    have hzero : floatValue x = 0 := not_not.mp (of_decide_eq_false hfalse)
    cases h
    exact hzero
  | null | str _ | arr _ | obj _ => cases h

example : loads "\x7b \"a\": [1, -2.5e+10, \"x\\u00e9\\ud83d\\ude00\"], \"a\": null \x7d" =
    some (.obj [("a", .null)]) := by
  decide +kernel

end Json

end ChronosHFT
