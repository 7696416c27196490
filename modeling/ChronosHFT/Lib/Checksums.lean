import ChronosHFT.Lib.Frames

/-!
# Checksums

SHA-256 and CRC-32 of bytes, with words as natural numbers below `2 ^ 32`.
-/

namespace ChronosHFT

/-! ## SHA-256 -/

namespace Sha256

/-- The low 32 bits. -/
def word (n : ℕ) : ℕ := n % 4294967296

/-- Rotation to the right. -/
def rotr (n x : ℕ) : ℕ := (x >>> n) ||| word (x <<< (32 - n))

/-- The constants of the rounds. -/
def constants : List ℕ :=
  [0x428a2f98, 0x71374491, 0xb5c0fbcf, 0xe9b5dba5, 0x3956c25b, 0x59f111f1,
   0x923f82a4, 0xab1c5ed5, 0xd807aa98, 0x12835b01, 0x243185be, 0x550c7dc3,
   0x72be5d74, 0x80deb1fe, 0x9bdc06a7, 0xc19bf174, 0xe49b69c1, 0xefbe4786,
   0x0fc19dc6, 0x240ca1cc, 0x2de92c6f, 0x4a7484aa, 0x5cb0a9dc, 0x76f988da,
   0x983e5152, 0xa831c66d, 0xb00327c8, 0xbf597fc7, 0xc6e00bf3, 0xd5a79147,
   0x06ca6351, 0x14292967, 0x27b70a85, 0x2e1b2138, 0x4d2c6dfc, 0x53380d13,
   0x650a7354, 0x766a0abb, 0x81c2c92e, 0x92722c85, 0xa2bfe8a1, 0xa81a664b,
   0xc24b8b70, 0xc76c51a3, 0xd192e819, 0xd6990624, 0xf40e3585, 0x106aa070,
   0x19a4c116, 0x1e376c08, 0x2748774c, 0x34b0bcb5, 0x391c0cb3, 0x4ed8aa4a,
   0x5b9cca4f, 0x682e6ff3, 0x748f82ee, 0x78a5636f, 0x84c87814, 0x8cc70208,
   0x90befffa, 0xa4506ceb, 0xbef9a3f7, 0xc67178f2]

/-- The message with its padding: a one bit, zeros, and the length in bits. -/
def pad (message : Bytes) : Bytes :=
  message ++ 0x80 :: List.replicate ((119 - message.length % 64) % 64) 0 ++
    (Frames.be32 (8 * message.length / 4294967296) ++ Frames.be32 (8 * message.length))

/-- Bytes as words; a rest of fewer than four bytes is dropped. -/
def words : Bytes → List ℕ
  | a :: b :: c :: d :: rest =>
    (a.toNat * 16777216 + b.toNat * 65536 + c.toNat * 256 + d.toNat) :: words rest
  | _ => []

/-- More words of the message schedule; the latest word comes first. -/
def extend : ℕ → List ℕ → List ℕ
  | 0, schedule => schedule
  | n + 1, schedule =>
    let x := schedule.getD 14 0
    let y := schedule.getD 1 0
    let low := rotr 7 x ^^^ rotr 18 x ^^^ (x >>> 3)
    let high := rotr 17 y ^^^ rotr 19 y ^^^ (y >>> 10)
    extend n (word (schedule.getD 15 0 + low + schedule.getD 6 0 + high) :: schedule)

/-- The working variables. -/
structure State where
  a : ℕ
  b : ℕ
  c : ℕ
  d : ℕ
  e : ℕ
  f : ℕ
  g : ℕ
  h : ℕ

/-- The state before the first block. -/
def initial : State :=
  ⟨0x6a09e667, 0xbb67ae85, 0x3c6ef372, 0xa54ff53a, 0x510e527f,
    0x9b05688c, 0x1f83d9ab, 0x5be0cd19⟩

/-- One round. -/
def round (s : State) (constant scheduled : ℕ) : State :=
  let sigma1 := rotr 6 s.e ^^^ rotr 11 s.e ^^^ rotr 25 s.e
  let choice := (s.e &&& s.f) ^^^ ((4294967295 ^^^ s.e) &&& s.g)
  let first := s.h + sigma1 + choice + constant + scheduled
  let sigma0 := rotr 2 s.a ^^^ rotr 13 s.a ^^^ rotr 22 s.a
  let majority := (s.a &&& s.b) ^^^ (s.a &&& s.c) ^^^ (s.b &&& s.c)
  ⟨word (first + sigma0 + majority), s.a, s.b, s.c, word (s.d + first), s.e, s.f, s.g⟩

/-- The rounds of a block. -/
def rounds : State → List ℕ → List ℕ → State
  | s, constant :: constants, scheduled :: schedule =>
    rounds (round s constant scheduled) constants schedule
  | s, _, _ => s

/-- One block. -/
def compress (s : State) (block : List ℕ) : State :=
  let t := rounds s constants (extend 48 block.reverse).reverse
  ⟨word (s.a + t.a), word (s.b + t.b), word (s.c + t.c), word (s.d + t.d), word (s.e + t.e),
    word (s.f + t.f), word (s.g + t.g), word (s.h + t.h)⟩

/-- All blocks; the fuel bounds their number. -/
def blocks : ℕ → State → List ℕ → State
  | 0, s, _ => s
  | fuel + 1, s, message =>
    if message = [] then s else blocks fuel (compress s (message.take 16)) (message.drop 16)

/-- Eight hexadecimal digits. -/
def hex8 (n : ℕ) : List Char :=
  [n / 268435456, n / 16777216, n / 1048576, n / 65536, n / 4096, n / 256, n / 16, n].map
    fun digit => Nat.digitChar (digit % 16)

/-- The digest in hexadecimal digits. -/
def hexdigest (message : Bytes) : String :=
  let s := blocks message.length.succ initial (words (pad message))
  String.ofList ([s.a, s.b, s.c, s.d, s.e, s.f, s.g, s.h].flatMap hex8)

theorem length_hexdigest (message : Bytes) : (hexdigest message).length = 64 := by
  unfold hexdigest
  rw [String.length_ofList]
  rfl

theorem hexdigest_hex (message : Bytes) :
    ∀ c ∈ (hexdigest message).toList, c ∈ "0123456789abcdef".toList := by
  have hdigit : ∀ n < 16, Nat.digitChar n ∈ "0123456789abcdef".toList := by decide
  intro c hc
  unfold hexdigest at hc
  rw [String.toList_ofList, List.mem_flatMap] at hc
  obtain ⟨n, -, hn⟩ := hc
  obtain ⟨digit, -, rfl⟩ := List.mem_map.mp hn
  exact hdigit _ (Nat.mod_lt _ (by decide))

example : hexdigest [0x61, 0x62, 0x63] =
    "ba7816bf8f01cfea414140de5dae2223b00361a396177a9cb410ff61f20015ad" := by
  decide +kernel

end Sha256

/-! ## CRC-32 -/

namespace Crc32

/-- One bit. -/
def shift (crc : ℕ) : ℕ := if crc % 2 = 1 then (crc / 2) ^^^ 0xedb88320 else crc / 2

/-- One byte. -/
def update (crc : ℕ) (byte : UInt8) : ℕ :=
  shift (shift (shift (shift (shift (shift (shift (shift (crc ^^^ byte.toNat))))))))

/-- The checksum of bytes. -/
def crc32 (bytes : Bytes) : UInt32 :=
  UInt32.ofNat (bytes.foldl update 4294967295 ^^^ 4294967295)

example : crc32 [0x31, 0x32, 0x33, 0x34, 0x35, 0x36, 0x37, 0x38, 0x39] = 0xcbf43926 := by
  decide +kernel

end Crc32

end ChronosHFT
