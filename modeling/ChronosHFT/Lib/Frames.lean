import Mathlib

/-!
# Framed records

A file of records, each written as its length in four bytes, the payload, and a
checksum of the payload in four bytes.

`readFrames` reads such a file from the start.  It answers with the payloads up to the
first frame that is torn, has an unacceptable length or a wrong checksum, and says what
was wrong with that one.  **A sequence of frames is read back as the sequence of
payloads**, whatever follows it (`readFrames_append`).
-/

namespace ChronosHFT

open List

/-- The bytes of a file. -/
abbrev Bytes := List UInt8

namespace Frames

/-- A number below `2 ^ 32` in four bytes, the most significant first. -/
def be32 (n : ℕ) : Bytes :=
  [UInt8.ofNat (n / 16777216), UInt8.ofNat (n / 65536), UInt8.ofNat (n / 256), UInt8.ofNat n]

/-- Four bytes as a number. -/
def ofBE (bytes : Bytes) : ℕ := bytes.foldl (fun n b => n * 256 + b.toNat) 0

/-- One record. -/
def frame (checksum : Bytes → UInt32) (payload : Bytes) : Bytes :=
  be32 payload.length ++ payload ++ be32 (checksum payload).toNat

/-- What is wrong with a frame. -/
inductive FrameError where
  | tornLength
  | invalidLength (length : ℕ)
  | tornPayload
  | checksum
deriving DecidableEq, Repr

/-- The loop of `readFrames`; the fuel bounds the number of frames. -/
def readLoop (checksum : Bytes → UInt32) (maxLength : ℕ) :
    ℕ → Bytes → List Bytes × Option FrameError
  | 0, _ => ([], none)
  | fuel + 1, bytes =>
    if bytes = [] then ([], none)
    else if bytes.length < 4 then ([], some .tornLength)
    else
      let length := ofBE (bytes.take 4)
      if length = 0 ∨ maxLength < length then ([], some (.invalidLength length))
      else
        let body := bytes.drop 4
        if body.length < length + 4 then ([], some .tornPayload)
        else
          let payload := body.take length
          let after := body.drop length
          if ofBE (after.take 4) ≠ (checksum payload).toNat then ([], some .checksum)
          else
            let rest := readLoop checksum maxLength fuel (after.drop 4)
            (payload :: rest.1, rest.2)

/-- The payloads of a file, and what ended the reading early. -/
def readFrames (checksum : Bytes → UInt32) (maxLength : ℕ) (bytes : Bytes) :
    List Bytes × Option FrameError :=
  readLoop checksum maxLength (bytes.length + 1) bytes

@[simp] theorem length_be32 (n : ℕ) : (be32 n).length = 4 := rfl

theorem ofBE_be32 {n : ℕ} (h : n < 4294967296) : ofBE (be32 n) = n := by
  simp only [ofBE, be32, foldl_cons, foldl_nil, UInt8.toNat_ofNat']
  omega

theorem length_frame (checksum : Bytes → UInt32) (payload : Bytes) :
    (frame checksum payload).length = payload.length + 8 := by
  simp only [frame, length_append, length_be32]
  omega

section Reading

variable (checksum : Bytes → UInt32) {maxLength : ℕ}

/-- A payload that may be framed. -/
structure Fits (maxLength : ℕ) (payload : Bytes) : Prop where
  nonempty : payload ≠ []
  length_le : payload.length ≤ maxLength
  length_lt : payload.length < 4294967296

/-- The frame at the start of a file. -/
theorem readLoop_frame {payload : Bytes} (h : Fits maxLength payload) (fuel : ℕ) (rest : Bytes) :
    readLoop checksum maxLength (fuel + 1) (frame checksum payload ++ rest) =
      (payload :: (readLoop checksum maxLength fuel rest).1,
        (readLoop checksum maxLength fuel rest).2) := by
  have hlength := ofBE_be32 h.length_lt
  have hpositive := length_pos_of_ne_nil h.nonempty
  have htail : frame checksum payload ++ rest =
      be32 payload.length ++ (payload ++ (be32 (checksum payload).toNat ++ rest)) := by
    simp only [frame, append_assoc]
  have htake : ∀ (n : ℕ) (tail : Bytes), (be32 n ++ tail).take 4 = be32 n := fun n tail => rfl
  have hdrop : ∀ (n : ℕ) (tail : Bytes), (be32 n ++ tail).drop 4 = tail := fun n tail => rfl
  rw [htail, readLoop]
  rw [if_neg (by simp [be32]), if_neg (by simp only [length_append, length_be32]; omega)]
  simp only [htake, hdrop, hlength]
  rw [if_neg (by have := h.length_le; omega),
    if_neg (by simp only [length_append, length_be32]; omega)]
  rw [take_left, drop_left, htake, hdrop, ofBE_be32 (checksum payload).toNat_lt,
    if_neg (by simp)]

theorem readLoop_fuel {bytes : Bytes} : ∀ {fuel more : ℕ}, bytes.length < fuel → fuel ≤ more →
    readLoop checksum maxLength more bytes = readLoop checksum maxLength fuel bytes := by
  intro fuel
  induction fuel generalizing bytes with
  | zero =>
    intro more h _
    cases h
  | succ fuel ih =>
    intro more h hmore
    obtain ⟨more, rfl⟩ := Nat.exists_eq_succ_of_ne_zero (show more ≠ 0 by omega)
    rw [readLoop, readLoop]
    split
    · rfl
    split
    · rfl
    simp only
    split
    · rfl
    split
    · rfl
    split
    · rfl
    next hempty hshort hvalid hbody hsum =>
      rw [ih (by simp only [length_drop] at hbody ⊢; omega) (by omega)]

/-- **Frames are read back**, whatever follows them. -/
theorem readFrames_append {payloads : List Bytes}
    (h : ∀ payload ∈ payloads, Fits maxLength payload)
    (rest : Bytes) :
    readFrames checksum maxLength (payloads.flatMap (frame checksum) ++ rest) =
      (payloads ++ (readFrames checksum maxLength rest).1,
        (readFrames checksum maxLength rest).2) := by
  induction payloads with
  | nil => rfl
  | cons payload more ih =>
    have hrest := ih fun p hp => h p (mem_cons_of_mem _ hp)
    have hlength := length_frame checksum payload
    rw [flatMap_cons, append_assoc]
    unfold readFrames at hrest ⊢
    rw [readLoop_frame checksum (h payload mem_cons_self),
      readLoop_fuel checksum (Nat.lt_succ_self _)
        (by simp only [length_append]; omega), hrest]
    rfl

/-- A file of frames is read completely. -/
theorem readFrames_frames {payloads : List Bytes}
    (h : ∀ payload ∈ payloads, Fits maxLength payload) :
    readFrames checksum maxLength (payloads.flatMap (frame checksum)) = (payloads, none) := by
  have hread := readFrames_append checksum h []
  rw [append_nil] at hread
  rw [hread]
  show (payloads ++ [], none) = _
  rw [append_nil]

end Reading

end Frames

end ChronosHFT
