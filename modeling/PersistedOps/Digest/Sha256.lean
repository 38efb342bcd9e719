import PersistedOps.Text.Hex

/-!
The SHA-256 digest of a byte sequence.
-/

namespace PersistedOps.Sha256

/-- The fractional parts of the cube roots of the first sixty-four primes. -/
def roundConstants : List UInt32 := [
  0x428a2f98, 0x71374491, 0xb5c0fbcf, 0xe9b5dba5, 0x3956c25b, 0x59f111f1, 0x923f82a4, 0xab1c5ed5,
  0xd807aa98, 0x12835b01, 0x243185be, 0x550c7dc3, 0x72be5d74, 0x80deb1fe, 0x9bdc06a7, 0xc19bf174,
  0xe49b69c1, 0xefbe4786, 0x0fc19dc6, 0x240ca1cc, 0x2de92c6f, 0x4a7484aa, 0x5cb0a9dc, 0x76f988da,
  0x983e5152, 0xa831c66d, 0xb00327c8, 0xbf597fc7, 0xc6e00bf3, 0xd5a79147, 0x06ca6351, 0x14292967,
  0x27b70a85, 0x2e1b2138, 0x4d2c6dfc, 0x53380d13, 0x650a7354, 0x766a0abb, 0x81c2c92e, 0x92722c85,
  0xa2bfe8a1, 0xa81a664b, 0xc24b8b70, 0xc76c51a3, 0xd192e819, 0xd6990624, 0xf40e3585, 0x106aa070,
  0x19a4c116, 0x1e376c08, 0x2748774c, 0x34b0bcb5, 0x391c0cb3, 0x4ed8aa4a, 0x5b9cca4f, 0x682e6ff3,
  0x748f82ee, 0x78a5636f, 0x84c87814, 0x8cc70208, 0x90befffa, 0xa4506ceb, 0xbef9a3f7, 0xc67178f2]

/-- The eight working words. -/
structure Words where
  a : UInt32
  b : UInt32
  c : UInt32
  d : UInt32
  e : UInt32
  f : UInt32
  g : UInt32
  h : UInt32
deriving Repr, DecidableEq

/-- The fractional parts of the square roots of the first eight primes. -/
def Words.start : Words :=
  ⟨0x6a09e667, 0xbb67ae85, 0x3c6ef372, 0xa54ff53a, 0x510e527f, 0x9b05688c, 0x1f83d9ab, 0x5be0cd19⟩

def Words.add (x y : Words) : Words :=
  ⟨x.a + y.a, x.b + y.b, x.c + y.c, x.d + y.d, x.e + y.e, x.f + y.f, x.g + y.g, x.h + y.h⟩

def Words.toList (w : Words) : List UInt32 := [w.a, w.b, w.c, w.d, w.e, w.f, w.g, w.h]

def rotateRight (x : UInt32) (n : UInt32) : UInt32 := (x >>> n) ||| (x <<< (32 - n))

/-- One round, fed with a round constant and a schedule word. -/
def Words.round (w : Words) (constant scheduled : UInt32) : Words :=
  let s1 := rotateRight w.e 6 ^^^ rotateRight w.e 11 ^^^ rotateRight w.e 25
  let choice := (w.e &&& w.f) ^^^ (~~~w.e &&& w.g)
  let t1 := w.h + s1 + choice + constant + scheduled
  let s0 := rotateRight w.a 2 ^^^ rotateRight w.a 13 ^^^ rotateRight w.a 22
  let majority := (w.a &&& w.b) ^^^ (w.a &&& w.c) ^^^ (w.b &&& w.c)
  ⟨t1 + (s0 + majority), w.a, w.b, w.c, w.d + t1, w.e, w.f, w.g⟩

/-- The next schedule word, from the last sixteen with the oldest first. -/
def nextScheduled (w : List UInt32) : UInt32 :=
  match w with
  | w0 :: w1 :: _ :: _ :: _ :: _ :: _ :: _ :: _ :: w9 :: _ :: _ :: _ :: _ :: w14 :: _ =>
    let s0 := rotateRight w1 7 ^^^ rotateRight w1 18 ^^^ (w1 >>> 3)
    let s1 := rotateRight w14 17 ^^^ rotateRight w14 19 ^^^ (w14 >>> 10)
    w0 + s0 + w9 + s1
  | _ => 0

/-- The rounds of one block; `window` holds the sixteen schedule words that come next. -/
def rounds (window : List UInt32) (state : Words) : List UInt32 → Words
  | [] => state
  | constant :: constants =>
    match window with
    | [] => state
    | scheduled :: later =>
      rounds (later ++ [nextScheduled window]) (state.round constant scheduled) constants

def compress (state : Words) (block : List UInt32) : Words :=
  state.add (rounds block state roundConstants)

/-- Big-endian words of four bytes. -/
def toWords : List UInt8 → List UInt32
  | b0 :: b1 :: b2 :: b3 :: rest =>
    ((b0.toUInt32 <<< 24) ||| (b1.toUInt32 <<< 16) ||| (b2.toUInt32 <<< 8) ||| b3.toUInt32)
      :: toWords rest
  | _ => []

def wordBytes (w : UInt32) : List UInt8 :=
  [(w >>> 24).toUInt8, (w >>> 16).toUInt8, (w >>> 8).toUInt8, w.toUInt8]

/-- The message, a one bit, zero bits up to eight bytes short of a block's end, and the bit count. -/
def pad (message : List UInt8) : List UInt8 :=
  let count := message.length
  let zeros := (119 - count % 64) % 64
  let bits := UInt64.ofNat (8 * count)
  let shifts : List UInt64 := [56, 48, 40, 32, 24, 16, 8, 0]
  message ++ [(0x80 : UInt8)] ++ List.replicate zeros (0 : UInt8)
    ++ shifts.map fun shift => (bits >>> shift).toUInt8

/-- Absorbs the words sixteen at a time, `count` blocks of them. -/
def absorb (state : Words) : (count : Nat) → List UInt32 → Words
  | 0, _ => state
  | count + 1, words => absorb (compress state (words.take 16)) count (words.drop 16)

def digest (message : List UInt8) : List UInt8 :=
  let padded := pad message
  (absorb .start (padded.length / 64) (toWords padded)).toList.flatMap wordBytes

/-- The digest of a string's UTF-8 bytes, in hexadecimal. -/
def hexDigest (s : String) : String :=
  String.ofList (Hex.encode (digest s.toUTF8.data.toList))

end PersistedOps.Sha256
