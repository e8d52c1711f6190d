/- SHA-1 message digests (FIPS 180-4) over byte lists. Keys that are too long to keep whole are
   cut and tagged with the start of their digest, so two long keys that share a prefix stay
   apart. The digest arithmetic is 32-bit word arithmetic, which wraps by definition. -/
namespace RequestFirewall.Digest

structure Sha1State where
  h0 : UInt32
  h1 : UInt32
  h2 : UInt32
  h3 : UInt32
  h4 : UInt32

namespace Sha1

def initial : Sha1State := ⟨0x67452301, 0xEFCDAB89, 0x98BADCFE, 0x10325476, 0xC3D2E1F0⟩

def rotl (x : UInt32) (n : UInt32) : UInt32 := (x <<< n) ||| (x >>> (32 - n))

def word (b0 b1 b2 b3 : UInt8) : UInt32 :=
  (b0.toUInt32 <<< 24) ||| (b1.toUInt32 <<< 16) ||| (b2.toUInt32 <<< 8) ||| b3.toUInt32

def blockWords (block : List UInt8) : List UInt32 :=
  (List.range 16).map fun i =>
    word (block.getD (4 * i) 0) (block.getD (4 * i + 1) 0) (block.getD (4 * i + 2) 0)
      (block.getD (4 * i + 3) 0)

def schedule (ws : List UInt32) : Array UInt32 :=
  (List.range 64).foldl
    (fun acc i =>
      acc.push (rotl (acc.getD (i + 13) 0 ^^^ acc.getD (i + 8) 0 ^^^ acc.getD (i + 2) 0 ^^^
        acc.getD i 0) 1))
    ws.toArray

def mix (i : Nat) (b c d : UInt32) : UInt32 × UInt32 :=
  if i < 20 then ((b &&& c) ||| (~~~b &&& d), 0x5A827999)
  else if i < 40 then (b ^^^ c ^^^ d, 0x6ED9EBA1)
  else if i < 60 then ((b &&& c) ||| (b &&& d) ||| (c &&& d), 0x8F1BBCDC)
  else (b ^^^ c ^^^ d, 0xCA62C1D6)

def compress (s : Sha1State) (block : List UInt8) : Sha1State :=
  let w := schedule (blockWords block)
  let final := (List.range 80).foldl
    (fun (v : UInt32 × UInt32 × UInt32 × UInt32 × UInt32) i =>
      let (a, b, c, d, e) := v
      let (f, k) := mix i b c d
      (rotl a 5 + f + e + k + w.getD i 0, a, rotl b 30, c, d))
    (s.h0, s.h1, s.h2, s.h3, s.h4)
  let (a, b, c, d, e) := final
  ⟨s.h0 + a, s.h1 + b, s.h2 + c, s.h3 + d, s.h4 + e⟩

def lengthBytes (n : Nat) : List UInt8 :=
  (List.range 8).reverse.map fun i => (n / Nat.pow 2 (8 * i) % 256).toUInt8

/-- The message followed by the marker byte, zero fill and its bit length, a whole number
    of 64-byte blocks. -/
def pad (msg : List UInt8) : List UInt8 :=
  let fill := (119 - msg.length % 64) % 64
  msg ++ [0x80] ++ List.replicate fill 0 ++ lengthBytes (8 * msg.length)

def blocks (msg : List UInt8) : List (List UInt8) :=
  let padded := pad msg
  (List.range (padded.length / 64)).map fun i => (padded.drop (64 * i)).take 64

def stateBytes (s : Sha1State) : List UInt8 :=
  [s.h0, s.h1, s.h2, s.h3, s.h4].flatMap fun (w : UInt32) =>
    [(w >>> 24).toUInt8, (w >>> 16).toUInt8, (w >>> 8).toUInt8, w.toUInt8]

def digest (msg : List UInt8) : List UInt8 :=
  stateBytes ((blocks msg).foldl compress initial)

def hexDigit (n : Nat) : Char :=
  if n < 10 then Char.ofNat ('0'.toNat + n) else Char.ofNat ('a'.toNat + n - 10)

def hex (bytes : List UInt8) : String :=
  String.ofList (bytes.flatMap fun b => [hexDigit (b.toNat / 16), hexDigit (b.toNat % 16)])

def hexDigest (s : String) : String := hex (digest s.toUTF8.toList)

theorem pad_length_mod (msg : List UInt8) : (pad msg).length % 64 = 0 := by
  simp only [pad, List.length_append, List.length_singleton, List.length_replicate]
  have eight : (lengthBytes (8 * msg.length)).length = 8 := by simp [lengthBytes]
  omega

end Sha1

end RequestFirewall.Digest
