/-!
The SHA-1 digest of FIPS 180-4: a message is padded to whole blocks of 64 bytes, each block is
spread into a schedule of eighty words, and eighty rounds fold every block into a state of five
words. The digest is the final state written as forty lower-case hexadecimal digits.
-/

namespace Taskflow.Digest

/-- The state before the first block (FIPS 180-4, section 5.3.1). -/
def sha1Start : List UInt32 := [0x67452301, 0xEFCDAB89, 0x98BADCFE, 0x10325476, 0xC3D2E1F0]

def rotl (x : UInt32) (n : UInt32) : UInt32 := (x <<< n) ||| (x >>> (32 - n))

def wordOf (b0 b1 b2 b3 : UInt8) : UInt32 :=
  (b0.toUInt32 <<< 24) ||| (b1.toUInt32 <<< 16) ||| (b2.toUInt32 <<< 8) ||| b3.toUInt32

/-- The big-endian words of a block; a short tail is dropped. -/
def wordsOf : List UInt8 → List UInt32
  | b0 :: b1 :: b2 :: b3 :: rest => wordOf b0 b1 b2 b3 :: wordsOf rest
  | _ => []

/-- The eight bytes of a message length in bits, most significant first. -/
def lengthBytes (bytes : Nat) : List UInt8 :=
  (List.range 8).reverse.map fun i => UInt8.ofNat ((bytes * 8) / Nat.pow 2 (8 * i))

/-- The message, a one bit, zeros up to 56 bytes past a whole block, and the length. -/
def pad (msg : List UInt8) : List UInt8 :=
  msg ++ [0x80] ++ List.replicate ((119 - msg.length % 64) % 64) 0 ++ lengthBytes msg.length

/-- The blocks of 64 bytes of a padded message. -/
def blocksOf (bytes : List UInt8) : List (List UInt8) :=
  if h : bytes.length ≤ 64 then (if bytes.isEmpty then [] else [bytes])
  else bytes.take 64 :: blocksOf (bytes.drop 64)
termination_by bytes.length
decreasing_by simp; omega

/-- The eighty words of a block's schedule: its sixteen words, then each new word the rotated
sum of four earlier ones. -/
def schedule (block : List UInt8) : Array UInt32 := Id.run do
  let mut w := (wordsOf block).toArray
  for t in [16:80] do
    let x := w.getD (t - 3) 0 ^^^ w.getD (t - 8) 0 ^^^ w.getD (t - 14) 0 ^^^ w.getD (t - 16) 0
    w := w.push (rotl x 1)
  return w

/-- The round function and constant of round `t`. -/
def roundMix (t : Nat) (b c d : UInt32) : UInt32 × UInt32 :=
  if t < 20 then ((b &&& c) ||| (~~~b &&& d), 0x5A827999)
  else if t < 40 then (b ^^^ c ^^^ d, 0x6ED9EBA1)
  else if t < 60 then ((b &&& c) ||| (b &&& d) ||| (c &&& d), 0x8F1BBCDC)
  else (b ^^^ c ^^^ d, 0xCA62C1D6)

/-- The state after folding one block into it. -/
def compress (state : List UInt32) (block : List UInt8) : List UInt32 :=
  let w := schedule block
  match state with
  | [h0, h1, h2, h3, h4] =>
    let (a, b, c, d, e) := (List.range 80).foldl (fun (a, b, c, d, e) t =>
      let (f, k) := roundMix t b c d
      (rotl a 5 + f + e + k + w.getD t 0, a, rotl b 30, c, d)) (h0, h1, h2, h3, h4)
    [h0 + a, h1 + b, h2 + c, h3 + d, h4 + e]
  | s => s

/-- A word as eight lower-case hexadecimal digits. -/
def hexWord (x : UInt32) : String :=
  String.ofList ((List.range 8).reverse.map fun i =>
    let v := (x.toNat / Nat.pow 16 i) % 16
    if v < 10 then Char.ofNat (48 + v) else Char.ofNat (87 + v))

def sha1Bytes (msg : List UInt8) : String :=
  String.join (((blocksOf (pad msg)).foldl compress sha1Start).map hexWord)

def sha1 (s : String) : String := sha1Bytes s.toUTF8.toList

end Taskflow.Digest
