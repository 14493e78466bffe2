import Taskflow.Digest.Sha1
/-!
The half-MD4 hash of a name, by which a hashed directory orders its entries.
-/

namespace Taskflow.Digest

def halfMd4Start : List UInt32 := [0x67452301, 0xEFCDAB89, 0x98BADCFE, 0x10325476]

/-- A byte as the hash reads it: bytes from 128 up stand for negative numbers. -/
def signedByte (b : UInt8) : UInt32 := if b < 128 then b.toUInt32 else b.toUInt32 + 0xFFFFFF00

/-- The padding word for `n` bytes left: `n` in each byte, for names of fewer than 256 bytes. -/
def padWord (n : Nat) : UInt32 :=
  let p := n.toUInt32 ||| (n.toUInt32 <<< 8)
  p ||| (p <<< 16)

/-- The first `num` words of a piece: each the padding word with the next four bytes shifted
in, the padding word alone once the bytes run out. -/
def packWords (pad : UInt32) : List UInt8 → Nat → List UInt32
  | _, 0 => []
  | bs, num + 1 => (bs.take 4).foldl (fun v b => (v <<< 8) + signedByte b) pad :: packWords pad (bs.drop 4) num

/-- The three mixing functions of MD4 and the constants of their rounds. -/
def halfMd4Rounds : List ((UInt32 → UInt32 → UInt32 → UInt32) × UInt32 × List (Nat × UInt32)) :=
  [(fun x y z => z ^^^ (x &&& (y ^^^ z)), 0,
     [(0, 3), (1, 7), (2, 11), (3, 19), (4, 3), (5, 7), (6, 11), (7, 19)]),
   (fun x y z => (x &&& y) + ((x ^^^ y) &&& z), 0x5A827999,
     [(1, 3), (3, 5), (5, 9), (7, 13), (0, 3), (2, 5), (4, 9), (6, 13)]),
   (fun x y z => x ^^^ y ^^^ z, 0x6ED9EBA1,
     [(3, 3), (7, 9), (2, 11), (6, 15), (1, 3), (5, 9), (0, 11), (4, 15)])]

/-- The state after folding in one piece of eight words. Each step mixes the first word of
the four with the other three and a word of the piece, then the words turn one place, so that
after four steps they stand where they started. -/
def halfMd4Fold (state : List UInt32) (w : List UInt32) : List UInt32 :=
  match state with
  | [h0, h1, h2, h3] =>
    let (a, b, c, d) := halfMd4Rounds.foldl (fun acc (f, k, steps) =>
      steps.foldl (fun (a, b, c, d) (i, s) => (d, rotl (a + f b c d + w.getD i 0 + k) s, b, c)) acc)
      (h0, h1, h2, h3)
    [h0 + a, h1 + b, h2 + c, h3 + d]
  | s => s

/-- The state after folding in every piece of 32 bytes of a name. -/
def halfMd4Pieces (state : List UInt32) (bytes : List UInt8) : List UInt32 :=
  if bytes.isEmpty then state
  else halfMd4Pieces (halfMd4Fold state (packWords (padWord bytes.length) bytes 8)) (bytes.drop 32)
termination_by bytes.length
decreasing_by
  cases bytes with
  | nil => contradiction
  | cons b bs => simp only [List.length_drop, List.length_cons]; omega

/-- The major and minor hash of a name. The major hash is even, and never the largest even
word, which marks the end of a listing. -/
def nameHash (name : String) : UInt32 × UInt32 :=
  let st := halfMd4Pieces halfMd4Start name.toUTF8.toList
  let major := st.getD 1 0 &&& 0xFFFFFFFE
  (if major == 0xFFFFFFFE then 0xFFFFFFFC else major, st.getD 2 0)

/-- One name is listed before another: by major hash, then minor hash. -/
def hashedBefore (x y : String) : Bool :=
  let (a, b) := nameHash x
  let (c, d) := nameHash y
  a < c || (a == c && b ≤ d)

end Taskflow.Digest
