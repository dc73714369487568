import Relay.Userland.Tool

/-!
# Digests

The MD5 digest of some bytes: sixteen bytes that look random and depend on all of them.
-/

namespace Relay.Userland.Digest

/-- The four words that are mixed. -/
structure Words where
  a : UInt32 := 0x67452301
  b : UInt32 := 0xefcdab89
  c : UInt32 := 0x98badcfe
  d : UInt32 := 0x10325476

/-- The constants that the rounds add: parts of the sines of the numbers from one on. -/
def constants : List UInt32 :=
  [0xd76aa478, 0xe8c7b756, 0x242070db, 0xc1bdceee, 0xf57c0faf, 0x4787c62a, 0xa8304613, 0xfd469501,
    0x698098d8, 0x8b44f7af, 0xffff5bb1, 0x895cd7be, 0x6b901122, 0xfd987193, 0xa679438e, 0x49b40821,
    0xf61e2562, 0xc040b340, 0x265e5a51, 0xe9b6c7aa, 0xd62f105d, 0x02441453, 0xd8a1e681, 0xe7d3fbc8,
    0x21e1cde6, 0xc33707d6, 0xf4d50d87, 0x455a14ed, 0xa9e3e905, 0xfcefa3f8, 0x676f02d9, 0x8d2a4c8a,
    0xfffa3942, 0x8771f681, 0x6d9d6122, 0xfde5380c, 0xa4beea44, 0x4bdecfa9, 0xf6bb4b60, 0xbebfbc70,
    0x289b7ec6, 0xeaa127fa, 0xd4ef3085, 0x04881d05, 0xd9d4d039, 0xe6db99e5, 0x1fa27cf8, 0xc4ac5665,
    0xf4292244, 0x432aff97, 0xab9423a7, 0xfc93a039, 0x655b59c3, 0x8f0ccc92, 0xffeff47d, 0x85845dd1,
    0x6fa87e4f, 0xfe2ce6e0, 0xa3014314, 0x4e0811a1, 0xf7537e82, 0xbd3af235, 0x2ad7d2bb, 0xeb86d391]

/-- By how many bits the steps of each round turn their sums. -/
def turns : List (List UInt32) := [[7, 12, 17, 22], [5, 9, 14, 20], [4, 11, 16, 23], [6, 10, 15, 21]]

/-- A word whose bits are turned to the left. -/
def turned (x n : UInt32) : UInt32 := (x <<< n) ||| (x >>> (32 - n))

def step (block : List UInt32) (w : Words) (k : Nat) : Words :=
  let (mixed, place) := match k / 16 with
    | 0 => ((w.b &&& w.c) ||| (~~~w.b &&& w.d), k)
    | 1 => ((w.d &&& w.b) ||| (~~~w.d &&& w.c), 5 * k + 1)
    | 2 => (w.b ^^^ w.c ^^^ w.d, 3 * k + 5)
    | _ => (w.c ^^^ (w.b ||| ~~~w.d), 7 * k)
  let sum := w.a + mixed + constants.getD k 0 + block.getD (place % 16) 0
  let turn := (turns.getD (k / 16) []).getD (k % 4) 0
  { a := w.d, b := w.b + turned sum turn, c := w.b, d := w.c }

def absorb (w : Words) (block : List UInt32) : Words :=
  let r := (List.range 64).foldl (step block) w
  { a := w.a + r.a, b := w.b + r.b, c := w.c + r.c, d := w.d + r.d }

/-- The bytes of a number, lowest first. -/
def bytesOf (count n : Nat) : Bytes :=
  (List.range count).map fun k => UInt8.ofNat (n / Nat.pow 256 k)

/-- The words of some bytes, of which there are at most `n`. -/
def wordsOf : Nat → Bytes → List UInt32
  | 0, _ => []
  | n + 1, b =>
    if b.isEmpty then []
    else
      let word := (b.take 4).foldr (fun x n => n * 256 + x.toNat) 0
      UInt32.ofNat word :: wordsOf n (b.drop 4)

/-- The words after all blocks of sixteen, of which there are at most `n`. -/
def absorbAll : Nat → Words → List UInt32 → Words
  | 0, w, _ => w
  | n + 1, w, ws => if ws.isEmpty then w else absorbAll n (absorb w (ws.take 16)) (ws.drop 16)

def of (b : Bytes) : Bytes :=
  let gap := (119 - b.length % 64) % 64
  let whole := b ++ 128 :: List.replicate gap 0 ++ bytesOf 8 (8 * b.length)
  let ws := wordsOf whole.length whole
  let w := absorbAll ws.length {} ws
  [w.a, w.b, w.c, w.d].flatMap fun x => bytesOf 4 x.toNat

end Relay.Userland.Digest
