/-!
# ChaCha stream

A reproducible stream of 64-bit words: the ChaCha block function with 12 rounds over a 64-bit block
counter, keyed by a seed. Each word takes two 32-bit words of a block, the low one first.
-/

namespace HybridStorage.ChaCha

/-- The 16 words of a block, kept as four rows. -/
abbrev Row := UInt32 × UInt32 × UInt32 × UInt32

structure Block where
  a : Row
  b : Row
  c : Row
  d : Row

def rotateLeft (x : UInt32) (n : UInt32) : UInt32 := (x <<< n) ||| (x >>> (32 - n))

/-- The quarter round on one word of each row. -/
def quarter (a b c d : UInt32) : UInt32 × UInt32 × UInt32 × UInt32 :=
  let a := a + b; let d := rotateLeft (d ^^^ a) 16
  let c := c + d; let b := rotateLeft (b ^^^ c) 12
  let a := a + b; let d := rotateLeft (d ^^^ a) 8
  let c := c + d; let b := rotateLeft (b ^^^ c) 7
  (a, b, c, d)

def Block.columns (s : Block) : Block :=
  let (a0, a1, a2, a3) := s.a
  let (b0, b1, b2, b3) := s.b
  let (c0, c1, c2, c3) := s.c
  let (d0, d1, d2, d3) := s.d
  let (a0, b0, c0, d0) := quarter a0 b0 c0 d0
  let (a1, b1, c1, d1) := quarter a1 b1 c1 d1
  let (a2, b2, c2, d2) := quarter a2 b2 c2 d2
  let (a3, b3, c3, d3) := quarter a3 b3 c3 d3
  ⟨(a0, a1, a2, a3), (b0, b1, b2, b3), (c0, c1, c2, c3), (d0, d1, d2, d3)⟩

def Row.turn : Row → Row
  | (x0, x1, x2, x3) => (x1, x2, x3, x0)

/-- A round down the columns and one down the diagonals. -/
def Block.doubleRound (s : Block) : Block :=
  let s := s.columns
  let s := Block.columns
    ⟨s.a, Row.turn s.b, Row.turn (Row.turn s.c), Row.turn (Row.turn (Row.turn s.d))⟩
  ⟨s.a, Row.turn (Row.turn (Row.turn s.b)), Row.turn (Row.turn s.c), Row.turn s.d⟩

def Block.rounds (s : Block) : Nat → Block
  | 0 => s
  | n + 1 => s.doubleRound.rounds n

def Row.add : Row → Row → Row
  | (x0, x1, x2, x3), (y0, y1, y2, y3) => (x0 + y0, x1 + y1, x2 + y2, x3 + y3)

def Row.words : Row → List UInt64
  | (x0, x1, x2, x3) =>
    [x0.toUInt64 ||| (x1.toUInt64 <<< 32), x2.toUInt64 ||| (x3.toUInt64 <<< 32)]

structure Key where
  low : Row
  high : Row

/-- The block of a key and a counter before the rounds. -/
def Key.block (k : Key) (counter : UInt64) : Block where
  a := (0x61707865, 0x3320646e, 0x79622d32, 0x6b206574)
  b := k.low
  c := k.high
  d := (counter.toUInt32, (counter >>> 32).toUInt32, 0, 0)

/-- The eight words that a block yields. -/
def Key.words (k : Key) (counter : UInt64) : List UInt64 :=
  let start := k.block counter
  let mixed := start.rounds 6
  (Row.add mixed.a start.a).words ++ (Row.add mixed.b start.b).words ++
    (Row.add mixed.c start.c).words ++ (Row.add mixed.d start.d).words

/-- One step of the congruential generator that spreads a seed, and the word it yields. -/
def spread (state : UInt64) : UInt32 × UInt64 :=
  let state := state * 6364136223846793005 + 11634580027462260723
  let word := (((state >>> 18) ^^^ state) >>> 27).toUInt32
  let turn := (state >>> 59).toUInt32
  (if turn = 0 then word else rotateLeft word (32 - turn), state)

def spreadRow (state : UInt64) : Row × UInt64 :=
  let (x0, state) := spread state
  let (x1, state) := spread state
  let (x2, state) := spread state
  let (x3, state) := spread state
  ((x0, x1, x2, x3), state)

def Key.ofSeed (seed : UInt64) : Key :=
  let (low, state) := spreadRow seed
  let (high, _) := spreadRow state
  ⟨low, high⟩

/-- A generator of words: the key, the counter of the next block, and the words left of the last. -/
structure Generator where
  key : Key
  counter : UInt64
  left : List UInt64

def Generator.ofSeed (seed : UInt64) : Generator := ⟨.ofSeed seed, 0, []⟩

def Generator.next (g : Generator) : UInt64 × Generator :=
  match g.left with
  | word :: left => (word, { g with left })
  | [] =>
    match g.key.words g.counter with
    | word :: left => (word, { g with counter := g.counter + 1, left })
    | [] => (0, g)

end HybridStorage.ChaCha
