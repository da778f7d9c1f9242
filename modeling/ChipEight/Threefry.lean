/-! # Random numbers

The generator behind the random-byte instruction is counter based: `block` enciphers a
two-word counter under a two-word key with the Threefry cipher of twenty rounds, and
nothing else is random.  A key is **split** into the key to go on with and a key to
draw from, so that a stream of bytes depends on the key it starts with alone.
-/
namespace ChipEight

/-- The state of the generator, which is also a value of the cipher: two words. -/
structure RandomKey where
  /-- The first word. -/
  first : UInt32
  /-- The second word. -/
  second : UInt32
  deriving DecidableEq, Repr

namespace Threefry

/-- A word turned left by `r` bits, for `r` from 1 to 31. -/
def rotateLeft (v r : UInt32) : UInt32 := (v <<< r) ||| (v >>> (32 - r))

/-- One round: add the second word to the first, then turn the second by `r` and mix the
first in. -/
def mix (v : RandomKey) (r : UInt32) : RandomKey :=
  let first := v.first + v.second
  ⟨first, rotateLeft v.second r ^^^ first⟩

/-- The turns of the groups of four rounds, alternately. -/
def rotations (group : Nat) : List UInt32 :=
  if group % 2 = 0 then [13, 15, 26, 6] else [17, 29, 16, 24]

/-- The third key word, which the other two determine. -/
def parity (k : RandomKey) : UInt32 := k.first ^^^ k.second ^^^ 0x1BD11BDA

/-- The key word of index `i`, counted in a circle of three. -/
def keyWord (k : RandomKey) (i : Nat) : UInt32 :=
  match i % 3 with
  | 0 => k.first
  | 1 => k.second
  | _ => parity k

/-- A group of four rounds and the key words added after it. -/
def group (k : RandomKey) (v : RandomKey) (i : Nat) : RandomKey :=
  let v := (rotations i).foldl mix v
  ⟨v.first + keyWord k (i + 1), v.second + keyWord k (i + 2) + UInt32.ofNat (i + 1)⟩

/-- The cipher: the counter `c` enciphered under the key `k`. -/
def block (k c : RandomKey) : RandomKey :=
  (List.range 5).foldl (group k) ⟨c.first + keyWord k 0, c.second + keyWord k 1⟩

end Threefry

namespace RandomKey

/-- The key for a seed: the seed's low 32 bits in the second word. -/
def ofSeed (seed : Int) : RandomKey := ⟨0, UInt32.ofNat (seed % 4294967296).toNat⟩

/-- The key to go on with after a byte has been drawn. -/
def next (k : RandomKey) : RandomKey := Threefry.block k ⟨0, 0⟩

/-- The key from which a byte is drawn. -/
def fork (k : RandomKey) : RandomKey := Threefry.block k ⟨0, 1⟩

/-- The byte a key yields.  It is drawn from the fork, so that it tells nothing of
the key to go on with. -/
def byte (k : RandomKey) : UInt8 :=
  let v := Threefry.block k.fork.fork ⟨0, 0⟩
  (v.first ^^^ v.second).toUInt8

end RandomKey

end ChipEight
