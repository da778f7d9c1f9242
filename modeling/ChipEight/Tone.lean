import ChipEight.Room
import ChipEight.Rounding

/-! # The tone

The tone is a square wave.  One period of it is enough, for it is played over and over:
the first half of the samples is high and the rest low.  Samples have sixteen bits
whatever the size of those that the mixer asks for, which only sets the amplitude.

A mixer may ask for more than can be computed with: the numbers are checked in the order in
which they are needed, and a `ToneError` says which of them was too large.  A wave is
described by its numbers, so that a long one is no more work than a short one; its samples
are the view `Wave.interleaved`.
-/
namespace ChipEight

/-- Why there is no tone for a mixer. -/
inductive ToneError where
  /-- No quotient of the sample rate can be computed. -/
  | rate
  /-- No amplitude can be computed from the loudest sample of this size. -/
  | size
  /-- The amplitude takes more than 64 bits. -/
  | amplitude
  /-- There is no room for the samples. -/
  | noRoom (why : Shortage)
  deriving DecidableEq, Repr

/-- The sentence for why there is no tone. -/
def ToneError.message : ToneError → String
  | rate => "the sample rate is too large"
  | size => "the sample size is too large"
  | amplitude => "the amplitude does not fit into 64 bits"
  | noRoom why => why.text

namespace Tone

/-- The pitch, in hertz. -/
def pitch : Nat := 440

/-- The number of significant bits in which numbers are held that are not integers. -/
def floatBits : Nat := 53

/-- The least number that no such number comes near. -/
def floatBound : Nat := Nat.pow 2 1024 - Nat.pow 2 970

/-- The number of samples in a period at a given sample rate; never less than two. -/
def period (rate : Int) : Nat := max 2 (roundDivInBits floatBits rate pitch).toNat

/-- The significand of a fifth, in units of two to the power -54. -/
def fifthSignificand : Nat := 3602879701896397

/-- The number of bits of the loudest sample of `size` bits, the sign of the size aside. -/
def loudestBits (size : Int) : Nat := size.natAbs - 1

/-- A fifth of the loudest sample of `size` bits, without the fraction.  A size above 54
bits makes the loudest sample a power of two, and the fifth is then the one that 53 bits can
hold. -/
def amplitude (size : Int) : Nat :=
  let bits := loudestBits size
  if bits < 54 then (Nat.pow 2 bits - 1) / 5 else fifthSignificand * Nat.pow 2 (bits - 54)

/-- One period, a sample for each channel at every moment.  Fewer than two channels are
one. -/
structure Wave where
  /-- The number of moments. -/
  length : Nat
  /-- The sample of the first half of the moments. -/
  high : Int16
  /-- The number of channels. -/
  channels : Nat
  deriving DecidableEq, Repr

/-- What a tone needs room for. -/
inductive Need where
  /-- The moments of a period. -/
  | moments (length : Nat)
  /-- Samples at so many moments for several channels. -/
  | samples (length : Nat) (channels : Int)
  deriving DecidableEq, Repr

/-- The wave for a mixer of the given sample rate, sample size and number of channels. -/
def wave (room : Room Need) (rate size channels : Int) : Except ToneError Wave := do
  if pitch * floatBound ≤ rate.natAbs then .error .rate
  if 1024 ≤ loudestBits size then .error .size
  (room.find (.moments (period rate))).mapError .noRoom
  if 9223372036854775808 ≤ amplitude size then .error .amplitude
  if 1 < channels then (room.find (.samples (period rate) channels)).mapError .noRoom
  return {
    length := period rate
    high := Int16.ofInt (amplitude size)
    channels := max 1 channels.toNat }

namespace Wave

variable (w : Wave)

/-- The number of moments in which the wave is high. -/
def highLength : Nat := w.length / 2

/-- The lengths of the wave: samples, and channels if there are several. -/
def shape : List Nat := if 1 < w.channels then [w.length, w.channels] else [w.length]

/-- The samples of one channel. -/
def samples : List Int16 :=
  List.replicate w.highLength w.high ++ List.replicate (w.length - w.highLength) (-w.high)

/-- The samples in the order in which they are played, those of one moment side by side. -/
def interleaved : List Int16 := w.samples.flatMap (List.replicate w.channels)

end Wave

example : period 44100 = 100 ∧ period 1100 = 2 ∧ period 1540 = 4 ∧ period 0 = 2 := by decide
example : amplitude (-16) = 6553 ∧ amplitude 0 = 0 := by decide

end Tone

end ChipEight
