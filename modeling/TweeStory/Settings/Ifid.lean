/-
Generated IFIDs, which are random numbers in the form of a UUID of version 4.

* `Ifid.ofBytes`: the IFID of random bytes.
-/
import TweeStory.Text.Basic

namespace TweeStory.Ifid

/-- The sixteen bytes of a UUID of version 4 from as many random ones: the seventh
tells the version, the ninth the variant. -/
def versioned (bytes : List Nat) : List Nat :=
  bytes.mapIdx fun i b =>
    if i = 6 then b % 16 + 0x40 else if i = 8 then b % 64 + 0x80 else b % 256

/-- A digit in upper case. -/
def digit (n : Nat) : Char :=
  Char.ofNat (if n < 10 then '0'.toNat + n else 'A'.toNat + (n - 10))

/-- A byte in two digits. -/
def byteText (b : Nat) : Text :=
  [digit (b / 16), digit (b % 16)]

/-- The IFID of sixteen random bytes, in five groups of digits. -/
def ofBytes (bytes : List Nat) : Text :=
  let digits := (versioned bytes).flatMap byteText
  Text.join ['-']
    [digits.take 8, (digits.drop 8).take 4, (digits.drop 12).take 4, (digits.drop 16).take 4,
      digits.drop 20]

end TweeStory.Ifid
