import TestSynth.TestCase.Identity

/-!
# Keys of test cases

A key is a word of 64 bits computed from the fingerprint of a test case, so the
same test cases have the same key.  Different ones may share a key as well, and
therefore no key alone decides whether a collection has a test case.
-/

namespace TestSynth

namespace Key

/-- The key of nothing. -/
def start : UInt64 :=
  0

/-- Takes one more word into a key. -/
def absorb (key word : UInt64) : UInt64 :=
  ((key <<< 5 ||| key >>> 59) ^^^ word) * 0x517CC1B727220A95

/-- The key of a sequence of words. -/
def ofWords (words : List UInt64) : UInt64 :=
  words.foldl absorb start

/-- The sizes of the pieces in which bytes are taken in: eights as long as there
are so many bytes, and for the rest a four, a two and a one as far as they fit. -/
def pieceSizes (count : Nat) : List Nat :=
  List.replicate (count / 8) 8 ++ [4, 2, 1].filter fun size => count / size % 2 == 1

/-- Cuts bytes into pieces of the given sizes. -/
def cut : List Nat → List UInt8 → List (List UInt8)
  | [], _ => []
  | size :: sizes, bytes => bytes.take size :: cut sizes (bytes.drop size)

/-- The word whose lowest bytes are the given ones, the first one lowest. -/
def wordOfBytes (bytes : List UInt8) : UInt64 :=
  bytes.foldr (fun byte word => word <<< 8 ||| byte.toUInt64) 0

/-- The words of a text.  A piece that is not full counts as one with zero bytes
above it, so a text does not show in its words where it ends. -/
def wordsOfText (content : String) : List UInt64 :=
  let bytes := content.toUTF8.toList
  (cut (pieceSizes bytes.length) bytes).map wordOfBytes

/-- The word after a text, which is no byte of any text. -/
def textEnd : UInt64 :=
  0xFF

end Key

/-- The words of a piece of a fingerprint. -/
def Mark.words : Mark → List UInt64
  | .choice number => [.ofNat number]
  | .length count => [.ofNat count]
  | .word bits => [bits]
  | .index number => [.ofNat number]
  | .flag value => [if value then 1 else 0]
  | .text content => Key.wordsOfText content
  | .textEnd => [Key.textEnd]

/-- The key of a test case. -/
def TestCase.key (test : TestCase) : UInt64 :=
  Key.ofWords (test.fingerprint.flatMap Mark.words)

theorem TestCase.key_eq_of_same {left right : TestCase} (same : left.same right = true) :
    left.key = right.key := by
  simp only [key, fingerprint_eq_of_same same]

end TestSynth
