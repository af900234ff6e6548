import Vignette.Random.Chooser
import Vignette.Random.Keystream
import Vignette.Random.Range

/-!
# `Vignette.Random.Source`: sources of random words, with a count of what was taken

Words come from a seeded keystream or from a script, a list that is read word
by word and continues with zeros. A source counts the 32-bit and the 64-bit
words taken from it, refused ones included. Candidates are chosen with 32-bit
words and spans with 64-bit words.
-/

set_option autoImplicit false

namespace Vignette.Random

/-- Where words come from. -/
inductive Words where
  | keystream (stream : Keystream)
  /-- One entry serves one word of either width; a 32-bit word is the low half
  of its entry. -/
  | script (entries : List UInt64)

namespace Words

def next32 : Words → UInt32 × Words
  | keystream k => let (word, k) := k.next32; (word, keystream k)
  | script [] => (0, script [])
  -- The upper half of the entry is lost.
  | script (entry :: entries) => (entry.toUInt32, script entries)

def next64 : Words → UInt64 × Words
  | keystream k => let (word, k) := k.next64; (word, keystream k)
  | script [] => (0, script [])
  | script (entry :: entries) => (entry, script entries)

/-- How many words a choice may refuse. A script ends in zeros, and a zero is
never refused. A keystream word is refused with a chance below one half. -/
def patience : Words → Nat
  | keystream _ => 1024
  | script entries => entries.length + 1

end Words

/-- A source of words and what has been taken from it. -/
structure Source where
  words : Words
  /-- The number of 32-bit words taken. -/
  narrow : Nat := 0
  /-- The number of 64-bit words taken. -/
  wide : Nat := 0

namespace Source

/-- The source that a seed determines. -/
def ofSeed (seed : UInt64) : Source :=
  { words := .keystream (.ofSeed seed) }

/-- The source that reads a script. -/
def ofScript (entries : List UInt64) : Source :=
  { words := .script entries }

def next32 (s : Source) : BitVec 32 × Source :=
  let (word, words) := s.words.next32
  (word.toBitVec, { s with words, narrow := s.narrow + 1 })

def next64 (s : Source) : BitVec 64 × Source :=
  let (word, words) := s.words.next64
  (word.toBitVec, { s with words, wide := s.wide + 1 })

/-- Choices made with the words of a source. -/
def chooser : Chooser Source where
  candidate n s := uniform next32 n s.words.patience s
  span n s := uniform next64 n s.words.patience s

end Source

end Vignette.Random
