import Vignette.Generator
import Vignette.Json.Skip
import Vignette.Json.Writer

/-!
# `Vignette.Generator.Json`: settings as JSON

Settings are an object with up to three known keys, or a list of up to three
values in the order of the keys. What is missing keeps its default. Values of
unknown keys are stepped over, and a known key may come only once.
-/

set_option autoImplicit false

namespace Vignette

open Json (Failure Reader)
open Text (Rest)

/-- A setting. -/
inductive Setting where
  | maxLength
  | maxAttempts
  | maxPasses
  deriving DecidableEq, Repr

namespace Setting

/-- All settings, in order. -/
def all : List Setting :=
  [maxLength, maxAttempts, maxPasses]

/-- The key of a setting. -/
def key : Setting → Name
  | maxLength => "max_len".toList
  | maxAttempts => "max_attempts".toList
  | maxPasses => "max_expansion_passes".toList

/-- The setting of a key. -/
def ofKey? (name : Name) : Option Setting :=
  all.find? fun setting => setting.key == name

end Setting

namespace Settings

def get (s : Settings) : Setting → Nat
  | .maxLength => s.maxLength
  | .maxAttempts => s.maxAttempts
  | .maxPasses => s.maxPasses

def set (s : Settings) : Setting → Nat → Settings
  | .maxLength, n => { s with maxLength := n }
  | .maxAttempts, n => { s with maxAttempts := n }
  | .maxPasses, n => { s with maxPasses := n }

/-- Settings of which some have been read. -/
structure Draft where
  settings : Settings
  seen : List Setting

/-- The failure of a key that comes again. Its place is behind the blanks that
follow the key, and behind a closing brace if one follows these. -/
def duplicate (setting : Setting) (t : Text) : Failure :=
  let rest := (Json.skipBlanks t).1
  .here (.duplicateField setting.key) (if rest.head? = some '\x7d' then rest.tail else rest)

/-- Reads what follows a key. -/
def readMember (draft : Draft) (name : Name) : Reader Draft := fun t =>
  match Setting.ofKey? name with
  | some setting =>
    if setting ∈ draft.seen then .error (duplicate setting t)
    else do
      let value ← Json.readColon t
      let (n, rest) ← Json.readCount value.1
      return (⟨draft.settings.set setting n, setting :: draft.seen⟩, value.trans rest.toTail)
  | none => do
    let value ← Json.readColon t
    let rest ← Json.skipValue value.1
    return (draft, value.trans rest.toTail)

/-- Reads the end of a list that holds all settings. -/
def readListEnd (t : Text) : Except Failure (Rest t.length) :=
  match Json.skipBlanks t with
  | ⟨[], _⟩ => .error (.next .endInList [])
  | ⟨c :: u, h⟩ =>
    if c = ']' then .ok ⟨u, h⟩
    else if c = ',' then
      let rest := (Json.skipBlanks u).1
      .error (.next (if rest.head? = some ']' then .trailingComma else .trailingCharacters) rest)
    else .error (.next .trailingCharacters (c :: u))

/-- Reads the values of the given settings, up to the end of the list. -/
def readValues (s : Settings) (first : Bool) : List Setting → Reader Settings
  | [], t => do
    let rest ← readListEnd t
    return (s, rest)
  | setting :: later, t => do
    match ← Json.nextItem first t with
    | .closed rest => return (s, rest)
    | .more start =>
      let (n, value) ← Json.readCount start.1
      let (s, rest) ← readValues (s.set setting n) false later value.1
      return (s, start.trans (value.trans rest.toTail))

/-- Reads settings. -/
def readSettings : Reader Settings :=
  Json.afterBlanks fun t =>
    match t with
    | [] => .error (Json.mismatch .settings [])
    | c :: t =>
      if c = '\x7b' then do
        let (draft, rest) ← Json.readObject readMember ⟨{}, []⟩ t
        return (draft.settings, rest.past c)
      else if c = '[' then do
        let (s, rest) ← readValues {} true Setting.all t
        return (s, rest.past c)
      else .error (Json.mismatch .settings (c :: t))

/-- Reads settings from a whole text. -/
def read (t : Text) : Except Json.Fault Settings :=
  Json.readWhole readSettings t

/-- Writes settings, in order. -/
def write (s : Settings) : Text :=
  Json.writeObject <| Setting.all.map fun setting =>
    (setting.key, Nat.toDigits 10 (s.get setting))

end Settings

end Vignette
