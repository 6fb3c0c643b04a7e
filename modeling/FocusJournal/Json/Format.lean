import FocusJournal.Json.Skip

/-!
# Formats

How a kind of value is given in JSON. A format has two readings: from a JSON value, whose members are in the order of
their keys, and from text, whose members come as they are written. A record may also be given as the list of its fields.

* `Format.bool`, `Format.string`, `Format.integer`, `Format.optional`, `Format.list` and `Format.json` are the simple
  formats.
* `Record.format` is the format of a record, described by its fields.
-/

namespace FocusJournal

open Text (Piece isDigit)
open Json (Reader Result skipBlanks)

/-- The two readings of a kind of value. -/
structure Format (α : Type) where
  ofJson : Json → Except Mismatch α
  reader : Reader α

namespace Format

/-- The fault of a value of another kind, which is passed over if it is not a list or an object. -/
def wrongKind (budget : Nat) (expected : String) (ahead : List Piece) : Fault :=
  let mismatch (found : Found) (rest : List Piece) : Fault := .after (.mismatch (.kind found expected)) rest
  let word (letters : List Char) (found : Found) (rest : List Piece) : Fault :=
    match Json.readWord letters rest with
    | .error fault => fault
    | .ok rest => mismatch found rest
  let value (result : Result Json) : Fault :=
    match result with
    | .error fault => fault
    | .ok (j, rest) => mismatch (.ofJson j) rest
  match ahead with
  | [] => .peeking .valueExpected []
  | .stray b :: rest => .peeking .valueExpected (.stray b :: rest)
  | .char c :: rest =>
    if c = 'n' then word ['u', 'l', 'l'] .null rest
    else if c = 't' then word ['r', 'u', 'e'] (.bool true) rest
    else if c = 'f' then word ['a', 'l', 's', 'e'] (.bool false) rest
    else if c = '-' then value (Json.readNumber false rest)
    else if isDigit c then value (Json.readNumber true (.char c :: rest))
    else if c = '"' then value ((Json.readText budget rest).map fun (s, rest) => (.string s, rest))
    else if c = '[' then mismatch .sequence (.char c :: rest)
    else if c = '\x7b' then mismatch .map (.char c :: rest)
    else .peeking .valueExpected (.char c :: rest)

/-- A reader that looks at the first piece of a value. -/
def looking {α : Type} (reader : (budget levels : Nat) → Piece → List Piece → Result α) : Reader α :=
  fun budget levels ahead =>
    match skipBlanks ahead with
    | [] => .error (.peeking .endOfValue [])
    | next :: rest => reader budget levels next rest

/-- Truth values. -/
def bool : Format Bool where
  ofJson
    | .bool b => .ok b
    | j => .error (.kind (.ofJson j) "a boolean")
  reader := looking fun budget _ next rest =>
    match next with
    | .char 't' => (Json.readWord ['r', 'u', 'e'] rest).map fun rest => (true, rest)
    | .char 'f' => (Json.readWord ['a', 'l', 's', 'e'] rest).map fun rest => (false, rest)
    | _ => .error (wrongKind budget "a boolean" (next :: rest))

/-- Strings. -/
def string : Format String where
  ofJson
    | .string s => .ok s
    | j => .error (.kind (.ofJson j) "a string")
  reader := looking fun budget _ next rest =>
    match next with
    | .char '"' => Json.readText budget rest
    | _ => .error (wrongKind budget "a string" (next :: rest))

/-- Integers that fit a type which has a name. -/
def integer {α : Type} (name : String) (fit? : Int → Option α) : Format α :=
  let ofJson : Json → Except Mismatch α
    | .integer n =>
      match fit? n with
      | some a => .ok a
      | none => .error (.range (.integer n) name)
    | j => .error (.kind (.ofJson j) name)
  let checked (result : Result Json) : Result α :=
    match result with
    | .error fault => .error fault
    | .ok (j, rest) =>
      match ofJson j with
      | .error m => .error (.after (.mismatch m) rest)
      | .ok n => .ok (n, rest)
  { ofJson := ofJson
    reader := looking fun budget _ next rest =>
      match next with
      | .char '-' => checked (Json.readNumber false rest)
      | .char c =>
        if isDigit c then checked (Json.readNumber true (next :: rest))
        else .error (wrongKind budget name (next :: rest))
      | _ => .error (wrongKind budget name (next :: rest)) }

/-- Integers of 64 bits with a sign. -/
def int64 : Format Int64 := integer "i64" Text.toInt64?

/-- Integers of 32 bits without a sign. -/
def uint32 : Format UInt32 := integer "u32" fun n =>
  if 0 ≤ n ∧ n ≤ 4294967295 then some (UInt32.ofNat n.toNat) else none

/-- Any value. -/
def json : Format Json where
  ofJson j := .ok j
  reader := Json.readJson

/-- A value, or null for none. -/
def optional {α : Type} (f : Format α) : Format (Option α) where
  ofJson
    | .null => .ok none
    | j => (f.ofJson j).map some
  reader := looking fun budget levels next rest =>
    match next with
    | .char 'n' => (Json.readWord ['u', 'l', 'l'] rest).map fun rest => (none, rest)
    | _ => (f.reader budget levels (next :: rest)).map fun (a, rest) => (some a, rest)

/-- What is ahead after a list in which a fault was found is closed as far as it can be. -/
def closeList (ahead : List Piece) : List Piece :=
  match skipBlanks ahead with
  | .char ']' :: rest => rest
  | .char ',' :: rest => skipBlanks rest
  | ahead => ahead

/-- What is ahead after an object in which a fault was found is closed as far as it can be. -/
def closeObject (ahead : List Piece) : List Piece :=
  match skipBlanks ahead with
  | .char '\x7d' :: rest => rest
  | ahead => ahead

/-- Takes the items of a list after its bracket; those read come last first. -/
def readItems {α : Type} (item : Reader α) :
    (budget levels : Nat) → List α → (first : Bool) → List Piece → Result (List α)
  | 0, _, _, _, ahead => .error (.after .endOfList ahead)
  | budget + 1, levels, read, first, ahead =>
    match Json.nextItem first ahead with
    | .error fault => .error fault
    | .ok (.closed rest) => .ok (read.reverse, rest)
    | .ok (.more ahead) =>
      match item budget levels ahead with
      | .error fault => .error fault
      | .ok (a, rest) => readItems item budget levels (a :: read) false rest

/-- Lists of values of one kind. -/
def list {α : Type} (f : Format α) : Format (List α) where
  ofJson
    | .array items => items.mapM f.ofJson
    | j => .error (.kind (.ofJson j) "a sequence")
  reader := looking fun budget levels next rest =>
    match next, levels with
    | .char '[', 0 => .error (.peeking .tooDeep (next :: rest))
    | .char '[', levels + 1 => readItems f.reader budget levels [] true rest
    | _, _ => .error (wrongKind budget "a sequence" (next :: rest))

end Format

/-- A field of a record: its name and how its value is put into the record. -/
structure Field (α : Type) where
  name : String
  required : Bool
  ofJson : Json → Except Mismatch (α → α)
  reader : Reader (α → α)

/-- The field with values of a format. -/
def Field.of {α β : Type} (name : String) (f : Format β) (put : β → α → α) (required : Bool) : Field α where
  name := name
  required := required
  ofJson j := (f.ofJson j).map put
  reader budget levels ahead := (f.reader budget levels ahead).map fun (b, rest) => (put b, rest)

/-- A field that must be there. -/
def Field.needed {α β : Type} (name : String) (f : Format β) (put : β → α → α) : Field α := .of name f put true

/-- A field that may be left out. -/
def Field.free {α β : Type} (name : String) (f : Format β) (put : β → α → α) : Field α := .of name f put false

/-- A record: what messages call it, the values of its fields when they are left out, and its fields in order. -/
structure Record (α : Type) where
  title : String
  blank : α
  fields : List (Field α)
  /-- Keys of other names are refused and not passed over. -/
  closed : Bool

namespace Record

variable {α : Type} (r : Record α)

/-- The title with the number of fields. -/
def sized : String := r.title ++ " with " ++ Mismatch.elements r.fields.length

/-- The mismatch of a record without one of the fields it needs, of those the first. -/
def lacking (given : List String) : Option Mismatch :=
  (r.fields.find? fun f => f.required && !given.contains f.name).map fun f => .missing f.name

/-- The field of a name. -/
def field? (name : String) : Option (Field α) := r.fields.find? fun f => f.name == name

/-- The record with one member put into it, and the names given so far. -/
def putMember (state : α × List String) (member : String × Json) : Except Mismatch (α × List String) :=
  match r.field? member.1 with
  | none =>
    if r.closed then .error (.unknownField member.1 (r.fields.map Field.name)) else .ok state
  | some f => (f.ofJson member.2).map fun put => (put state.1, f.name :: state.2)

/-- The record that the members of an object give. -/
def ofMembers (members : List (String × Json)) : Except Mismatch α := do
  let (a, given) ← members.foldlM r.putMember (r.blank, [])
  match r.lacking given with
  | some m => .error m
  | none => .ok a

/-- Puts the items of a list into the fields in order, of which `taken` have been filled. -/
def putItems (length : Nat) : (taken : Nat) → α → List (Field α) → List Json → Except Mismatch α
  | _, a, [], [] => .ok a
  | taken, _, [], _ :: _ => .error (.long length taken)
  | taken, a, f :: fields, [] =>
    if f.required then .error (.short taken r.sized) else putItems length (taken + 1) a fields []
  | taken, a, f :: fields, item :: items =>
    match f.ofJson item with
    | .error m => .error m
    | .ok put => putItems length (taken + 1) (put a) fields items

/-- The record that the items of a list give. -/
def ofItems (items : List Json) : Except Mismatch α := r.putItems items.length 0 r.blank r.fields items

/-- The record that a value gives. -/
def ofJson : Json → Except Mismatch α
  | .object members => r.ofMembers members
  | .array items => r.ofItems items
  | j => .error (.kind (.ofJson j) r.title)

/-- Takes the members of an object after its bracket. -/
def readMembers : (budget levels : Nat) → α → (given : List String) → (first : Bool) → List Piece → Result α
  | 0, _, _, _, _, ahead => .error (.after .endOfObject ahead)
  | budget + 1, levels, a, given, first, ahead =>
    match Json.nextKey first ahead with
    | .error fault => .error fault
    | .ok (.closed rest) =>
      match r.lacking given with
      | some m => .error (.after (.mismatch m) rest)
      | none => .ok (a, rest)
    | .ok (.more ahead) =>
      match Json.readText budget ahead with
      | .error fault => .error fault
      | .ok (key, rest) =>
        match r.field? key with
        | none =>
          if r.closed then
            .error (.after (.mismatch (.unknownField key (r.fields.map Field.name))) (Format.closeObject rest))
          else
            match Json.readColon rest >>= Json.skip budget with
            | .error fault => .error fault
            | .ok rest => readMembers budget levels a given false rest
        | some f =>
          if given.contains f.name then
            .error (.after (.mismatch (.duplicate f.name)) (Format.closeObject rest))
          else
            match Json.readColon rest >>= f.reader budget levels with
            | .error fault => .error fault
            | .ok (put, rest) => readMembers budget levels (put a) (f.name :: given) false rest

/-- Takes the items of a list after its bracket into the fields in order, of which `taken` have been filled. -/
def readItems (budget levels : Nat) : (taken : Nat) → α → (ended : Bool) → List (Field α) → List Piece → Result α
  | _, a, _, [], ahead =>
    match skipBlanks ahead with
    | [] => .error (.peeking .endOfList [])
    | .char ']' :: rest => .ok (a, rest)
    | .char ',' :: rest =>
      match skipBlanks rest with
      | .char ']' :: rest => .error (.peeking .trailingComma (.char ']' :: rest))
      | ahead => .error (.peeking .trailingText ahead)
    | ahead => .error (.peeking .trailingText ahead)
  | taken, a, true, f :: fields, ahead =>
    if f.required then .error (.after (.mismatch (.short taken r.sized)) (Format.closeList ahead))
    else readItems budget levels (taken + 1) a true fields ahead
  | taken, a, false, f :: fields, ahead =>
    match Json.nextItem (taken == 0) ahead with
    | .error fault => .error fault
    | .ok (.closed _) =>
      if f.required then .error (.after (.mismatch (.short taken r.sized)) (Format.closeList ahead))
      else readItems budget levels (taken + 1) a true fields ahead
    | .ok (.more ahead) =>
      match f.reader budget levels ahead with
      | .error fault => .error fault
      | .ok (put, rest) => readItems budget levels (taken + 1) (put a) false fields rest

/-- The two readings of a record. -/
def format : Format α where
  ofJson := r.ofJson
  reader := Format.looking fun budget levels next rest =>
    match next, levels with
    | .char '[', 0 => .error (.peeking .tooDeep (next :: rest))
    | .char '\x7b', 0 => .error (.peeking .tooDeep (next :: rest))
    | .char '[', levels + 1 => r.readItems budget levels 0 r.blank false r.fields rest
    | .char '\x7b', levels + 1 => r.readMembers budget levels r.blank [] true rest
    | _, _ => .error (Format.wrongKind budget r.title (next :: rest))

end Record

/-- Reads bytes that hold one value of a format and blanks. -/
def Format.ofBytes {α : Type} (f : Format α) (bytes : List UInt8) : Except String α :=
  Reader.run f.reader Json.depthLimit bytes

end FocusJournal
