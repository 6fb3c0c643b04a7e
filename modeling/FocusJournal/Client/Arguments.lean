import FocusJournal.Text.Numeral

/-!
# Arguments

How the arguments of a command fill in its form. An option is written `--name value` or `--name=value` and may be given
once; all else goes to the places of the form, in order. After `--` everything goes to a place, even if it looks like an
option.

* `Form.fill` reads the arguments of a command.
-/

namespace FocusJournal

/-- What may be given for an option or in a place. -/
inductive ArgumentKind where
  | text
  /-- An integer of 64 bits. -/
  | number
  /-- An integer of 64 bits that may be written with a minus sign where an option could stand. -/
  | signedNumber
  deriving DecidableEq

/-- What a command may be given. -/
structure Form where
  options : List (String × ArgumentKind)
  places : List ArgumentKind

/-- What a command is given: values by option, the last one first, and values by place. -/
structure Filled where
  options : List (String × String)
  places : List String

/-- Why arguments are not filled in. -/
inductive Stop where
  /-- The user wants to know how the command is used. -/
  | help
  | misuse
  deriving DecidableEq

/-- What an argument looks like. -/
inductive Shape where
  | bare
  /-- The arguments after it are bare, whatever they look like. -/
  | separator
  | long (name : String) (value : Option String)
  | short (letters : List Char)

namespace Shape

/-- The shape of an option without its dashes. -/
def ofLong (cs : List Char) : Shape :=
  match cs.dropWhile fun c => c ≠ '=' with
  | [] => long (String.ofList cs) none
  | _ :: value => long (String.ofList (cs.takeWhile fun c => c ≠ '=')) (some (String.ofList value))

/-- What an argument looks like. -/
def ofText (s : String) : Shape :=
  match s.toList with
  | ['-', '-'] => separator
  | '-' :: '-' :: cs => ofLong cs
  | ['-'] => bare
  | '-' :: cs => short cs
  | _ => bare

/-- Whether an argument cannot be the value of the option before it. -/
def isOption : Shape → Bool
  | bare => false
  | _ => true

end Shape

namespace ArgumentKind

/-- The number that a value writes. -/
def number? (value : String) : Option Int64 := (Text.signed? value.toList).bind Text.toInt64?

/-- Whether a value may be given. -/
def admits : ArgumentKind → String → Bool
  | text, _ => true
  | _, value => (number? value).isSome

end ArgumentKind

namespace Form

/-- Gives a value to an option that has none. -/
def give (form : Form) (filled : Filled) (name value : String) : Except Stop Filled :=
  match form.options.lookup name with
  | none => .error .misuse
  | some kind =>
    if (filled.options.lookup name).isNone && kind.admits value then
      .ok { filled with options := (name, value) :: filled.options }
    else .error .misuse

/-- The kind of the next free place. -/
def nextPlace? (form : Form) (filled : Filled) : Option ArgumentKind := form.places[filled.places.length]?

/-- Puts a value into the next free place. -/
def put (form : Form) (filled : Filled) (value : String) : Except Stop Filled :=
  match form.nextPlace? filled with
  | none => .error .misuse
  | some kind => if kind.admits value then .ok { filled with places := filled.places ++ [value] } else .error .misuse

/-- An argument that begins with one dash: a request for help, or a number where one may be negative. -/
def takeShort (form : Form) (filled : Filled) (argument : String) (letters : List Char) : Except Stop Filled :=
  if letters.head? = some 'h' then .error .help
  else if form.nextPlace? filled = some .signedNumber then form.put filled argument
  else .error .misuse

/-- Fills a form; `separated` after the arguments that may be options. -/
def fillFrom (form : Form) (filled : Filled) (separated : Bool) : List String → Except Stop Filled
  | [] => .ok filled
  | argument :: rest =>
    if separated then
      match form.put filled argument with
      | .error stop => .error stop
      | .ok filled => fillFrom form filled true rest
    else
      match Shape.ofText argument with
      | .separator => fillFrom form filled true rest
      | .bare =>
        match form.put filled argument with
        | .error stop => .error stop
        | .ok filled => fillFrom form filled false rest
      | .short letters =>
        match form.takeShort filled argument letters with
        | .error stop => .error stop
        | .ok filled => fillFrom form filled false rest
      | .long "help" none => .error .help
      | .long name (some value) =>
        match form.give filled name value with
        | .error stop => .error stop
        | .ok filled => fillFrom form filled false rest
      | .long name none =>
        match rest with
        | [] => .error .misuse
        | value :: rest =>
          if (form.options.lookup name).isNone || (Shape.ofText value).isOption then .error .misuse
          else
            match form.give filled name value with
            | .error stop => .error stop
            | .ok filled => fillFrom form filled false rest

/-- Fills a form from the arguments of a command. -/
def fill (form : Form) (arguments : List String) : Except Stop Filled := form.fillFrom ⟨[], []⟩ false arguments

end Form

namespace Filled

/-- The value of an option. -/
def option? (filled : Filled) (name : String) : Option String := filled.options.lookup name

/-- The number given for an option. -/
def optionNumber? (filled : Filled) (name : String) : Option Int64 :=
  (filled.option? name).bind ArgumentKind.number?

/-- The value in a place. -/
def place? (filled : Filled) (place : Nat) : Option String := filled.places[place]?

/-- The number in a place. -/
def placeNumber? (filled : Filled) (place : Nat) : Option Int64 :=
  (filled.place? place).bind ArgumentKind.number?

end Filled

end FocusJournal
