import FocusJournal.Url.Authority

/-!
# URLs

A URL is a scheme and what the scheme makes of the rest. Some schemes name hosts in the network, with any slashes before
them; the scheme of files names a host after two slashes; any other scheme does so too, and takes its text as it is.

* `Url.parse?` reads a URL as far as its authority.
-/

namespace FocusJournal

open Url (Authority Host)

/-- A URL as far as its authority. -/
structure Url where
  scheme : List Char
  authority : Authority
  deriving DecidableEq

namespace Url

/-- What a scheme makes of the text after it. -/
inductive SchemeKind where
  /-- A host in the network, with the port that is meant where none is written. -/
  | network (port : Nat)
  | file
  | other

/-- The kind of a scheme. -/
def kind (scheme : List Char) : SchemeKind :=
  match String.ofList scheme with
  | "http" => .network 80
  | "ws" => .network 80
  | "https" => .network 443
  | "wss" => .network 443
  | "ftp" => .network 21
  | "file" => .file
  | _ => .other

/-- A letter of ASCII. -/
def isLetter (c : Char) : Bool := (65 ≤ c.toNat && c.toNat ≤ 90) || (97 ≤ c.toNat && c.toNat ≤ 122)

/-- A character of a scheme after its first. -/
def isSchemeChar (c : Char) : Bool := isLetter c || Text.isDigit c || c = '+' || c = '-' || c = '.'

/-- The text of a URL without what does not count: control characters and blanks around it, tabs and line ends in it. -/
def cleaned (cs : List Char) : List Char :=
  let idle (c : Char) : Bool := c.toNat ≤ 32
  (((cs.dropWhile idle).reverse.dropWhile idle).reverse).filter fun c => c ≠ '\t' ∧ c ≠ '\n' ∧ c ≠ '\r'

/-- The scheme before the first colon, in lower case, and what comes after it. -/
def splitScheme? (cs : List Char) : Option (List Char × List Char) :=
  match cs.dropWhile isSchemeChar with
  | ':' :: rest =>
    let scheme := cs.takeWhile isSchemeChar
    if scheme.head?.any isLetter then some (scheme.map Text.asciiLower, rest) else none
  | _ => none

/-- Either slash. -/
def isSlash (c : Char) : Bool := c = '/' || c = '\\'

/-- Ends an authority; a backslash does so for schemes that name hosts in the network. -/
def endsAuthority (inNetwork : Bool) (c : Char) : Bool := c = '/' || c = '?' || c = '#' || (inNetwork && c = '\\')

/-- The authority at the beginning of a text. -/
def authorityAt? (inNetwork : Bool) (cs : List Char) : Option Authority :=
  Authority.ofText? inNetwork (cs.takeWhile fun c => !endsAuthority inNetwork c)

/-! ## Files -/

/-- A letter that names a drive. -/
def isDrive : List Char → Bool
  | [letter, mark] => isLetter letter && (mark = ':' || mark = '|')
  | _ => false

/-- A segment of a path with its dots written plainly. -/
def plainDots : List Char → List Char
  | '%' :: '2' :: e :: rest => if e = 'e' ∨ e = 'E' then '.' :: plainDots rest else '%' :: '2' :: plainDots (e :: rest)
  | c :: rest => c :: plainDots rest
  | [] => []

/-- The path after another segment, last segment first. A drive is never left. -/
def walk (path : List (List Char)) (segment : List Char) : List (List Char) :=
  if plainDots segment = ['.'] then path
  else if plainDots segment = ['.', '.'] then
    match path with
    | [] => []
    | last :: rest => if isDrive last then path else rest
  else segment :: path

/-- Whether a path comes to begin with a drive. -/
def reachesDrive (path : List (List Char)) : List (List Char) → Bool
  | [] => false
  | segment :: rest => (path.isEmpty && isDrive segment) || reachesDrive (walk path segment) rest

/-- The segments of a path that begins with a slash. -/
def segments (path : List Char) : List (List Char) :=
  splitAll '/' ((path.drop 1).map fun c => if c = '\\' then '/' else c)

/-- The authority of a file after the two slashes. A drive has no host, and this host is none. -/
def fileAuthority? (cs : List Char) : Option Authority :=
  let name := cs.takeWhile fun c => !endsAuthority true c
  let path := (cs.drop name.length).takeWhile fun c => c ≠ '?' ∧ c ≠ '#'
  if name.isEmpty || isDrive name then some ⟨none, none⟩
  else
    match Host.ofNetworkText? name with
    | none => none
    | some host =>
      if host.text = ['l', 'o', 'c', 'a', 'l', 'h', 'o', 's', 't'] || reachesDrive [] (segments path) then
        some ⟨none, none⟩
      else some ⟨some host, none⟩

/-! ## Reading -/

/-- The authority that a scheme finds in the text after it. -/
def authority? (scheme rest : List Char) : Option Authority :=
  match kind scheme with
  | .network _ => authorityAt? true (rest.dropWhile isSlash)
  | .file =>
    match rest with
    | a :: b :: rest => if isSlash a && isSlash b then fileAuthority? rest else some ⟨none, none⟩
    | _ => some ⟨none, none⟩
  | .other =>
    match rest with
    | '/' :: '/' :: rest => authorityAt? false rest
    | _ => some ⟨none, none⟩

/-- The URL that a text gives. -/
def parse? (s : String) : Option Url :=
  (splitScheme? (cleaned s.toList)).bind fun (scheme, rest) =>
    (authority? scheme rest).map fun authority => ⟨scheme, authority⟩

/-- The port that a scheme means where none is written. -/
def defaultPort? (scheme : List Char) : Option Nat :=
  match kind scheme with
  | .network port => some port
  | _ => none

/-- The port of a URL if it is not the one that its scheme means anyway. -/
def unusualPort? (u : Url) : Option Nat :=
  if u.authority.port = defaultPort? u.scheme then none else u.authority.port

end Url

end FocusJournal
