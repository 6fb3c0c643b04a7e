import FocusJournal.Text.Utf8
import FocusJournal.Url.Address

/-!
# Hosts

The host of a URL is a domain name, an address of four bytes or an address of eight words in brackets. Schemes that are
not known to name hosts in the network take the text of the host nearly as it is.

* `Host.ofNetworkText?` and `Host.ofOpaqueText?` read hosts, `Host.text` writes them.
-/

namespace FocusJournal.Url

/-- The host of a URL. -/
inductive Host where
  | domain (name : List Char)
  /-- Four bytes as one number. -/
  | bytes (address : Nat)
  /-- Eight words. -/
  | words (address : List Nat)
  deriving DecidableEq

namespace Host

/-- The normal form of a host. -/
def text : Host → List Char
  | domain name => name
  | bytes address => Address.dotted address
  | words address => '[' :: (Address.colons address ++ [']'])

/-- The bytes of a text in which a percent sign and two hexadecimal digits stand for a byte. -/
def percentDecoded : List Char → List UInt8
  | '%' :: a :: b :: rest =>
    match Address.digitValue? a, Address.digitValue? b with
    | some high, some low => UInt8.ofNat (16 * high + low) :: percentDecoded rest
    | _, _ => UInt8.ofNat 37 :: percentDecoded (a :: b :: rest)
  | c :: rest => Text.encodeChar c ++ percentDecoded rest
  | [] => []

/-- A hexadecimal digit in upper case. -/
def upperDigit (value : UInt8) : Char := Char.ofNat (if value < 10 then 48 + value.toNat else 55 + value.toNat)

/-- A byte as a percent sign and two hexadecimal digits. -/
def percentEncoded (b : UInt8) : List Char := ['%', upperDigit (b / 16), upperDigit (b % 16)]

/-- A control character, or one beyond ASCII. -/
def isEncoded (c : Char) : Bool := c.toNat < 32 || 126 < c.toNat

/-- The characters that no host may have which is taken as it is. -/
def isForbidden (c : Char) : Bool :=
  [0, 9, 10, 13].contains c.toNat
    || [' ', '#', '/', ':', '<', '>', '?', '@', '[', '\\', ']', '^', '|'].contains c

/-- The address in brackets, of which the first one is taken off already. -/
def ofBracketed? (cs : List Char) : Option Host :=
  if cs.getLast? = some ']' then (Address.ofColons? cs.dropLast).map .words else none

/-- The host of a URL whose scheme does not name hosts in the network. -/
def ofOpaqueText? : List Char → Option Host
  | '[' :: cs => ofBracketed? cs
  | cs =>
    if cs.any isForbidden then none
    else some (.domain (cs.flatMap fun c => if isEncoded c then (Text.encodeChar c).flatMap percentEncoded else [c]))

/-- The host of a URL whose scheme names hosts in the network. -/
def ofNetworkText? : List Char → Option Host
  | '[' :: cs => ofBracketed? cs
  | cs => do
    let name ← Domain.toAscii? (← Text.text? (percentDecoded cs))
    if name.isEmpty then none
    else if Address.endsInNumber name then (Address.ofDotted? name).map .bytes
    else some (.domain name)

end Host

end FocusJournal.Url
