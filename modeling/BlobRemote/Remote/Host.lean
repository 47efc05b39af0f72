import BlobRemote.Number.HexDigit
import BlobRemote.Text.Cut
import BlobRemote.Text.Quoted
import BlobRemote.Text.Range

/-!
# Hosts of a URL

The authority of a URL may hold a host in brackets, which has to be an IPv6 address or an address of
a later version. Outside brackets any text goes, except that no character may turn into a delimiter
when the text is normalised.
-/

namespace BlobRemote

namespace Host

/-- What is wrong with an authority. -/
inductive Fault where
  /-- There is only one of the two brackets. -/
  | bracket
  /-- The text in brackets begins like an address of a later version and is none. -/
  | laterVersion
  /-- The text in brackets is an IPv4 address. -/
  | versionFour
  /-- The text in brackets is no address. -/
  | noAddress (text : String)
  /-- A character turns into a delimiter under normalisation. -/
  | hiddenDelimiter (authority : String)
  deriving DecidableEq

/-- What is wrong, in words. -/
def Fault.message : Fault → String
  | .bracket => "Invalid IPv6 URL"
  | .laterVersion => "IPvFuture address is invalid"
  | .versionFour => "An IPv4 address cannot be in brackets"
  | .noAddress text => Quoted.text text ++ " does not appear to be an IPv4 or IPv6 address"
  | .hiddenDelimiter authority =>
    "netloc '" ++ authority ++ "' contains invalid characters under NFKC normalization"

/-! ### Addresses -/

/-- Whether a text is a decimal number below 256 without a needless zero. -/
def isOctet (s : List Char) : Bool :=
  !s.isEmpty && s.all Char.isDigit && s.length ≤ 3 && (s == ['0'] || s.head? != some '0') &&
    (s.foldl (fun n c => 10 * n + (c.toNat - 0x30)) 0) ≤ 255

/-- Whether a text is an IPv4 address. -/
def isVersionFour (s : List Char) : Bool :=
  let octets := Cut.fields '.' s
  octets.length == 4 && octets.all isOctet

/-- Whether a text is one group of an IPv6 address. -/
def isGroup (s : List Char) : Bool := !s.isEmpty && s.length ≤ 4 && s.all Number.isHexDigit

/-- The groups of an IPv6 address, in which two groups take the place of an IPv4 address at the
end. -/
def groups? (s : List Char) : Option (List (List Char)) :=
  let parts := Cut.fields ':' s
  match parts.getLast? with
  | some last =>
    if parts.length < 3 then none
    else if last.contains '.' then
      if isVersionFour last then some (parts.dropLast ++ [['0'], ['0']]) else none
    else some parts
  | none => none

/-- Whether groups around a gap are an address, where `before` and `after` are the groups on its two
sides. At an end of the address the gap is spelled by one more empty group. -/
def isGapped (before after : List (List Char)) : Bool :=
  let high := if before.head? = some [] then before.tail else before
  let low := if after.getLast? = some [] then after.dropLast else after
  (before.head? ≠ some [] || high.isEmpty) && (after.getLast? ≠ some [] || low.isEmpty) &&
    high.length + low.length ≤ 7 && high.all isGroup && low.all isGroup

/-- Whether groups are an IPv6 address: eight of them, or fewer around one gap. -/
def isGroups (parts : List (List Char)) : Bool :=
  let inner := (parts.drop 1).dropLast
  parts.length ≤ 9 &&
    match inner.findIdx? List.isEmpty with
    | some i =>
      (inner.filter List.isEmpty).length == 1 && isGapped (parts.take (i + 1)) (parts.drop (i + 2))
    | none => parts.length == 8 && parts.all isGroup

/-- Whether a text is an IPv6 address, with an optional zone after a percent sign. -/
def isVersionSix (s : List Char) : Bool :=
  let (address, zoned) :=
    match Cut.atFirst '%' s with
    | some (address, zone) => (address, !zone.isEmpty && !zone.contains '%')
    | none => (s, true)
  zoned && (groups? address).any isGroups

/-- Whether a text after the letter `v` is an address of a later version: hexadecimal digits, a
point, and more. -/
def isLaterVersion (s : List Char) : Bool :=
  match Cut.atFirst '.' s with
  | some (version, address) => !version.isEmpty && version.all Number.isHexDigit && !address.isEmpty
  | none => false

/-! ### Authorities -/

/-- What is wrong with a host in brackets. -/
def bracketFault? (host : List Char) : Option Fault :=
  match host with
  | 'v' :: rest => if isLaterVersion rest then none else some .laterVersion
  | _ =>
    if isVersionFour host then some .versionFour
    else if isVersionSix host then none
    else some (.noAddress (String.ofList host))

/-- The characters whose compatibility decomposition holds one of the delimiters `/?#@:`. -/
def hidden : Text.Ranges := [
  (0x2047, 0x2049), (0x2100, 0x2101), (0x2105, 0x2106), (0x2A74, 0x2A74), (0xFE13, 0xFE13),
  (0xFE16, 0xFE16), (0xFE55, 0xFE56), (0xFE5F, 0xFE5F), (0xFE6B, 0xFE6B), (0xFF03, 0xFF03),
  (0xFF0F, 0xFF0F), (0xFF1A, 0xFF1A), (0xFF1F, 0xFF20)]

/-- What is wrong with the brackets of an authority. -/
def bracketsFault? (authority : List Char) : Option Fault :=
  match authority.contains '[', authority.contains ']' with
  | true, true =>
    let afterOpen := (Cut.atFirst '[' authority).elim [] Prod.snd
    let inside := (Cut.atFirst ']' afterOpen).elim afterOpen Prod.fst
    bracketFault? inside
  | false, false => none
  | _, _ => some .bracket

/-- What is wrong with the characters of an authority. -/
def charactersFault? (authority : List Char) : Option Fault :=
  if authority.any fun c => hidden.contains c.toNat then
    some (.hiddenDelimiter (String.ofList authority))
  else none

end Host

end BlobRemote
