import BareProxy.Base.Bytes

/-!
# Reading addresses

The parser behind `str::parse::<IpAddr>` of the standard library. Each reader takes what it needs off the
front of the text, or takes nothing; an address is what uses up the whole text.
-/

namespace BareProxy

namespace IpAddrParser

/-- `read_number`: up to `maxDigits` digits in this radix, at least one; a leading zero only where it is
allowed or alone. -/
def readNumber (radix maxDigits maximum : Nat) (allowZeroPrefix : Bool) (input : Bytes) : Option (Nat × Bytes) :=
  let digits := input.takeWhile fun b => (digitValue b).any (· < radix)
  let value := digits.foldl (fun value b => value * radix + (digitValue b).getD 0) 0
  if digits.length = 0 ∨ maxDigits < digits.length ∨ maximum < value then none
  else if !allowZeroPrefix && input.head? == some 48 && digits.length > 1 then none
  else some (value, input.drop digits.length)

/-- `read_given_char`. -/
def readGivenChar (c : Byte) : Bytes → Option Bytes
  | b :: rest => if b = c then some rest else none
  | [] => none

/-- `read_separator`: all but the first of the items of a list come after a separator. -/
def readSeparator {α : Type} (separator : Byte) (index : Nat) (inner : Bytes → Option (α × Bytes)) (input : Bytes) :
    Option (α × Bytes) :=
  if index = 0 then inner input else readGivenChar separator input >>= inner

/-- The octets that are still to read from this index on. -/
def readOctets : Nat → Nat → Bytes → Option (List Nat × Bytes)
  | 0, _, input => some ([], input)
  | count + 1, index, input => do
      let (octet, input) ← readSeparator 46 index (readNumber 10 3 255 false) input
      let (octets, input) ← readOctets count (index + 1) input
      return (octet :: octets, input)

def readIpv4Addr (input : Bytes) : Option (List Nat × Bytes) := readOctets 4 0 input

/-- `read_groups`: the groups read into this many slots, whether the last two are an IPv4 address, and the
rest of the text. -/
def readGroups : Nat → Nat → Bytes → List Nat × Bool × Bytes
  | 0, _, input => ([], false, input)
  | slots + 1, index, input =>
      match if 0 < slots then readSeparator 58 index readIpv4Addr input else none with
      | some (octets, rest) =>
          ([octets.getD 0 0 * 256 + octets.getD 1 0, octets.getD 2 0 * 256 + octets.getD 3 0], true, rest)
      | none =>
          match readSeparator 58 index (readNumber 16 4 65535 true) input with
          | none => ([], false, input)
          | some (group, rest) =>
              let (groups, ipv4, rest) := readGroups slots (index + 1) rest
              (group :: groups, ipv4, rest)

def readIpv6Addr (input : Bytes) : Option (List Nat × Bytes) :=
  let (head, headIpv4, rest) := readGroups 8 0 input
  if head.length = 8 then some (head, rest)
  else if headIpv4 then none
  else do
    let rest ← readGivenChar 58 rest
    let rest ← readGivenChar 58 rest
    let (tail, _, rest) := readGroups (8 - (head.length + 1)) 0 rest
    return (head ++ List.replicate (8 - (head.length + tail.length)) 0 ++ tail, rest)

def readIpAddr (input : Bytes) : Option (List Nat × Bytes) :=
  match readIpv4Addr input with
  | some address => some address
  | none => readIpv6Addr input

/-- `read_port`: a colon and a number of any length, leading zeros included. -/
def readPort (input : Bytes) : Option (Nat × Bytes) :=
  readGivenChar 58 input >>= fun input => readNumber 10 input.length 65535 true input

/-- `read_scope_id`, or zero where there is none. -/
def readScopeId (input : Bytes) : Nat × Bytes :=
  match readGivenChar 37 input >>= fun input => readNumber 10 input.length 4294967295 true input with
  | some scopeId => scopeId
  | none => (0, input)

end IpAddrParser

/-- `parse::<IpAddr>`: four octets or eight groups. -/
def parseIpAddr (text : Bytes) : Option (List Nat) :=
  match IpAddrParser.readIpAddr text with
  | some (address, []) => some address
  | _ => none

/-- `parse::<IpAddr>().is_ok()`. -/
def parsesAsIpAddr (text : Bytes) : Bool := (IpAddrParser.readIpAddr text).any fun address => address.2.isEmpty

example : parsesAsIpAddr (ascii "127.0.0.1") = true ∧ parsesAsIpAddr (ascii "::ffff:1.2.3.4") = true ∧
    parsesAsIpAddr (ascii "01.2.3.4") = false ∧ parsesAsIpAddr (ascii "1:2:3:4:5:6:7::8") = false := by
  decide

/-! ### Printing -/

def displayIpv4 (octets : List Nat) : Bytes := (ascii ".").intercalate (octets.map decimal)

/-- `{:x}`. -/
def hexadecimal (n : Nat) : Bytes := (Nat.toDigits 16 n).map fun c => c.toNat.toUInt8

def displayGroups (groups : List Nat) : Bytes := (ascii ":").intercalate (groups.map hexadecimal)

/-- The first of the longest runs of zeros, as its start and its length. -/
def longestZeroSpan (groups : List Nat) : Nat × Nat :=
  (groups.zipIdx.foldl (fun (spans : (Nat × Nat) × (Nat × Nat)) group =>
    let (longest, current) := spans
    if group.1 = 0 then
      let current := if current.2 = 0 then (group.2, 1) else (current.1, current.2 + 1)
      (if current.2 > longest.2 then current else longest, current)
    else (longest, (0, 0))) ((0, 0), (0, 0))).1

/-- `Display` of an `Ipv6Addr`: IPv4-mapped addresses end in dotted form, and a run of two or more zero groups is left
out. -/
def displayIpv6 (groups : List Nat) : Bytes :=
  if groups.take 6 = [0, 0, 0, 0, 0, 65535] then
    ascii "::ffff:" ++ displayIpv4 ((groups.drop 6).flatMap fun group => [group / 256, group % 256])
  else
    let (start, length) := longestZeroSpan groups
    if length > 1 then displayGroups (groups.take start) ++ ascii "::" ++ displayGroups (groups.drop (start + length))
    else displayGroups groups

/-- `Display` of an `IpAddr`. -/
def displayIpAddr (address : List Nat) : Bytes :=
  if address.length = 4 then displayIpv4 address else displayIpv6 address

/-- `parse::<SocketAddr>` and `Display` of what it returns. -/
def normalizeSocketAddr (text : Bytes) : Option Bytes :=
  let v4 := do
    let (octets, rest) ← IpAddrParser.readIpv4Addr text
    let (port, rest) ← IpAddrParser.readPort rest
    return (displayIpv4 octets ++ ascii ":" ++ decimal port, rest)
  let v6 := do
    let rest ← IpAddrParser.readGivenChar 91 text
    let (groups, rest) ← IpAddrParser.readIpv6Addr rest
    let (scopeId, rest) := IpAddrParser.readScopeId rest
    let rest ← IpAddrParser.readGivenChar 93 rest
    let (port, rest) ← IpAddrParser.readPort rest
    let scope := if scopeId = 0 then [] else ascii "%" ++ decimal scopeId
    return (ascii "[" ++ displayIpv6 groups ++ scope ++ ascii "]:" ++ decimal port, rest)
  match v4 <|> v6 with
  | some (address, []) => some address
  | _ => none

example : (parseIpAddr (ascii "0:0:1::0")).map displayIpAddr = some (ascii "0:0:1::") ∧
    (parseIpAddr (ascii "::FFFF:1.2.3.4")).map displayIpAddr = some (ascii "::ffff:1.2.3.4") ∧
    normalizeSocketAddr (ascii "[::1%07]:08443") = some (ascii "[::1%7]:8443") ∧
    normalizeSocketAddr (ascii "1.2.3.4:65536") = none := by
  decide

/-! ### The text of an address -/

namespace IpAddrParser

theorem displayIpv4_cons (first : Nat) (others : List Nat) :
    displayIpv4 (first :: others) = decimal first ++ others.flatMap fun octet => ascii "." ++ decimal octet := by
  induction others generalizing first with
  | nil => simp [displayIpv4]
  | cons next others ih =>
    have hcons : displayIpv4 (first :: next :: others) = decimal first ++ ascii "." ++ displayIpv4 (next :: others) :=
      List.intercalate_cons_cons
    rw [hcons, ih, List.flatMap_cons]
    simp only [List.append_assoc]

end IpAddrParser

open IpAddrParser

theorem mem_displayIpv4 {octets : List Nat} {b : Byte} (hb : b ∈ displayIpv4 octets) :
    isAsciiDigit b = true ∨ b = 46 := by
  cases octets with
  | nil => cases hb
  | cons first others =>
    rw [displayIpv4_cons, List.mem_append, List.mem_flatMap] at hb
    rcases hb with hb | ⟨octet, -, hb⟩
    · exact Or.inl (isAsciiDigit_of_mem_decimal hb)
    · rcases List.mem_append.1 hb with hb | hb
      · exact Or.inr (List.mem_singleton.1 hb)
      · exact Or.inl (isAsciiDigit_of_mem_decimal hb)

end BareProxy
