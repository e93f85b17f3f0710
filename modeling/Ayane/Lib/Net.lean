import Mathlib.Init

/-!
# IP addresses as text

`std::net::IpAddr` of Rust's standard library: its `FromStr` and `Display`. The
parser reads from the front of the text and a failing alternative consumes
nothing; an address is accepted when it is the whole text.
-/

namespace Net

inductive IpAddr where
  | v4 (octets : Vector UInt8 4)
  | v6 (octets : Vector UInt8 16)
  deriving DecidableEq

/-! ## Parsing -/

/-- A reader of a value from the front of a text. -/
abbrev Reader (α : Type) := List Char → Option (α × List Char)

def digitValue (radix : Nat) (c : Char) : Option Nat :=
  let n :=
    if '0' ≤ c ∧ c ≤ '9' then c.toNat - '0'.toNat
    else if 'a' ≤ c ∧ c ≤ 'z' then c.toNat - 'a'.toNat + 10
    else if 'A' ≤ c ∧ c ≤ 'Z' then c.toNat - 'A'.toNat + 10
    else radix
  if n < radix then some n else none

/-- The digits at the front of a text. -/
def readDigits (radix : Nat) : List Char → List Nat × List Char
  | [] => ([], [])
  | c :: cs =>
    match digitValue radix c with
    | none => ([], c :: cs)
    | some d => (d :: (readDigits radix cs).1, (readDigits radix cs).2)

/-- `read_number`: at least one and at most `maxDigits` digits, of a value below `limit`. -/
def readNumber (radix maxDigits limit : Nat) (allowZeroPrefix : Bool) : Reader Nat := fun s =>
  let (digits, rest) := readDigits radix s
  let value := digits.foldl (fun n d => n * radix + d) 0
  if digits.length > maxDigits || digits.isEmpty then none
  else if !allowZeroPrefix && digits.head? == some 0 && digits.length > 1 then none
  else if value < limit then some (value, rest)
  else none

/-- `read_separator`: the separator stands before every element but the first. -/
def readSeparator {α : Type} (sep : Char) (index : Nat) (inner : Reader α) : Reader α := fun s =>
  if index = 0 then inner s
  else
    match s with
    | c :: cs => if c = sep then inner cs else none
    | [] => none

def readIpv4 : Reader (Vector UInt8 4) := fun s => do
  let octet (index : Nat) := readSeparator '.' index (readNumber 10 3 256 false)
  let (a, s) ← octet 0 s
  let (b, s) ← octet 1 s
  let (c, s) ← octet 2 s
  let (d, s) ← octet 3 s
  some (#v[.ofNat a, .ofNat b, .ofNat c, .ofNat d], s)

/-- `read_groups`: up to `left` groups of sixteen bits, the first of them at `index`. An embedded
IPv4 address ends them and counts for two. -/
def readGroups (index : Nat) : Nat → List Char → List UInt16 × Bool × List Char
  | 0, s => ([], false, s)
  | left + 1, s =>
    let embedded := if left = 0 then none else readSeparator ':' index readIpv4 s
    match embedded with
    | some (v4, rest) =>
      ([.ofNat (256 * v4[0].toNat + v4[1].toNat), .ofNat (256 * v4[2].toNat + v4[3].toNat)],
        true, rest)
    | none =>
      match readSeparator ':' index (readNumber 16 4 65536 true) s with
      | none => ([], false, s)
      | some (group, rest) =>
        let (groups, v4, rest) := readGroups (index + 1) left rest
        (.ofNat group :: groups, v4, rest)

/-- The big-endian octets of eight groups. -/
def octetsOfGroups (groups : Vector UInt16 8) : Vector UInt8 16 :=
  Vector.ofFn fun i =>
    let group := groups[i.val / 2]
    if i.val % 2 = 0 then .ofNat (group.toNat / 256) else .ofNat (group.toNat % 256)

def groupsOfOctets (octets : Vector UInt8 16) : Vector UInt16 8 :=
  Vector.ofFn fun i => .ofNat (256 * octets[2 * i.val].toNat + octets[2 * i.val + 1].toNat)

def readIpv6 : Reader (Vector UInt8 16) := fun s =>
  let (head, headIpv4, rest) := readGroups 0 8 s
  if h : head.length = 8 then some (octetsOfGroups ⟨head.toArray, by simpa using h⟩, rest)
  else if headIpv4 then none
  else
    match rest with
    | ':' :: ':' :: rest =>
      let (tail, _, rest) := readGroups 0 (8 - (head.length + 1)) rest
      let groups := head ++ List.replicate (8 - head.length - tail.length) 0 ++ tail
      if h : groups.length = 8 then some (octetsOfGroups ⟨groups.toArray, by simpa using h⟩, rest)
      else none
    | _ => none

def readIpAddr : Reader IpAddr := fun s =>
  match readIpv4 s with
  | some (octets, rest) => some (.v4 octets, rest)
  | none => (readIpv6 s).map fun (octets, rest) => (.v6 octets, rest)

/-- `str::parse::<IpAddr>`. -/
def IpAddr.parse (s : String) : Option IpAddr :=
  match readIpAddr s.toList with
  | some (addr, []) => some addr
  | _ => none

/-! ## Display -/

def displayIpv4 (octets : List UInt8) : String :=
  ".".intercalate (octets.map fun o => o.toNat.repr)

def displayGroups (groups : List UInt16) : String :=
  ":".intercalate (groups.map fun g => String.ofList (Nat.toDigits 16 g.toNat))

/-- Start and length of the first longest run of zeros, from the current run and the longest
one so far. -/
def longestZeros (index : Nat) (current longest : Nat × Nat) : List UInt16 → Nat × Nat
  | [] => longest
  | g :: gs =>
    if g = 0 then
      let current := (if current.2 = 0 then index else current.1, current.2 + 1)
      longestZeros (index + 1) current (if current.2 > longest.2 then current else longest) gs
    else longestZeros (index + 1) (0, 0) longest gs

/-- An IPv4-mapped address ends in dotted form; otherwise the longest run of at least two zero
groups is left out. -/
def displayIpv6 (octets : Vector UInt8 16) : String :=
  let groups := (groupsOfOctets octets).toList
  if groups.take 6 = [0, 0, 0, 0, 0, 0xffff] then
    "::ffff:" ++ displayIpv4 (octets.toList.drop 12)
  else
    let (start, length) := longestZeros 0 (0, 0) (0, 0) groups
    if length > 1 then
      displayGroups (groups.take start) ++ "::" ++ displayGroups (groups.drop (start + length))
    else displayGroups groups

def IpAddr.display : IpAddr → String
  | .v4 octets => displayIpv4 octets.toList
  | .v6 octets => displayIpv6 octets

end Net
