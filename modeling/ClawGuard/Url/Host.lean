import ClawGuard.Url.Encoding
import Mathlib.Algebra.Group.Nat.Basic

namespace ClawGuard.Web

/-- A parsed host. Domains are kept lowercased and ASCII; `plain` hosts (opaque hosts) are those of
non-special URLs. -/
inductive Host
  | domain (s : List Char)
  | plain (s : List Char)
  | ipv4 (n : Nat)
  | ipv6 (pieces : List Nat)
  | empty
  deriving DecidableEq, Repr

def digitValue (r : Nat) (c : Char) : Option Nat :=
  (hexValue c).bind fun v => if v < r then some v else none

def radixValue (r : Nat) (l : List Char) : Option Nat :=
  l.foldl (fun acc c => acc.bind fun a => (digitValue r c).map (a * r + ·)) (some 0)

/-- IPv4 number parser: `0x` hexadecimal, a leading `0` octal, decimal otherwise. -/
def parseIPv4Number : List Char → Option Nat
  | [] => none
  | '0' :: x :: rest => if x == 'x' || x == 'X' then radixValue 16 rest else radixValue 8 (x :: rest)
  | l => radixValue 10 l

/-- The dot-separated parts, without a last empty part when there are several. -/
def ipv4Parts (l : List Char) : List (List Char) :=
  let parts := l.splitOn '.'
  if parts.getLast? = some [] ∧ 1 < parts.length then parts.dropLast else parts

def endsInANumber (l : List Char) : Bool :=
  let parts := l.splitOn '.'
  if parts.getLast? = some [] ∧ parts.length = 1 then false
  else
    match (ipv4Parts l).getLast? with
    | some last => (last ≠ [] && last.all Char.isDigit) || (parseIPv4Number last).isSome
    | none => false

/-- The last number fills the low bytes; the `i`-th of the others is byte `3 - i`. -/
def ipv4Value (numbers : List Nat) : Nat :=
  (numbers.dropLast.enum.map fun (i, n) => n * 256 ^ (3 - i)).foldr (· + ·) 0 + numbers.getLast?.getD 0

def parseIPv4 (l : List Char) : Option Nat := do
  let parts := ipv4Parts l
  if 4 < parts.length then none
  let numbers ← parts.mapM parseIPv4Number
  if numbers.dropLast.any (255 < ·) then none
  if 256 ^ (5 - numbers.length) ≤ numbers.getLast?.getD 0 then none
  pure (ipv4Value numbers)

def serializeIPv4 (n : Nat) : List Char :=
  (Nat.repr (n / 16777216 % 256)).toList ++ '.' :: (Nat.repr (n / 65536 % 256)).toList ++
    '.' :: (Nat.repr (n / 256 % 256)).toList ++ '.' :: (Nat.repr (n % 256)).toList

inductive V6State
  | loop
  | hex (v len : Nat) (buf : List Char)

/-- The dotted IPv4 tail of an IPv6 address: `seen` numbers done, `cur` the one being read. -/
def v6Dotted (addr : List Nat) (piece seen : Nat) (cur : Option Nat) :
    List Char → Option (List Nat × Nat)
  | [] =>
    match cur with
    | none => none
    | some v =>
      let addr := addr.set piece (addr.getD piece 0 * 256 + v)
      let piece := if seen + 1 = 2 ∨ seen + 1 = 4 then piece + 1 else piece
      if seen + 1 = 4 then some (addr, piece) else none
  | c :: rest =>
    match cur, c.isDigit with
    | none, true => v6Dotted addr piece seen (some (c.toNat - 48)) rest
    | none, false => none
    | some v, true =>
      if v = 0 ∨ 255 < v * 10 + (c.toNat - 48) then none
      else v6Dotted addr piece seen (some (v * 10 + (c.toNat - 48))) rest
    | some v, false =>
      let addr := addr.set piece (addr.getD piece 0 * 256 + v)
      let piece := if seen + 1 = 2 ∨ seen + 1 = 4 then piece + 1 else piece
      if c == '.' && seen + 1 < 4 then v6Dotted addr piece (seen + 1) none rest else none

/-- The main loop of the IPv6 parser, one code point at a time. -/
def v6Run (addr : List Nat) (piece : Nat) (compress : Option Nat) :
    V6State → List Char → Option (List Nat × Nat × Option Nat)
  | .loop, [] => some (addr, piece, compress)
  | .loop, c :: rest =>
    if piece = 8 then none
    else if c == ':' then
      if compress.isSome then none else v6Run addr (piece + 1) (some (piece + 1)) .loop rest
    else match hexValue c with
      | some d => v6Run addr piece compress (.hex d 1 [c]) rest
      | none => none
  | .hex v _ _, [] => some (addr.set piece v, piece + 1, compress)
  | .hex v len buf, c :: rest =>
    match hexValue c with
    | some d => if len < 4 then v6Run addr piece compress (.hex (v * 16 + d) (len + 1) (buf ++ [c])) rest
      else none
    | none =>
      if c == '.' then
        if 6 < piece then none
        else (v6Dotted addr piece 0 none (buf ++ c :: rest)).map fun (a, p) => (a, p, compress)
      else if c == ':' then
        if rest = [] then none else v6Run (addr.set piece v) (piece + 1) compress .loop rest
      else none

/-- IPv6 parser. The final swap loop moves the pieces after `::` to the end. -/
def parseIPv6 (l : List Char) : Option (List Nat) := do
  let init := List.replicate 8 0
  let (addr, piece, compress) ← match l with
    | ':' :: ':' :: rest => v6Run init 1 (some 1) .loop rest
    | ':' :: _ => none
    | l => v6Run init 0 none .loop l
  match compress with
  | some c => some (addr.take c ++ List.replicate (8 - piece) 0 ++ (addr.drop c).take (piece - c))
  | none => if piece = 8 then some addr else none

/-- Start and length of the first longest run of at least two zero pieces. -/
def longestZeroRun (a : List Nat) : Option (Nat × Nat) :=
  let runs := (List.range 8).filterMap fun i =>
    let n := ((a.drop i).takeWhile (· = 0)).length
    if 2 ≤ n ∧ (i = 0 ∨ a.getD (i - 1) 1 ≠ 0) then some (i, n) else none
  runs.foldl (fun best r => match best with
    | none => some r
    | some b => if b.2 < r.2 then some r else some b) none

def hexPieces (l : List Nat) : List Char := ":".toList.intercalate (l.map (Nat.toDigits 16))

def serializeIPv6 (a : List Nat) : List Char :=
  match longestZeroRun a with
  | none => hexPieces a
  | some (i, n) => hexPieces (a.take i) ++ "::".toList ++ hexPieces (a.drop (i + n))

def isForbiddenHost (c : Char) : Bool :=
  c == '\x00' || c == '\t' || c == '\n' || c == '\r' || c == ' ' || c == '#' || c == '/' ||
    c == ':' || c == '<' || c == '>' || c == '?' || c == '@' || c == '[' || c == '\\' ||
    c == ']' || c == '^' || c == '|'

def isForbiddenDomain (c : Char) : Bool :=
  isForbiddenHost c || c.toNat ≤ 0x1F || c == '%' || c == '\x7F'

/-- Domain to ASCII on an ASCII domain: lowercase it; an empty result fails. Non-ASCII input
(the UTS 46 mapping and punycode) is not modelled and fails. -/
def domainToAscii (bytes : List Nat) : Option (List Char) :=
  if bytes = [] ∨ bytes.any (0x80 ≤ ·) then none
  else some (bytes.map fun b => (Char.ofNat b).toLower)

def hostParse (input : List Char) (isOpaque : Bool) : Option Host :=
  match input with
  | '[' :: inner =>
    if inner.getLast? = some ']' then (parseIPv6 inner.dropLast).map Host.ipv6 else none
  | _ =>
    if isOpaque then
      if input.any isForbiddenHost then none
      else some (if input = [] then .empty else .plain (percentEncode inC0ControlSet input))
    else do
      let ascii ← domainToAscii (percentDecode (utf8Bytes input))
      if ascii.any isForbiddenDomain then none
      else if endsInANumber ascii then Host.ipv4 <$> parseIPv4 ascii
      else some (.domain ascii)

def Host.serialize : Host → List Char
  | .domain s => s
  | .plain s => s
  | .ipv4 n => serializeIPv4 n
  | .ipv6 a => '[' :: serializeIPv6 a ++ [']']
  | .empty => []

end ClawGuard.Web
