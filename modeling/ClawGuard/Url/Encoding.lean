import Mathlib.Data.List.Infix

namespace ClawGuard.Web


def isTabOrNewline (c : Char) : Bool := c == '\t' || c == '\n' || c == '\r'

def isC0ControlOrSpace (c : Char) : Bool := c.toNat ≤ 0x20

def isAsciiHexDigit (c : Char) : Bool :=
  c.isDigit || ('a' ≤ c && c ≤ 'f') || ('A' ≤ c && c ≤ 'F')

def inC0ControlSet (c : Char) : Bool := c.toNat ≤ 0x1F || c.toNat > 0x7E

def inFragmentSet (c : Char) : Bool :=
  inC0ControlSet c || c == ' ' || c == '"' || c == '<' || c == '>' || c == '`'

def inQuerySet (c : Char) : Bool :=
  inC0ControlSet c || c == ' ' || c == '"' || c == '#' || c == '<' || c == '>'

def inSpecialQuerySet (c : Char) : Bool := inQuerySet c || c == '\''

def inPathSet (c : Char) : Bool := inQuerySet c || c == '?' || c == '`' || c == '{' || c == '}'

def inUserinfoSet (c : Char) : Bool :=
  inPathSet c || c == '/' || c == ':' || c == ';' || c == '=' || c == '@' || c == '[' ||
    c == '\\' || c == ']' || c == '^' || c == '|'

/-- The `application/x-www-form-urlencoded` set used by `URLSearchParams`; space becomes `+`. -/
def inFormSet (c : Char) : Bool :=
  !(c.isAlphanum || c == '*' || c == '-' || c == '.' || c == '_')

theorem toNat_ofNat_lt {n : Nat} (h : n < 0xD800) : (Char.ofNat n).toNat = n := by
  have hv : n.isValidChar := Or.inl h
  simp [Char.ofNat, hv, Char.ofNatAux, Char.toNat, UInt32.toNat]

/-- `toLower` only produces `a`-`z` from other code points. -/
theorem toLower_eq_self_of {c d : Char} (h : c.toLower = d) (hd : d.toNat < 97 ∨ 122 < d.toNat) :
    c = d := by
  unfold Char.toLower at h
  dsimp only at h
  split at h
  · subst h
    rw [toNat_ofNat_lt (by omega)] at hd
    omega
  · exact h

def hexUpper (n : Nat) : Char := if n < 10 then Char.ofNat (48 + n) else Char.ofNat (55 + n)

def percentEncodeByte (b : UInt8) : List Char :=
  ['%', hexUpper (b.toNat / 16), hexUpper (b.toNat % 16)]

/-- UTF-8 percent-encode `c` using `inSet`. -/
def encodeChar (inSet : Char → Bool) (c : Char) : List Char :=
  if inSet c then (String.utf8EncodeChar c).flatMap percentEncodeByte else [c]

def percentEncode (inSet : Char → Bool) (l : List Char) : List Char := l.flatMap (encodeChar inSet)

/-- Form-urlencoded serialization of one name or value. -/
def formEncode (l : List Char) : List Char :=
  l.flatMap fun c => if c == ' ' then ['+'] else encodeChar inFormSet c

theorem encodeChar_of_not_mem {inSet : Char → Bool} {c : Char} (h : inSet c = false) :
    encodeChar inSet c = [c] := by
  simp [encodeChar, h]

/-- Percent-encoding changes nothing outside its set. -/
theorem percentEncode_of_forall {inSet : Char → Bool} {l : List Char}
    (h : ∀ c ∈ l, inSet c = false) : percentEncode inSet l = l := by
  induction l with
  | nil => rfl
  | cons c rest ih =>
    simp only [List.mem_cons, forall_eq_or_imp] at h
    show encodeChar inSet c ++ percentEncode inSet rest = c :: rest
    rw [encodeChar_of_not_mem h.1, ih h.2]
    rfl

@[simp] theorem percentEncode_append (inSet : Char → Bool) (a b : List Char) :
    percentEncode inSet (a ++ b) = percentEncode inSet a ++ percentEncode inSet b := by
  simp [percentEncode, List.flatMap_append]

def hexValue (c : Char) : Option Nat :=
  if c.isDigit then some (c.toNat - 48)
  else if 'a' ≤ c && c ≤ 'f' then some (c.toNat - 87)
  else if 'A' ≤ c && c ≤ 'F' then some (c.toNat - 55)
  else none

/-- Percent-decode a byte sequence: `%` and two hex digits is one byte; all else is kept. -/
def percentDecode : List Nat → List Nat
  | [] => []
  | 37 :: h1 :: h2 :: rest =>
    match hexValue (Char.ofNat h1), hexValue (Char.ofNat h2) with
    | some x, some y => (16 * x + y) :: percentDecode rest
    | _, _ => 37 :: percentDecode (h1 :: h2 :: rest)
  | b :: tl => b :: percentDecode tl

/-- UTF-8 bytes of a string. -/
def utf8Bytes (l : List Char) : List Nat := l.flatMap fun c => (String.utf8EncodeChar c).map UInt8.toNat

/-- A `%XX` escape or a character kept as it is. -/
inductive Tok
  | byte (b : Nat)
  | char (c : Char)
  deriving DecidableEq, Repr

def tokenize : List Char → Option (List Tok)
  | [] => some []
  | '%' :: h1 :: h2 :: rest =>
    match hexValue h1, hexValue h2 with
    | some x, some y => (.byte (16 * x + y) :: ·) <$> tokenize rest
    | _, _ => none
  | '%' :: _ => none
  | c :: rest => (.char c :: ·) <$> tokenize rest

def isCont (b : Nat) : Bool := b / 64 == 2

/-- A decoded scalar value: neither a surrogate nor above U+10FFFF. -/
def scalar (cp lo : Nat) : Option Char :=
  if lo ≤ cp && cp ≤ 0x10FFFF && !(0xD800 ≤ cp && cp ≤ 0xDFFF) then some (Char.ofNat cp) else none

/-- Decode escapes as UTF-8; an ill-formed sequence is a `URIError` (`none`). -/
def decodeToks : List Tok → Option (List Char)
  | [] => some []
  | .char c :: rest => (c :: ·) <$> decodeToks rest
  | .byte b :: rest =>
    if b < 0x80 then (Char.ofNat b :: ·) <$> decodeToks rest
    else match b / 32, b / 16, b / 8, rest with
      | 6, _, _, .byte c1 :: rest' =>
        if isCont c1 then
          (scalar ((b % 32) * 64 + c1 % 64) 0x80).bind fun ch => (ch :: ·) <$> decodeToks rest'
        else none
      | _, 14, _, .byte c1 :: .byte c2 :: rest' =>
        if isCont c1 && isCont c2 then
          (scalar ((b % 16) * 4096 + (c1 % 64) * 64 + c2 % 64) 0x800).bind
            fun ch => (ch :: ·) <$> decodeToks rest'
        else none
      | _, _, 30, .byte c1 :: .byte c2 :: .byte c3 :: rest' =>
        if isCont c1 && isCont c2 && isCont c3 then
          (scalar ((b % 8) * 262144 + (c1 % 64) * 4096 + (c2 % 64) * 64 + c3 % 64) 0x10000).bind
            fun ch => (ch :: ·) <$> decodeToks rest'
        else none
      | _, _, _, _ => none

def decodeURIComponent (s : String) : Option String :=
  (tokenize s.toList).bind fun t => String.mk <$> decodeToks t

end ClawGuard.Web
