import ClawGuard.Js
import Mathlib.Algebra.Group.Nat.Basic

namespace ClawGuard.Admin

/-- One octet of the `net.isIPv4` pattern: `25[0-5]|2[0-4][0-9]|1[0-9][0-9]|[1-9][0-9]|[0-9]`. -/
def isOctet (l : List Char) : Bool :=
  l ≠ [] && l.length ≤ 3 && l.all Char.isDigit && (l.length == 1 || l.head? != some '0') &&
    Js.Obj.decimalValue l ≤ 255

/-- `net.isIPv4(s)`: four octets joined by dots. -/
def isIPv4 (s : String) : Bool :=
  let parts := Js.split s '.'
  parts.length == 4 && parts.all fun p => isOctet p.toList

/-- `parseInt(s, 10)`: white space, an optional sign, then the longest run of decimal digits;
`none` is `NaN`. -/
def parseInt (s : String) : Option Int :=
  let l := s.toList.dropWhile Js.isSpace
  let (negative, rest) : Bool × List Char :=
    match l with
    | '-' :: r => (true, r)
    | '+' :: r => (false, r)
    | r => (false, r)
  let digits := rest.takeWhile Char.isDigit
  if digits = [] then none
  else some (if negative then -(Js.Obj.decimalValue digits : Int) else Js.Obj.decimalValue digits)

/-- `ToInt32` of a non-negative integral number: a JS number that goes through `<<`, `|` or `&` is
its 32-bit pattern, `===` on two such results compares patterns, and `>>> 0` reads a pattern back
as an unsigned number. -/
def toInt32 (n : Nat) : BitVec 32 := BitVec.ofNat 32 n

/-- `ipv4ToInt(ip)`: `((p[0] << 24) | (p[1] << 16) | (p[2] << 8) | p[3]) >>> 0` with `p` the
parts' `Number` values, read on the decimal parts that `isIPv4` admits; a missing part is `NaN`,
whose `ToInt32` is 0. -/
def ipv4ToInt (ip : String) : Nat :=
  let parts := (Js.split ip '.').map fun p => Js.Obj.decimalValue p.toList
  let part (i : Nat) := toInt32 (parts.getD i 0)
  ((part 0 <<< 24) ||| (part 1 <<< 16) ||| (part 2 <<< 8) ||| part 3).toNat

/-- `const [network, prefixStr] = cidr.split('/')`; a missing piece is `undefined`, which
`parseInt` and `net.isIPv4` read as the text "undefined". -/
def cidrParts (cidr : String) : String × String :=
  match Js.split cidr '/' with
  | network :: prefixStr :: _ => (network, prefixStr)
  | [network] => (network, "undefined")
  | [] => ("undefined", "undefined")

/-- `(~0 << (32 - prefix)) >>> 0` for a prefix in `1..32`; the shift count is taken mod 32. -/
def highMask (pfx : Int) : Nat := (BitVec.allOnes 32 <<< ((32 - pfx).toNat % 32)).toNat

def isIpInCidr (ip cidr : String) : Bool :=
  let (network, prefixStr) := cidrParts cidr
  if !isIPv4 ip || !isIPv4 network then false
  else
    match parseInt prefixStr with
    | none => false
    | some pfx =>
      if pfx < 0 || pfx > 32 then false
      else
        let ipNum := ipv4ToInt ip
        let netNum := ipv4ToInt network
        let mask := if pfx = 0 then 0 else highMask pfx
        toInt32 ipNum &&& toInt32 mask == toInt32 netNum &&& toInt32 mask

/-- `clientIp.replace(/^::ffff:/, '')`. -/
def stripMapped (clientIp : String) : String :=
  if Js.startsWith clientIp "::ffff:" then String.mk (clientIp.toList.drop 7) else clientIp

def ipMatchesEntry (clientIp entry : String) : Bool :=
  let normalizedClient := stripMapped clientIp
  if entry.toList.contains '/' then isIpInCidr normalizedClient entry
  else clientIp == entry || normalizedClient == entry || clientIp == "::ffff:" ++ entry

/-- The admin router's first middleware: the client `req.ip || req.socket.remoteAddress || ''`
must match an entry of `config.admin.allowedIPs`, else `403`. -/
def adminIpGate (allowedIPs : List String) (ip remoteAddress : Option String) :
    Except (Nat × String) Unit :=
  let clientIp := Js.orElse (ip.getD "") (Js.orElse (remoteAddress.getD "") "")
  if !allowedIPs.any (ipMatchesEntry clientIp) then
    .error (403, "Admin panel is not accessible from your IP")
  else .ok ()

/-- The 32-bit value of a dotted quad `a.b.c.d`. -/
def quadValue (q : String) : Nat :=
  match (Js.split q '.').map fun p => Js.Obj.decimalValue p.toList with
  | [a, b, c, d] => a * 2 ^ 24 + b * 2 ^ 16 + c * 2 ^ 8 + d
  | _ => 0

/-- The shifts and ors of `ipv4ToInt` place four octets side by side. -/
theorem or_shifts_toNat {a b c d : Nat} (ha : a < 2 ^ 8) (hb : b < 2 ^ 8) (hc : c < 2 ^ 8)
    (hd : d < 2 ^ 8) :
    ((toInt32 a <<< 24) ||| (toInt32 b <<< 16) ||| (toInt32 c <<< 8) ||| toInt32 d).toNat =
      a * 2 ^ 24 + b * 2 ^ 16 + c * 2 ^ 8 + d := by
  have placed : ∀ (x k : Nat), x < 2 ^ 8 → k ≤ 24 → ((x % 2 ^ 32) <<< k) % 2 ^ 32 = 2 ^ k * x := by
    intro x k hx hk
    have hlt : 2 ^ k * x < 2 ^ 32 := calc
      2 ^ k * x < 2 ^ k * 2 ^ 8 := Nat.mul_lt_mul_of_pos_left hx (Nat.two_pow_pos k)
      _ = 2 ^ (k + 8) := (Nat.pow_add 2 k 8).symm
      _ ≤ 2 ^ 32 := Nat.pow_le_pow_right (by decide) (by omega)
    rw [Nat.mod_eq_of_lt (by omega : x < 2 ^ 32), Nat.shiftLeft_eq, Nat.mul_comm, Nat.mod_eq_of_lt hlt]
  simp only [toInt32, BitVec.toNat_or, BitVec.toNat_shiftLeft, BitVec.toNat_ofNat, placed a 24 ha le_rfl,
    placed b 16 hb (by decide), placed c 8 hc (by decide), Nat.mod_eq_of_lt (by omega : d < 2 ^ 32),
    Nat.or_assoc]
  rw [← Nat.mul_add_lt_is_or hd, ← Nat.mul_add_lt_is_or (by omega : 2 ^ 8 * c + d < 2 ^ 16),
    ← Nat.mul_add_lt_is_or (by omega : 2 ^ 16 * b + (2 ^ 8 * c + d) < 2 ^ 24)]
  omega

/-- A bit of `x & (~0 << k)`: a bit of `x` at position `k` or above. -/
theorem testBit_toInt32_and_mask (x k i : Nat) :
    (toInt32 x &&& (BitVec.allOnes 32 <<< k)).getLsbD i =
      (decide (i < 32) && decide (k ≤ i) && x.testBit i) := by
  simp only [toInt32, BitVec.getLsbD_and, BitVec.getLsbD_ofNat, BitVec.getLsbD_shiftLeft,
    BitVec.getLsbD_allOnes]
  by_cases h1 : i < 32 <;> by_cases h2 : k ≤ i <;> simp [h1, h2]
  omega

theorem and_mask_eq_iff {x y : Nat} (hx : x < 2 ^ 32) (hy : y < 2 ^ 32) (k : Nat) :
    toInt32 x &&& (BitVec.allOnes 32 <<< k) = toInt32 y &&& (BitVec.allOnes 32 <<< k) ↔
      x / 2 ^ k = y / 2 ^ k := by
  constructor
  · intro h
    rw [← Nat.shiftRight_eq_div_pow, ← Nat.shiftRight_eq_div_pow]
    apply Nat.eq_of_testBit_eq
    intro j
    rw [Nat.testBit_shiftRight, Nat.testBit_shiftRight]
    by_cases hj : k + j < 32
    · have : (toInt32 x &&& (BitVec.allOnes 32 <<< k)).getLsbD (k + j) =
          (toInt32 y &&& (BitVec.allOnes 32 <<< k)).getLsbD (k + j) := by rw [h]
      rw [testBit_toInt32_and_mask, testBit_toInt32_and_mask] at this
      simpa [hj] using this
    · rw [Nat.testBit_lt_two_pow (lt_of_lt_of_le hx (Nat.pow_le_pow_right (by decide) (by omega))),
        Nat.testBit_lt_two_pow (lt_of_lt_of_le hy (Nat.pow_le_pow_right (by decide) (by omega)))]
  · intro h
    apply BitVec.eq_of_getLsbD_eq
    intro i
    rw [testBit_toInt32_and_mask, testBit_toInt32_and_mask]
    by_cases hi : k ≤ i
    · have := congrArg (Nat.testBit · (i - k)) h
      simp only [← Nat.shiftRight_eq_div_pow, Nat.testBit_shiftRight, Nat.add_sub_cancel' hi] at this
      rw [this]
    · simp [hi]

theorem isIPv4_octets {q : String} (h : isIPv4 q = true) :
    ∃ a b c d, (Js.split q '.').map (fun p => Js.Obj.decimalValue p.toList) = [a, b, c, d] ∧
      a < 2 ^ 8 ∧ b < 2 ^ 8 ∧ c < 2 ^ 8 ∧ d < 2 ^ 8 := by
  simp only [isIPv4, Bool.and_eq_true, beq_iff_eq, List.all_eq_true] at h
  obtain ⟨hlen, hall⟩ := h
  have octet : ∀ p ∈ Js.split q '.', Js.Obj.decimalValue p.toList < 2 ^ 8 := fun p hp => by
    have := hall p hp
    simp only [isOctet, Bool.and_eq_true, decide_eq_true_eq] at this
    omega
  generalize Js.split q '.' = l at hlen octet
  match l, hlen with
  | [p0, p1, p2, p3], _ => exact ⟨_, _, _, _, rfl, octet p0 (by simp), octet p1 (by simp),
      octet p2 (by simp), octet p3 (by simp)⟩

/-- Every character of a dotted quad is a dot or a digit. -/
theorem isIPv4_chars {q : String} (h : isIPv4 q = true) {c : Char} (hc : c ∈ q.toList) :
    c = '.' ∨ c.isDigit = true := by
  simp only [isIPv4, Bool.and_eq_true, List.all_eq_true] at h
  rcases Js.mem_split_of_mem '.' hc with e | ⟨p, hp, hcp⟩
  · exact .inl e
  · have := h.2 p hp
    simp only [isOctet, Bool.and_eq_true, List.all_eq_true] at this
    exact .inr (this.1.1.2 c hcp)

theorem ipv4ToInt_eq {q : String} (h : isIPv4 q = true) : ipv4ToInt q = quadValue q := by
  obtain ⟨a, b, c, d, hs, ha, hb, hc, hd⟩ := isIPv4_octets h
  simp only [ipv4ToInt, quadValue, hs]
  exact or_shifts_toNat ha hb hc hd

theorem quadValue_lt {q : String} (h : isIPv4 q = true) : quadValue q < 2 ^ 32 := by
  obtain ⟨a, b, c, d, hs, ha, hb, hc, hd⟩ := isIPv4_octets h
  simp only [quadValue, hs]
  omega

theorem stripMapped_of_isIPv4 {q : String} (h : isIPv4 q = true) : stripMapped q = q := by
  unfold stripMapped
  rw [if_neg]
  intro hp
  rcases isIPv4_chars h ((Js.startsWith_iff _ _).mp hp |>.subset (by decide : ':' ∈ "::ffff:".toList)) with e | e
  · cases e
  · cases e

theorem stripMapped_mapped (q : String) : stripMapped ("::ffff:" ++ q) = q := by
  unfold stripMapped
  rw [if_pos ((Js.startsWith_iff _ _).mpr (by simp [String.toList]))]
  show String.mk (("::ffff:".toList ++ q.toList).drop 7) = String.mk q.toList
  rw [@List.drop_left' Char "::ffff:".toList q.toList 7 rfl]

theorem toInt32_highMask {p : Int} (h1 : 0 < p) (h2 : p ≤ 32) :
    toInt32 (highMask p) = BitVec.allOnes 32 <<< (32 - p.toNat) := by
  have hk : (32 - p).toNat % 32 = 32 - p.toNat := by omega
  rw [toInt32, highMask, hk, BitVec.ofNat_toNat, BitVec.setWidth_eq]

/-- On a dotted-quad client, the CIDR test compares the top `p` bits of the two 32-bit values,
where `p` is whatever `parseInt` reads from the text after the first slash. -/
theorem isIpInCidr_iff {q : String} (hq : isIPv4 q = true) (cidr : String) :
    isIpInCidr q cidr = true ↔
      isIPv4 (cidrParts cidr).1 = true ∧ ∃ p : Int, parseInt (cidrParts cidr).2 = some p ∧
        0 ≤ p ∧ p ≤ 32 ∧
        quadValue q / 2 ^ (32 - p.toNat) = quadValue (cidrParts cidr).1 / 2 ^ (32 - p.toNat) := by
  unfold isIpInCidr
  generalize cidrParts cidr = parts
  obtain ⟨network, prefixStr⟩ := parts
  simp only [hq, Bool.not_true, Bool.false_or]
  by_cases hn : isIPv4 network = true
  · simp only [hn, Bool.not_true, if_false, true_and]
    cases hp : parseInt prefixStr with
    | none => simp
    | some p =>
      simp only [Option.some.injEq, exists_eq_left', ipv4ToInt_eq hq, ipv4ToInt_eq hn]
      by_cases hr : 0 ≤ p ∧ p ≤ 32
      · have hc : (decide (p < 0) || decide (p > 32)) = false := by
          simp only [Bool.or_eq_false_iff, decide_eq_false_iff_not]; omega
        simp only [hc, Bool.false_eq_true, if_false, hr, true_and, beq_iff_eq]
        by_cases h0 : p = 0
        · subst h0
          have h1 : quadValue q / 4294967296 = 0 := Nat.div_eq_of_lt (quadValue_lt hq)
          have h2 : quadValue network / 4294967296 = 0 := Nat.div_eq_of_lt (quadValue_lt hn)
          simp [toInt32, h1, h2]
        · rw [if_neg h0, toInt32_highMask (by omega) hr.2,
            and_mask_eq_iff (quadValue_lt hq) (quadValue_lt hn)]
      · have hc : (decide (p < 0) || decide (p > 32)) = true := by
          simp only [Bool.or_eq_true, decide_eq_true_eq]; omega
        simp only [hc, if_true, ite_self, Bool.false_eq_true, false_iff]
        rintro ⟨h1, h2, -⟩
        exact hr ⟨h1, h2⟩
  · simp [hn]

theorem isIPv4_no_slash {q : String} (h : isIPv4 q = true) : '/' ∉ q.toList := fun hm => by
  rcases isIPv4_chars h hm with e | e <;> exact absurd e (by decide)

theorem mapped_inj {a b : String} : "::ffff:" ++ a = "::ffff:" ++ b ↔ a = b := by
  simp [String.ext_iff]

/-- On a client that is a dotted quad, or one behind `::ffff:`, an entry without a slash
matches when it is the client's text with or without the prefix, and an entry with a slash is a
CIDR test whose network is the text before the first slash and whose length is what `parseInt`
reads after it. -/
theorem ipMatchesEntry_iff {q c : String} (hq : isIPv4 q = true) (hc : c = q ∨ c = "::ffff:" ++ q)
    (e : String) :
    ipMatchesEntry c e = true ↔
      (e = c ∨ "::ffff:" ++ e = c) ∨
      ('/' ∈ e.toList ∧ isIPv4 (cidrParts e).1 = true ∧
        ∃ p : Int, parseInt (cidrParts e).2 = some p ∧ 0 ≤ p ∧ p ≤ 32 ∧
          quadValue q / 2 ^ (32 - p.toNat) = quadValue (cidrParts e).1 / 2 ^ (32 - p.toNat)) := by
  obtain ⟨hn, hc'⟩ : stripMapped c = q ∧ '/' ∉ c.toList := by
    rcases hc with rfl | rfl
    · exact ⟨stripMapped_of_isIPv4 hq, isIPv4_no_slash hq⟩
    · exact ⟨stripMapped_mapped q, fun h => (List.mem_append.mp h).elim (by decide) (isIPv4_no_slash hq)⟩
  have hslash : ∀ {s : String}, '/' ∈ s.toList → s ≠ c ∧ "::ffff:" ++ s ≠ c := fun hs =>
    ⟨fun h => hc' (h ▸ hs), fun h => hc' (h ▸ (List.mem_append_right "::ffff:".toList hs :
      '/' ∈ ("::ffff:" ++ _).toList))⟩
  unfold ipMatchesEntry
  simp only [hn]
  by_cases he : '/' ∈ e.toList
  · rw [if_pos (List.elem_iff.mpr he), isIpInCidr_iff hq]
    simp only [(hslash he).1, (hslash he).2, or_self, false_or, he, true_and]
  · rw [if_neg (by simpa using he)]
    simp only [he, false_and, or_false, Bool.or_eq_true, beq_iff_eq]
    rcases hc with rfl | rfl
    · simp only [or_self, eq_comm]
    · simp only [mapped_inj, eq_comm]
      tauto

theorem cidrParts_append {n s : String} (hn : '/' ∉ n.toList) (hs : '/' ∉ s.toList) :
    cidrParts (n ++ String.mk ['/'] ++ s) = (n, s) := by
  rw [cidrParts, Js.split_append_sep, Js.split_of_not_mem hn, Js.split_of_not_mem hs]
  rfl

theorem adminIpGate_ok (allowedIPs : List String) (ip remoteAddress : Option String) :
    adminIpGate allowedIPs ip remoteAddress = .ok () ↔
      allowedIPs.any (ipMatchesEntry
        (Js.orElse (ip.getD "") (Js.orElse (remoteAddress.getD "") ""))) = true := by
  unfold adminIpGate
  dsimp only
  split <;> simp_all

/-- A client behind `::ffff:` and an entry whose prefix length is spelt with a leading zero. -/
theorem mapped_client_padded_prefix :
    isIPv4 "10.1.2.3" = true ∧
    ("::ffff:10.1.2.3" = "10.1.2.3" ∨ "::ffff:10.1.2.3" = "::ffff:" ++ "10.1.2.3") ∧
    (ipMatchesEntry "::ffff:10.1.2.3" "10.0.0.0/08" = true ↔
      ("10.0.0.0/08" = "::ffff:10.1.2.3" ∨ "::ffff:" ++ "10.0.0.0/08" = "::ffff:10.1.2.3") ∨
      ('/' ∈ "10.0.0.0/08".toList ∧ isIPv4 (cidrParts "10.0.0.0/08").1 = true ∧
        ∃ p : Int, parseInt (cidrParts "10.0.0.0/08").2 = some p ∧ 0 ≤ p ∧ p ≤ 32 ∧
          quadValue "10.1.2.3" / 2 ^ (32 - p.toNat) =
            quadValue (cidrParts "10.0.0.0/08").1 / 2 ^ (32 - p.toNat))) :=
  ⟨by decide, .inr rfl, ipMatchesEntry_iff (by decide) (.inr rfl) _⟩

/-- `parseInt` reads "08" as 8, so "10.0.0.0/08" admits 10.1.2.3, although the only way to write
that entry as a dotted quad, a slash and a decimal numeral is with the numeral "08". Text after a
second slash, and white space and a sign before the digits, are ignored as well. -/
theorem noncanonical_prefix_admits :
    ipMatchesEntry "10.1.2.3" "10.0.0.0/08" = true ∧
    ipMatchesEntry "10.1.2.3" "10.0.0.0/8/16" = true ∧
    ipMatchesEntry "10.1.2.3" "10.0.0.0/ +8" = true ∧
    ¬∃ n : String, ∃ k : Nat, k ≤ 32 ∧ isIPv4 n = true ∧ "10.0.0.0/08" = n ++ "/" ++ Nat.repr k := by
  refine ⟨by decide, by decide, by decide, ?_⟩
  rintro ⟨n, k, hk, hn, he⟩
  have hdigits : ∀ k < 33, '/' ∉ (Nat.repr k).toList ∧ ("08" : String) ≠ Nat.repr k := by decide
  have h : (cidrParts "10.0.0.0/08").2 = (cidrParts (n ++ "/" ++ Nat.repr k)).2 := by rw [← he]
  rw [show ("/" : String) = String.mk ['/'] from rfl,
    cidrParts_append (isIPv4_no_slash hn) (hdigits k (by omega)).1] at h
  exact (hdigits k (by omega)).2 h

end ClawGuard.Admin
