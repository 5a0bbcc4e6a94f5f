import ClawGuard.Security.Guard
import ClawGuard.Url.Reparse

namespace ClawGuard.Security

open Web

/-- Every pattern of `PRIVATE_IP_RANGES` begins with a digit, `:` or `f`, so a hostname that
begins with `[` is never private. -/
theorem isPrivateIP_bracketed (l : List Char) : isPrivateIP (String.mk ('[' :: l)) = false := rfl

/-- The `hostname` getter brackets an IPv6 address, so for a URL with an IPv6 host the
private-IP check of `validateUpstreamUrl` never fires: the verdict is the one it gives with
`blockPrivateIPs` off. -/
theorem validateUpstreamUrl_ipv6 {urlString : String} {u : Url} {a : List Nat}
    (hu : URL.new urlString none = some u) (hh : u.host = some (.ipv6 a))
    (security : SecurityConfig) :
    validateUpstreamUrl urlString security =
      validateUpstreamUrl urlString { security with blockPrivateIPs := false } := by
  simp [validateUpstreamUrl, hu, Url.hostname, hh, Host.serialize, isPrivateIP_bracketed]

/-- With every host allowed and private IPs blocked, IPv6 loopback, a unique-local address and a
link-local address all pass. -/
theorem ipv6_private_hosts_pass :
    validateUpstreamUrl "http://[::1]/" ⟨[], true, false, 0⟩ = .ok () ∧
    validateUpstreamUrl "http://[fd00::1]/" ⟨[], true, false, 0⟩ = .ok () ∧
    validateUpstreamUrl "http://[fe80::1]/" ⟨[], true, false, 0⟩ = .ok () :=
  ⟨rfl, rfl, rfl⟩

/-- The ranges of `PRIVATE_IP_RANGES` on an IPv4 address, by its first two octets: `127/8`,
`10/8`, `172.16/12`, `192.168/16`, `169.254/16` and `0/8`. The parser writes every IPv4 host, in
any spelling it accepts, back as four decimal octets, so the patterns test the first two. -/
def privateIPv4 (a b : Nat) : Bool :=
  a == 127 || a == 10 || (a == 172 && 16 ≤ b && b ≤ 31) || (a == 192 && b == 168) ||
    (a == 169 && b == 254) || a == 0

theorem digitChar_toNat : ∀ m < 10, (Nat.digitChar m).toNat = m + 48 := by decide

/-- `decimalValue` reads back what `toDigitsCore` writes in base 10. -/
theorem foldl_toDigitsCore (fuel n : Nat) (ds : List Char) (h : n < fuel) :
    (Nat.toDigitsCore 10 fuel n ds).foldl (fun n c => 10 * n + (c.toNat - 48)) 0 =
      ds.foldl (fun n c => 10 * n + (c.toNat - 48)) n := by
  induction fuel generalizing n ds with
  | zero => omega
  | succ f ih =>
    have hd : (Nat.digitChar (n % 10)).toNat - 48 = n % 10 := by
      rw [digitChar_toNat _ (Nat.mod_lt n (by decide))]; omega
    rw [toDigitsCore_succ]
    split
    · rw [List.foldl_cons, hd, Nat.mul_zero, Nat.zero_add, Nat.mod_eq_of_lt (by omega)]
    · rw [ih _ _ (by omega), List.foldl_cons, hd, Nat.div_add_mod]

theorem decimalValue_repr (n : Nat) : Js.Obj.decimalValue (Nat.repr n).toList = n :=
  foldl_toDigitsCore (n + 1) n [] (Nat.lt_succ_self n)

theorem repr_inj {a b : Nat} (h : (Nat.repr a).toList = (Nat.repr b).toList) : a = b := by
  rw [← decimalValue_repr a, h, decimalValue_repr]

theorem repr_digits (n : Nat) : ∀ c ∈ (Nat.repr n).toList, ∃ m < 10, c = Nat.digitChar m :=
  fun c hc => (toDigitsCore_mem (by decide) (n + 1) n [] c hc).resolve_left (List.not_mem_nil c)

theorem dot_not_mem_repr (n : Nat) : '.' ∉ (Nat.repr n).toList := fun h => by
  obtain ⟨m, hm, he⟩ := repr_digits n '.' h
  have : ∀ m < 10, Nat.digitChar m ≠ '.' := by decide
  exact this m hm he.symm

theorem repr_two_digits {n : Nat} (h1 : 10 ≤ n) (h2 : n < 100) :
    (Nat.repr n).toList = [Nat.digitChar (n / 10), Nat.digitChar (n % 10)] := by
  obtain ⟨f, rfl⟩ : ∃ f, n = f + 1 := ⟨n - 1, by omega⟩
  show Nat.toDigitsCore 10 (f + 1 + 1) (f + 1) [] = _
  rw [toDigitsCore_succ, if_neg (by omega), toDigitsCore_succ, if_pos (by omega),
    Nat.mod_eq_of_lt (by omega : (f + 1) / 10 < 10)]

/-- A pattern `^w\.p` on a text `r.t`, where neither `w` nor `r` holds a dot. -/
theorem isPrefixOf_dot {w r : List Char} (p t : List Char) (hw : '.' ∉ w) (hr : '.' ∉ r) :
    (w ++ '.' :: p).isPrefixOf (r ++ '.' :: t) = (decide (w = r) && p.isPrefixOf t) := by
  induction w generalizing r with
  | nil =>
    cases r with
    | nil => simp [List.isPrefixOf]
    | cons c r => simp [List.isPrefixOf, show '.' ≠ c from fun e => hr (e ▸ List.mem_cons_self _ _)]
  | cons x w ih =>
    simp only [List.mem_cons, not_or] at hw
    cases r with
    | nil => simp [List.isPrefixOf, show x ≠ '.' from fun e => hw.1 e.symm]
    | cons y r =>
      simp only [List.mem_cons, not_or] at hr
      simp [List.isPrefixOf, ih hw.2 hr.2, Bool.beq_eq_decide_eq, Bool.and_assoc]

theorem isPrefixOf_repr_dot (n k : Nat) (p t : List Char) :
    ((Nat.repr k).toList ++ '.' :: p).isPrefixOf ((Nat.repr n).toList ++ '.' :: t) =
      (n == k && p.isPrefixOf t) := by
  rw [isPrefixOf_dot p t (dot_not_mem_repr k) (dot_not_mem_repr n)]
  by_cases h : n = k
  · simp [h]
  · rw [decide_eq_false fun e => h (repr_inj e).symm]
    simp [h]

/-- `172\.(1[6-9]|2\d|3[01])\.` on the two digits of a second octet. -/
theorem secondOctet_digits : ∀ m₁ < 10, ∀ m₂ < 10,
    ((Nat.digitChar m₁ == '1' && '6' ≤ Nat.digitChar m₂ && Nat.digitChar m₂ ≤ '9') ||
      (Nat.digitChar m₁ == '2' && (Nat.digitChar m₂).isDigit) ||
      (Nat.digitChar m₁ == '3' && (Nat.digitChar m₂ == '0' || Nat.digitChar m₂ == '1'))) =
      (16 ≤ 10 * m₁ + m₂ && 10 * m₁ + m₂ ≤ 31) := by decide

theorem repr_head (n : Nat) : ∃ m < 10, ∃ r, (Nat.repr n).toList = Nat.digitChar m :: r := by
  obtain ⟨c, r, hcr⟩ := List.exists_cons_of_ne_nil (repr_text n).1
  obtain ⟨m, hm, rfl⟩ := repr_digits n c (hcr ▸ List.mem_cons_self _ _)
  exact ⟨m, hm, r, hcr⟩

/-- In `r.t`, with `r` the decimal text of `b` and `t` not starting with a dot, a dot in third
place means that `b` has two digits. -/
theorem repr_of_dot_third {b : Nat} {t rest : List Char} {x y : Char} (ht : t.head? ≠ some '.')
    (h : (Nat.repr b).toList ++ '.' :: t = x :: y :: '.' :: rest) :
    ∃ m₁ < 10, ∃ m₂ < 10, x = Nat.digitChar m₁ ∧ y = Nat.digitChar m₂ ∧ b = 10 * m₁ + m₂ := by
  have hne := (repr_text b).1
  have hdig := repr_digits b
  have hval := decimalValue_repr b
  have hdot := dot_not_mem_repr b
  generalize (Nat.repr b).toList = rb at *
  rcases rb with _ | ⟨x', _ | ⟨y', _ | ⟨z', r'⟩⟩⟩
  · exact absurd rfl hne
  · simp only [List.cons_append, List.nil_append, List.cons.injEq] at h
    exact absurd (by rw [h.2.2]; rfl) ht
  · simp only [List.cons_append, List.nil_append, List.cons.injEq] at h
    obtain ⟨rfl, rfl, -⟩ := h
    obtain ⟨m₁, hm₁, rfl⟩ := hdig x' (by simp)
    obtain ⟨m₂, hm₂, rfl⟩ := hdig y' (by simp)
    refine ⟨m₁, hm₁, m₂, hm₂, rfl, rfl, ?_⟩
    rw [← hval]
    simp [Js.Obj.decimalValue, digitChar_toNat _ hm₁, digitChar_toNat _ hm₂]
  · simp only [List.cons_append, List.cons.injEq] at h
    exact (hdot (by simp [h.2.2.1])).elim

/-- The patterns of `PRIVATE_IP_RANGES` on a dotted quad of decimal octets `a.b.t`: the ranges of
`a` and `b`. -/
theorem isPrivateIP_dotted (a b : Nat) {t : List Char} (ht : t.head? ≠ some '.') :
    isPrivateIP (String.mk ((Nat.repr a).toList ++ '.' :: ((Nat.repr b).toList ++ '.' :: t))) =
      privateIPv4 a b := by
  have hpre := isPrefixOf_repr_dot
  have h172 : (Nat.repr 172).data = ['1', '7', '2'] := rfl
  obtain ⟨m, hm, r, hr⟩ := repr_head a
  simp only [String.toList] at hpre hr
  have hv6 : ∀ m < 10, Nat.digitChar m ≠ ':' ∧ 'f' ≠ (Nat.digitChar m).toLower := by decide
  have h1 : ((Nat.repr a).data ++ '.' :: ((Nat.repr b).data ++ '.' :: t) == [':', ':', '1']) = false := by
    rw [hr]; simp [(hv6 m hm).1]
  have h2 : ∀ w, lowerPrefix ('f' :: w) ((Nat.repr a).data ++ '.' :: ((Nat.repr b).data ++ '.' :: t)) =
      false := by
    intro w; rw [hr]; simp [lowerPrefix, List.isPrefixOf, (hv6 m hm).2]
  unfold isPrivateIP
  rw [show "127.".toList = (Nat.repr 127).toList ++ '.' :: [] from rfl,
    show "10.".toList = (Nat.repr 10).toList ++ '.' :: [] from rfl,
    show "192.168.".toList = (Nat.repr 192).toList ++ '.' :: ((Nat.repr 168).toList ++ '.' :: []) from rfl,
    show "169.254.".toList = (Nat.repr 169).toList ++ '.' :: ((Nat.repr 254).toList ++ '.' :: []) from rfl,
    show "0.".toList = (Nat.repr 0).toList ++ '.' :: [] from rfl]
  simp only [String.toList, hpre, List.isPrefixOf, Bool.and_true, h1, h2, Bool.or_false]
  split
  · rename_i x y rest heq
    have ha : a = 172 := by
      have := hpre a 172 [] ((Nat.repr b).data ++ '.' :: t)
      rw [heq, h172] at this
      simpa [List.isPrefixOf] using this.symm
    subst ha
    rw [h172] at heq
    simp only [List.cons_append, List.nil_append, List.cons.injEq, true_and] at heq
    obtain ⟨m₁, hm₁, m₂, hm₂, rfl, rfl, rfl⟩ := repr_of_dot_third ht heq
    simpa [privateIPv4] using secondOctet_digits m₁ hm₁ m₂ hm₂
  · rename_i hne
    have hoff : (a == 172 && decide (16 ≤ b) && decide (b ≤ 31)) = false := by
      refine Bool.eq_false_iff.mpr fun h => ?_
      obtain ⟨⟨rfl, hb1⟩, hb2⟩ : (a = 172 ∧ 16 ≤ b) ∧ b ≤ 31 := by simpa using h
      have h2d : (Nat.repr b).data = _ := repr_two_digits (by omega) (by omega)
      rw [h2d, h172] at hne
      exact hne _ _ t rfl
    simp only [privateIPv4, hoff, Bool.or_false]

/-- The `hostname` of an IPv4 host, in whatever spelling the parser accepted it. -/
theorem isPrivateIP_serializeIPv4 (n : Nat) :
    isPrivateIP (String.mk (serializeIPv4 n)) = privateIPv4 (n / 16777216 % 256) (n / 65536 % 256) := by
  obtain ⟨m, -, r, hr⟩ := repr_head (n / 256 % 256)
  have ht : ((Nat.repr (n / 256 % 256)).toList ++ '.' :: (Nat.repr (n % 256)).toList).head? ≠
      some '.' := by
    rw [hr]
    simp only [List.cons_append, List.head?_cons, ne_eq, Option.some.injEq]
    exact fun h => dot_not_mem_repr _ (by rw [hr, ← h]; exact List.mem_cons_self _ _)
  rw [← isPrivateIP_dotted _ _ ht]
  simp only [serializeIPv4, List.append_assoc, List.cons_append]

/-- For a URL whose host the parser read as an IPv4 address, in any spelling it accepts, with
`blockPrivateIPs` on: an address in the ranges is rejected whatever the allowlist, and one outside
them gets the verdict it gets with the block off. -/
theorem validateUpstreamUrl_ipv4 {urlString : String} {u : Url} {n : Nat}
    (hu : URL.new urlString none = some u) (hh : u.host = some (.ipv4 n))
    (security : SecurityConfig) (hblock : security.blockPrivateIPs = true) :
    (privateIPv4 (n / 16777216 % 256) (n / 65536 % 256) = true →
      ∃ e, validateUpstreamUrl urlString security = .error e) ∧
    (privateIPv4 (n / 16777216 % 256) (n / 65536 % 256) = false →
      validateUpstreamUrl urlString security =
        validateUpstreamUrl urlString { security with blockPrivateIPs := false }) := by
  have hip : isPrivateIP (String.mk u.hostname) = privateIPv4 (n / 16777216 % 256) (n / 65536 % 256) := by
    rw [← isPrivateIP_serializeIPv4]; simp [Url.hostname, hh, Host.serialize]
  refine ⟨fun hp => ?_, fun hp => by simp [validateUpstreamUrl, hu, hip, hp]⟩
  simp only [validateUpstreamUrl, hu, hip, hp, hblock, Bool.true_and]
  split_ifs <;> exact ⟨_, rfl⟩

/-- `0x7f.1` is `127.0.0.1` and is refused; `134744072` is `8.8.8.8` and passes as it would with
the block off. -/
theorem ipv4_spellings_checked :
    (∃ e, validateUpstreamUrl "http://0x7f.1/" ⟨[], true, false, 0⟩ = .error e) ∧
    validateUpstreamUrl "http://134744072/" ⟨[], true, false, 0⟩ =
      validateUpstreamUrl "http://134744072/" ⟨[], false, false, 0⟩ :=
  ⟨(@validateUpstreamUrl_ipv4 "http://0x7f.1/" _ _ rfl rfl _ rfl).1 rfl,
    (@validateUpstreamUrl_ipv4 "http://134744072/" _ _ rfl rfl _ rfl).2 rfl⟩

end ClawGuard.Security
