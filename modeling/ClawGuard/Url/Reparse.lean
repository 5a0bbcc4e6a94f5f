import ClawGuard.Url.Parser
import ClawGuard.Js

namespace ClawGuard.Web

/-- Characters that stay inside an authority when it is read back: no `/`, `\`, `?` or `#`
(which end it) and no tab or newline (which the parser deletes). -/
def inAuthority (c : Char) : Bool := !isAuthorityEnd true c && !isTabOrNewline c

theorem char_eq_of_toNat {c d : Char} (h : c.toNat = d.toNat) : c = d := Char.ext (UInt32.toNat.inj h)

theorem beq_eq_toNat (c d : Char) : (c == d) = decide (c.toNat = d.toNat) := by
  rw [Bool.eq_iff_iff, beq_iff_eq, decide_eq_true_iff]
  exact ⟨congrArg _, char_eq_of_toNat⟩

theorem isUpper_eq (c : Char) : c.isUpper = (65 ≤ c.toNat && c.toNat ≤ 90) := by
  simp only [Char.isUpper, Char.toNat, ge_iff_le, UInt32.le_def]; rfl

theorem isLower_eq (c : Char) : c.isLower = (97 ≤ c.toNat && c.toNat ≤ 122) := by
  simp only [Char.isLower, Char.toNat, ge_iff_le, UInt32.le_def]; rfl

theorem isDigit_eq (c : Char) : c.isDigit = (48 ≤ c.toNat && c.toNat ≤ 57) := by
  simp only [Char.isDigit, Char.toNat, ge_iff_le, UInt32.le_def]; rfl

theorem toNat_toLower (c : Char) :
    c.toLower.toNat = if 65 ≤ c.toNat ∧ c.toNat ≤ 90 then c.toNat + 32 else c.toNat := by
  unfold Char.toLower
  dsimp only
  split
  · rw [toNat_ofNat_lt (by omega)]
  · rfl

theorem isAlpha_toLower {c : Char} (h : c.isAlpha = true) : c.toLower.isAlpha = true := by
  simp only [Char.isAlpha, isUpper_eq, isLower_eq, toNat_toLower, Bool.or_eq_true, Bool.and_eq_true,
    decide_eq_true_eq] at h ⊢
  split_ifs <;> omega

theorem isSchemeChar_toLower {c : Char} (h : isSchemeChar c = true) :
    isSchemeChar c.toLower = true := by
  by_cases hu : 65 ≤ c.toNat ∧ c.toNat ≤ 90
  · have : c.toLower.toNat = c.toNat + 32 := by rw [toNat_toLower, if_pos hu]
    simp only [isSchemeChar, Char.isAlphanum, Char.isAlpha, isLower_eq, this, Bool.or_eq_true,
      Bool.and_eq_true, decide_eq_true_eq]
    omega
  · rwa [show c.toLower = c from char_eq_of_toNat (by rw [toNat_toLower, if_neg hu])]

theorem toLower_toLower (c : Char) : c.toLower.toLower = c.toLower :=
  char_eq_of_toNat (by rw [toNat_toLower, toNat_toLower]; split_ifs <;> omega)

theorem inAuthority_of_userinfo {c : Char} (h : inUserinfoSet c = false) : inAuthority c = true := by
  simp only [inUserinfoSet, inPathSet, inQuerySet, inC0ControlSet, Bool.or_eq_false_iff,
    beq_eq_false_iff_ne, decide_eq_false_iff_not] at h
  simp only [inAuthority, isAuthorityEnd, isTabOrNewline, Bool.true_and, Bool.and_eq_true,
    Bool.not_eq_true', Bool.or_eq_false_iff, beq_eq_false_iff_ne]
  refine ⟨⟨⟨⟨?_, ?_⟩, ?_⟩, ?_⟩, ⟨?_, ?_⟩, ?_⟩ <;> intro hc <;> subst hc <;> simp_all

theorem hexUpper_inAuthority : ∀ k < 16, inAuthority (hexUpper k) = true := by decide

theorem digitChar_inAuthority : ∀ m < 16, inAuthority (Nat.digitChar m) = true := by decide

theorem toDigitsCore_succ (base f n : Nat) (ds : List Char) :
    Nat.toDigitsCore base (f + 1) n ds = if n / base = 0 then Nat.digitChar (n % base) :: ds
      else Nat.toDigitsCore base f (n / base) (Nat.digitChar (n % base) :: ds) := rfl

theorem toDigitsCore_mem {base : Nat} (hb : 0 < base) (fuel n : Nat) (ds : List Char) :
    ∀ c ∈ Nat.toDigitsCore base fuel n ds, c ∈ ds ∨ ∃ m < base, c = Nat.digitChar m := by
  induction fuel generalizing n ds with
  | zero => exact fun c hc => .inl hc
  | succ f ih =>
    intro c hc
    rw [toDigitsCore_succ] at hc
    have hd : ∀ c ∈ Nat.digitChar (n % base) :: ds, c ∈ ds ∨ ∃ m < base, c = Nat.digitChar m :=
      fun c hc => (List.mem_cons.mp hc).elim (fun h => .inr ⟨_, Nat.mod_lt n hb, h⟩) .inl
    split at hc
    · exact hd c hc
    · exact (ih _ _ c hc).elim (hd c) .inr

theorem toDigitsCore_ne_nil (base fuel n : Nat) {ds : List Char} (h : ds ≠ []) :
    Nat.toDigitsCore base fuel n ds ≠ [] := by
  induction fuel generalizing n ds with
  | zero => exact h
  | succ f ih =>
    rw [toDigitsCore_succ]
    split
    · simp
    · exact ih _ (List.cons_ne_nil _ _)

/-- Text that reads back as one authority component: nonempty, and all of it inside. -/
def AuthorityText (s : List Char) : Prop := s ≠ [] ∧ ∀ c ∈ s, inAuthority c = true

theorem toDigits_text {base : Nat} (hb : 0 < base) (hb16 : base ≤ 16) (n : Nat) :
    AuthorityText (Nat.toDigits base n) := by
  refine ⟨?_, fun c hc => ?_⟩
  · rw [show Nat.toDigits base n = Nat.toDigitsCore base (n + 1) n [] from rfl, toDigitsCore_succ]
    split
    · simp
    · exact toDigitsCore_ne_nil _ _ _ (List.cons_ne_nil _ _)
  · rcases toDigitsCore_mem hb _ _ _ c hc with h | ⟨m, hm, rfl⟩
    · cases h
    · exact digitChar_inAuthority m (by omega)

theorem repr_text (n : Nat) : AuthorityText (Nat.repr n).toList :=
  show AuthorityText (Nat.toDigits 10 n) from toDigits_text (by omega) (by omega) n

theorem AuthorityText.append {s t : List Char} (hs : AuthorityText s) (ht : ∀ c ∈ t, inAuthority c = true) :
    AuthorityText (s ++ t) :=
  ⟨by simp [hs.1], fun c hc => (List.mem_append.mp hc).elim (hs.2 c) (ht c)⟩

theorem AuthorityText.append_left {s t : List Char} (hs : ∀ c ∈ s, inAuthority c = true)
    (ht : AuthorityText t) : AuthorityText (s ++ t) :=
  ⟨by simp [ht.1], fun c hc => (List.mem_append.mp hc).elim (hs c) (ht.2 c)⟩

theorem serializeIPv4_text (n : Nat) : AuthorityText (serializeIPv4 n) := by
  have h := fun m => (repr_text m).2
  unfold serializeIPv4
  refine ⟨by simp, fun c hc => ?_⟩
  simp only [List.mem_cons, List.mem_append] at hc
  rcases hc with ((hc | rfl | hc) | rfl | hc) | rfl | hc
  all_goals first | rfl | exact h _ c hc

theorem hexPieces_inAuthority (l : List Nat) : ∀ c ∈ hexPieces l, inAuthority c = true := by
  intro c hc
  obtain ⟨p, hp, hc⟩ := List.mem_flatten.mp hc
  rcases Js.mem_intersperse hp with rfl | hp
  · simp only [String.toList, List.mem_singleton] at hc
    subst hc; rfl
  · obtain ⟨n, -, rfl⟩ := List.mem_map.mp hp
    exact (toDigits_text (by omega) le_rfl n).2 c hc

theorem serializeIPv6_text (a : List Nat) : AuthorityText ('[' :: serializeIPv6 a ++ [']']) := by
  refine ⟨by simp, fun c hc => ?_⟩
  simp only [List.cons_append, List.mem_cons, List.mem_append, List.mem_singleton,
    List.not_mem_nil, or_false] at hc
  rcases hc with rfl | hc | rfl
  · rfl
  · unfold serializeIPv6 at hc
    split at hc
    · exact hexPieces_inAuthority _ c hc
    · simp only [List.mem_append] at hc
      rcases hc with (hc | hc) | hc
      · exact hexPieces_inAuthority _ c hc
      · exact (by decide : ∀ c ∈ "::".toList, inAuthority c = true) c hc
      · exact hexPieces_inAuthority _ c hc
  · rfl

/-- A host parsed for a special URL serializes to authority text. -/
theorem hostParse_text {input : List Char} {h : Host} (hp : hostParse input false = some h) :
    AuthorityText h.serialize := by
  unfold hostParse at hp
  split at hp
  · split at hp
    · obtain ⟨a, -, rfl⟩ := Option.map_eq_some'.mp hp
      exact serializeIPv6_text a
    · cases hp
  · simp only [Bool.false_eq_true, if_false] at hp
    obtain ⟨ascii, hascii, hp⟩ := Option.bind_eq_some.mp hp
    split at hp
    · cases hp
    · rename_i hforb
      split at hp
      · obtain ⟨n, -, rfl⟩ := Option.map_eq_some'.mp hp
        exact serializeIPv4_text n
      · cases hp
        refine ⟨?_, fun c hc => ?_⟩
        · unfold domainToAscii at hascii
          split at hascii
          · cases hascii
          · rename_i hb
            cases hascii
            simp only [Host.serialize, ne_eq, List.map_eq_nil_iff]
            exact fun h => hb (.inl h)
        · have hc' : isForbiddenDomain c = false := by
            simpa using fun h => hforb (List.any_eq_true.mpr ⟨c, hc, h⟩)
          simp only [isForbiddenDomain, isForbiddenHost, Bool.or_eq_false_iff] at hc'
          simp only [inAuthority, isAuthorityEnd, isTabOrNewline, hc', Bool.true_and,
            Bool.or_false, Bool.false_or, Bool.not_false, Bool.and_self]

theorem percentEncode_userinfo (l : List Char) :
    ∀ c ∈ percentEncode inUserinfoSet l, inAuthority c = true := by
  intro c hc
  obtain ⟨d, -, hd⟩ := List.mem_flatMap.mp hc
  unfold encodeChar at hd
  split at hd
  · obtain ⟨b, -, hb⟩ := List.mem_flatMap.mp hd
    simp only [percentEncodeByte, List.mem_cons, List.mem_singleton, List.not_mem_nil,
      or_false] at hb
    have : b.toNat < 256 := b.val.isLt
    rcases hb with rfl | rfl | rfl
    · rfl
    · exact hexUpper_inAuthority _ (by omega)
    · exact hexUpper_inAuthority _ (Nat.mod_lt _ (by omega))
  · rename_i hnot
    rw [List.mem_singleton.mp hd]
    exact inAuthority_of_userinfo (by simpa using hnot)

/-- The parts of a URL that `href` writes before its path. -/
def Url.authority (u : Url) : Url := { u with path := .segments [], query := none, fragment := none }

theorem Url.authority_fields {u v : Url} (h : v.authority = u.authority) :
    v.scheme = u.scheme ∧ v.username = u.username ∧ v.password = u.password ∧ v.host = u.host ∧
      v.port = u.port := by
  have hs := congrArg Url.scheme h
  have hn := congrArg Url.username h
  have hp := congrArg Url.password h
  have hh := congrArg Url.host h
  have ho := congrArg Url.port h
  exact ⟨hs, hn, hp, hh, ho⟩

@[simp] theorem queryFragment_authority (u : Url) (l : List Char) :
    (queryFragment u l).authority = u.authority := by
  unfold queryFragment; split <;> rfl

@[simp] theorem queryFragment_path (u : Url) (l : List Char) : (queryFragment u l).path = u.path := by
  unfold queryFragment; split <;> rfl

@[simp] theorem withPath_authority (u : Url) (segs : List (List Char)) (l : List Char) :
    (withPath u segs l).authority = u.authority := by
  simp only [withPath, queryFragment_authority]; rfl

@[simp] theorem withPath_scheme (u : Url) (segs : List (List Char)) (l : List Char) :
    (withPath u segs l).scheme = u.scheme :=
  (Url.authority_fields (withPath_authority u segs l)).1

@[simp] theorem noBasePath_scheme (s l : List Char) : (noBasePath s l).scheme = s :=
  (Url.authority_fields (queryFragment_authority _ _)).1

theorem endSegment_ne_nil (segs : List (List Char)) (buf : List Char) : endSegment segs buf false ≠ [] := by
  simp only [endSegment, Bool.false_eq_true, if_false]; split_ifs <;> simp

theorem pathState_ne_nil (sp : Bool) (segs : List (List Char)) (buf l : List Char) :
    (pathState sp segs buf l).1 ≠ [] := by
  induction l generalizing segs buf with
  | nil => exact endSegment_ne_nil segs buf
  | cons c rest ih =>
    unfold pathState
    split_ifs
    · exact ih _ _
    · exact endSegment_ne_nil segs buf
    · exact ih _ _

theorem withPath_segments (u : Url) (segs : List (List Char)) (l : List Char) :
    ∃ s, (withPath u segs l).path = .segments s ∧ s ≠ [] :=
  ⟨(pathState (isSpecialScheme u.scheme) segs [] l).1, by simp only [withPath, queryFragment_path],
    pathState_ne_nil _ _ _ _⟩

@[simp] theorem pathStart_authority (u : Url) (l : List Char) :
    (pathStart u l).authority = u.authority := by
  unfold pathStart; split <;> split <;> (try split) <;> simp

theorem pathStart_segments {u : Url} (h : isSpecialScheme u.scheme = true) (l : List Char) :
    ∃ s, (pathStart u l).path = .segments s ∧ s ≠ [] := by
  unfold pathStart
  rw [if_pos h]
  split
  · split <;> exact withPath_segments _ _ _
  · exact withPath_segments _ _ _

/-- A scheme as the scheme state returns it: a letter, then scheme characters, lowercase. -/
structure SchemeText (s : List Char) : Prop where
  head : ∃ c rest, s = c :: rest ∧ c.isAlpha = true
  chars : ∀ c ∈ s, isSchemeChar c = true
  lower : s.map Char.toLower = s

theorem file_text : SchemeText "file".toList := ⟨⟨'f', _, rfl, rfl⟩, by decide, rfl⟩

theorem splitScheme_text {l s r : List Char} (h : splitScheme l = some (s, r)) : SchemeText s := by
  unfold splitScheme at h
  split at h
  · cases h
  · rename_i c rest
    split_ifs at h with hc
    split at h
    · simp only [Option.some.injEq, Prod.mk.injEq] at h
      obtain ⟨rfl, -⟩ := h
      have hsc : isSchemeChar c = true := by simp [isSchemeChar, Char.isAlphanum, hc]
      refine ⟨⟨_, _, by rw [List.takeWhile_cons_of_pos hsc, List.map_cons], isAlpha_toLower hc⟩,
        fun d hd => ?_, ?_⟩
      · obtain ⟨e, he, rfl⟩ := List.mem_map.mp hd
        exact isSchemeChar_toLower (List.mem_takeWhile_imp he)
      · rw [List.map_map]
        exact List.map_congr_left fun d _ => toLower_toLower d
    · cases h

/-- What the authority and host states leave in a special URL: a host and userinfo that read
back as authority text. -/
structure SpecialParts (u : Url) : Prop where
  host : ∃ h, u.host = some h ∧ AuthorityText h.serialize
  username : ∀ c ∈ u.username, inAuthority c = true
  password : ∀ c ∈ u.password, inAuthority c = true

theorem SpecialParts.of_authority {u v : Url} (hu : SpecialParts u) (h : v.authority = u.authority) :
    SpecialParts v := by
  obtain ⟨-, hn, hp, hh, -⟩ := Url.authority_fields h
  exact ⟨hh ▸ hu.host, hn ▸ hu.username, hp ▸ hu.password⟩

/-- What every URL the parser returns satisfies, as far as reading its `href` back needs. -/
structure Url.WellFormed (u : Url) : Prop where
  scheme : SchemeText u.scheme
  parts : isSpecialScheme u.scheme = true → u.scheme ≠ "file".toList → SpecialParts u
  /-- A special URL always has at least one path segment. -/
  path : isSpecialScheme u.scheme = true → ∃ s, u.path = .segments s ∧ s ≠ []

theorem Url.WellFormed.frame {u v : Url} (hu : u.WellFormed) (h : v.authority = u.authority)
    (hp : isSpecialScheme u.scheme = true → ∃ s, v.path = .segments s ∧ s ≠ []) : v.WellFormed := by
  have hs := (Url.authority_fields h).1
  exact ⟨hs ▸ hu.scheme, fun h1 h2 => (hu.parts (hs ▸ h1) (hs ▸ h2)).of_authority h,
    fun h1 => hp (hs ▸ h1)⟩

theorem Url.WellFormed.of_nonspecial {u : Url} (hs : SchemeText u.scheme)
    (hn : isSpecialScheme u.scheme = false) : u.WellFormed :=
  ⟨hs, fun h => absurd h (by simp [hn]), fun h => absurd h (by simp [hn])⟩

theorem authorityState_some {s a : List Char} {u : Url} (h : authorityState s a = some u) :
    ∃ user pass input host port, hostParse input (!isSpecialScheme s) = some host ∧
      u = { scheme := s, username := percentEncode inUserinfoSet user,
            password := percentEncode inUserinfoSet pass, host := some host, port := port } := by
  simp only [authorityState, bind, Option.bind_eq_bind, pure, Option.none_bind, Option.some_bind] at h
  split_ifs at h
  obtain ⟨host, hh, h⟩ := Option.bind_eq_some.mp h
  split at h
  · exact ⟨_, _, _, host, _, hh, (Option.some.inj h).symm⟩
  · obtain ⟨port, -, h⟩ := Option.bind_eq_some.mp h
    exact ⟨_, _, _, host, _, hh, (Option.some.inj h).symm⟩

theorem authorityState_parts {s a : List Char} {u : Url} (h : authorityState s a = some u) :
    u.scheme = s ∧ (isSpecialScheme s = true → SpecialParts u) := by
  obtain ⟨user, pass, input, host, port, hh, rfl⟩ := authorityState_some h
  exact ⟨rfl, fun hs => ⟨⟨host, rfl, @hostParse_text input host (by simpa [hs] using hh)⟩,
    percentEncode_userinfo user, percentEncode_userinfo pass⟩⟩

theorem parseAuthority_some {s l : List Char} {v : Url} (h : parseAuthority s l = some v) :
    ∃ u, authorityState s (l.takeWhile (!isAuthorityEnd (isSpecialScheme s) ·)) = some u ∧
      v = pathStart u (l.dropWhile (!isAuthorityEnd (isSpecialScheme s) ·)) := by
  obtain ⟨u, hu, rfl⟩ := Option.map_eq_some'.mp h
  exact ⟨u, hu, rfl⟩

theorem parseAuthority_scheme {s l : List Char} {v : Url} (h : parseAuthority s l = some v) :
    v.scheme = s := by
  obtain ⟨u, hu, rfl⟩ := parseAuthority_some h
  exact (Url.authority_fields (pathStart_authority u _)).1.trans (authorityState_parts hu).1

theorem parseAuthority_wellFormed {s l : List Char} {v : Url} (hs : SchemeText s)
    (h : parseAuthority s l = some v) : v.WellFormed := by
  obtain ⟨u, hu, rfl⟩ := parseAuthority_some h
  obtain ⟨rfl, hp⟩ := authorityState_parts hu
  have ha := pathStart_authority u (l.dropWhile (!isAuthorityEnd (isSpecialScheme u.scheme) ·))
  have hsch := (Url.authority_fields ha).1
  exact ⟨by rw [hsch]; exact hs, fun h1 _ => (hp (by rwa [hsch] at h1)).of_authority ha,
    fun h1 => pathStart_segments (by rwa [hsch] at h1) _⟩

theorem fileState_some {l : List Char} {v : Url} (h : fileState l = some v) :
    v.scheme = "file".toList ∧ ∃ s, v.path = .segments s ∧ s ≠ [] := by
  have hw : ∀ segs r, (withPath { scheme := "file".toList, host := some .empty } segs r).scheme =
      "file".toList ∧ ∃ s, (withPath { scheme := "file".toList, host := some .empty } segs r).path =
        .segments s ∧ s ≠ [] :=
    fun _ _ => ⟨(Url.authority_fields (withPath_authority _ _ _)).1, withPath_segments _ _ _⟩
  have hs : ∀ (host : Host) r, (pathStart { scheme := "file".toList, host := some host } r).scheme =
      "file".toList ∧ ∃ s, (pathStart { scheme := "file".toList, host := some host } r).path =
        .segments s ∧ s ≠ [] :=
    fun _ _ => ⟨(Url.authority_fields (pathStart_authority _ _)).1, pathStart_segments (by rfl) _⟩
  simp only [fileState, bind, Option.bind_eq_bind, pure, Option.some_bind] at h
  repeat' split at h
  all_goals first
    | (cases h; exact hw _ _)
    | (cases h; exact hs _ _)
    | (obtain ⟨_, -, h⟩ := Option.bind_eq_some.mp h; cases h; exact hs _ _)

theorem fileState_wellFormed {l : List Char} {v : Url} (h : fileState l = some v) : v.WellFormed := by
  obtain ⟨hs, hp⟩ := fileState_some h
  exact ⟨hs ▸ file_text, fun _ hf => absurd hs hf, fun _ => hp⟩

theorem relativeSlash_wellFormed {b v : Url} {l : List Char} (hb : b.WellFormed)
    (h : relativeSlash b l = some v) : v.WellFormed := by
  unfold relativeSlash at h
  split at h
  · split_ifs at h
    · exact parseAuthority_wellFormed hb.scheme h
    · exact parseAuthority_wellFormed hb.scheme h
    · cases h; exact hb.frame (by simp; rfl) fun _ => withPath_segments _ _ _
  · cases h; exact hb.frame (by simp; rfl) fun _ => withPath_segments _ _ _

theorem parseRelative_wellFormed {b v : Url} {l : List Char} (hb : b.WellFormed)
    (h : parseRelative b l = some v) : v.WellFormed := by
  unfold parseRelative at h
  split at h
  · cases h; exact hb.frame rfl hb.path
  · split_ifs at h
    · exact relativeSlash_wellFormed hb h
    · cases h; exact hb.frame (by simp; rfl) (by simpa using hb.path)
    · cases h; exact hb.frame rfl hb.path
    · cases h; exact hb.frame (by simp; rfl) fun _ => withPath_segments _ _ _

theorem basicParse_wellFormed {input : String} {base : Option Url} {v : Url}
    (hb : ∀ b, base = some b → b.WellFormed) (h : basicParse input base = some v) : v.WellFormed := by
  unfold basicParse at h
  dsimp only at h
  rcases hsplit : splitScheme (preprocess input.toList) with _ | ⟨scheme, rest⟩ <;>
    rw [hsplit] at h <;> dsimp only at h
  · cases base with
    | none => cases h
    | some b =>
      have hb := hb b rfl
      dsimp only at h
      split at h
      · cases h; exact hb.frame rfl hb.path
      · cases h
      · split_ifs at h
        · exact fileState_wellFormed h
        · exact parseRelative_wellFormed hb h
  · have hs := splitScheme_text hsplit
    split_ifs at h with hfile hsp
    · exact fileState_wellFormed h
    · split at h
      · split_ifs at h <;> exact parseAuthority_wellFormed hs h
      · split_ifs at h
        · exact parseRelative_wellFormed (hb _ rfl) h
        · exact parseAuthority_wellFormed hs h
      · exact parseAuthority_wellFormed hs h
    · have hn : isSpecialScheme scheme = false := by simpa using hsp
      split at h
      · exact parseAuthority_wellFormed hs h
      · cases h; exact .of_nonspecial (by simpa using hs) (by simpa using hn)
      · cases h; exact .of_nonspecial (by simpa using hs) (by simpa using hn)

/-- Every URL that `new URL` returns is well formed. -/
theorem URL.new_wellFormed {input : String} {base : Option String} {v : Url}
    (h : URL.new input base = some v) : v.WellFormed := by
  unfold URL.new at h
  split at h
  · exact basicParse_wellFormed (fun _ hb => by cases hb) h
  · obtain ⟨pb, hpb, h⟩ := Option.bind_eq_some.mp h
    exact basicParse_wellFormed
      (fun b hb => Option.some.inj hb ▸ basicParse_wellFormed (fun _ hb => by cases hb) hpb) h

theorem isSchemeChar_kept {c : Char} (h : isSchemeChar c = true) :
    isC0ControlOrSpace c = false ∧ isTabOrNewline c = false := by
  simp only [isSchemeChar, Char.isAlphanum, Char.isAlpha, isUpper_eq, isLower_eq, isDigit_eq,
    beq_eq_toNat, Bool.or_eq_true, Bool.and_eq_true, decide_eq_true_eq] at h
  simp only [isC0ControlOrSpace, isTabOrNewline, beq_eq_toNat, Bool.or_eq_false_iff,
    decide_eq_false_iff_not]
  have : ('+'.toNat, '-'.toNat, '.'.toNat, '\t'.toNat, '\n'.toNat, '\r'.toNat) = (43, 45, 46, 9, 10, 13) :=
    rfl
  simp only [Prod.mk.injEq] at this
  omega

theorem inAuthority_kept {c : Char} (h : inAuthority c = true) :
    isTabOrNewline c = false ∧ isAuthorityEnd true c = false := by
  simp only [inAuthority, Bool.and_eq_true, Bool.not_eq_true'] at h
  exact ⟨h.2, h.1⟩

theorem dropWhile_append_cons {α : Type} {p : α → Bool} {e : α} (he : p e = false) (xs ys : List α) :
    (xs ++ e :: ys).dropWhile p = xs.dropWhile p ++ e :: ys := by
  rw [List.dropWhile_append]
  split
  · rename_i h
    rw [List.isEmpty_iff.mp h, List.dropWhile_cons_of_neg (by simp [he]), List.nil_append]
  · rfl

/-- `preprocess` keeps a prefix that starts with no space or control and holds no tab or
newline, and the character after it. -/
theorem preprocess_keep {P Q : List Char} {e : Char}
    (hhead : ∀ c ∈ P.head?, isC0ControlOrSpace c = false) (hP : ∀ c ∈ P, isTabOrNewline c = false)
    (he : isC0ControlOrSpace e = false) (he' : isTabOrNewline e = false) :
    ∃ R, preprocess (P ++ e :: Q) = P ++ e :: R := by
  have h1 : (P ++ e :: Q).dropWhile isC0ControlOrSpace = P ++ e :: Q := by
    cases P with
    | nil => exact List.dropWhile_cons_of_neg (by simp [he])
    | cons c P => exact List.dropWhile_cons_of_neg (by simp [hhead c rfl])
  have h2 : (P ++ e :: Q).reverse = Q.reverse ++ e :: P.reverse := by simp
  refine ⟨((Q.reverse.dropWhile isC0ControlOrSpace).reverse).filter (!isTabOrNewline ·), ?_⟩
  simp only [preprocess, h1, h2, dropWhile_append_cons he, List.reverse_append, List.reverse_cons,
    List.reverse_reverse, List.filter_append, List.filter_cons, he', Bool.not_false, if_true,
    List.append_assoc, List.singleton_append, List.filter_nil]
  rw [List.filter_eq_self.mpr fun c hc => by simp [hP c hc]]

theorem splitScheme_prefix {s : List Char} (hs : SchemeText s) (R : List Char) :
    splitScheme (s ++ ':' :: R) = some (s, R) := by
  obtain ⟨c, s', rfl, hc⟩ := hs.head
  have ht : (c :: s' ++ ':' :: R).takeWhile isSchemeChar = c :: s' := by
    rw [List.takeWhile_append_of_pos hs.chars, List.takeWhile_cons_of_neg (by decide),
      List.append_nil]
  rw [List.cons_append] at ht ⊢
  rw [splitScheme, if_pos hc, ht, ← List.cons_append, List.drop_left, hs.lower]
  rfl

theorem href_scheme (u : Url) : ∃ R, u.href = String.mk (u.scheme ++ ':' :: R) :=
  ⟨_, by simp only [Url.href, Url.origin, List.append_assoc, List.cons_append]; rfl⟩

/-- Reparsing a string that starts with `scheme:` gives that scheme back. -/
theorem basicParse_scheme {s R : List Char} {v : Url} (hs : SchemeText s)
    (h : basicParse (String.mk (s ++ ':' :: R)) none = some v) : v.scheme = s := by
  obtain ⟨c, s', hcs, hc⟩ := hs.head
  obtain ⟨R', hR'⟩ := @preprocess_keep s R ':'
    (by rw [hcs]; exact fun d hd => (isSchemeChar_kept (hs.chars d (by simp_all))).1)
    (fun d hd => (isSchemeChar_kept (hs.chars d hd)).2) (by decide) (by decide)
  unfold basicParse at h
  dsimp only [String.toList] at h
  rw [hR', splitScheme_prefix hs] at h
  dsimp only at h
  split_ifs at h with hf hsp
  · exact (fileState_some h).1.trans (beq_iff_eq.mp hf).symm
  · exact parseAuthority_scheme h
  · split at h
    · exact parseAuthority_scheme h
    · cases h; simp
    · cases h; simp

/-- What `href` writes between `//` and the path. -/
def authorityText (u : Url) : List Char :=
  (if u.username = [] ∧ u.password = [] then []
   else u.username ++ (if u.password = [] then [] else ':' :: u.password) ++ ['@']) ++ u.hostPort

theorem origin_of_host {u : Url} {h : Host} (hh : u.host = some h) :
    u.origin = u.scheme ++ ':' :: '/' :: '/' :: authorityText u := by
  simp only [Url.origin, hh, authorityText]; rfl

theorem authorityText_text {u : Url} (hp : SpecialParts u) : AuthorityText (authorityText u) := by
  obtain ⟨⟨h, hh, ht⟩, hn, hw⟩ := hp
  have hport : ∀ c ∈ (match u.port with | some p => ':' :: (Nat.repr p).toList | none => []),
      inAuthority c = true := by
    split
    · intro c hc
      rcases List.mem_cons.mp hc with rfl | hc
      · rfl
      · exact (repr_text _).2 c hc
    · intro c hc; cases hc
  have hhp : AuthorityText u.hostPort := by
    simp only [Url.hostPort, Url.hostname, hh, Option.map_some', Option.getD_some]
    exact ht.append hport
  unfold authorityText
  split_ifs
  · simpa using hhp
  · refine AuthorityText.append_left (fun c hc => ?_) hhp
    simp only [List.append_nil, List.mem_append, List.mem_singleton] at hc
    rcases hc with hc | rfl
    · exact hn c hc
    · rfl
  · refine AuthorityText.append_left (fun c hc => ?_) hhp
    simp only [List.mem_append, List.mem_cons, List.not_mem_nil, or_false] at hc
    rcases hc with (hc | rfl | hc) | rfl
    · exact hn c hc
    · rfl
    · exact hw c hc
    · rfl

theorem href_special {u : Url} (hu : u.WellFormed) (hs : isSpecialScheme u.scheme = true)
    (hf : u.scheme ≠ "file".toList) :
    ∃ R, u.href.toList = (u.scheme ++ ':' :: '/' :: '/' :: authorityText u) ++ '/' :: R := by
  obtain ⟨h, hh, -⟩ := (hu.parts hs hf).host
  obtain ⟨l, hpath, hl⟩ := hu.path hs
  obtain ⟨p, ps, rfl⟩ := List.exists_cons_of_ne_nil hl
  refine ⟨p ++ ps.flatMap ('/' :: ·) ++ (match u.query with | some q => '?' :: q | none => []) ++
    (match u.fragment with | some f => '#' :: f | none => []), ?_⟩
  simp only [Url.href, origin_of_host hh, hh, Url.pathname, hpath, List.flatMap_cons,
    List.append_assoc, List.cons_append, List.nil_append]
  rfl

theorem parseAuthority_authority (s l : List Char) :
    (parseAuthority s l).map Url.authority =
      (authorityState s (l.takeWhile (!isAuthorityEnd (isSpecialScheme s) ·))).map Url.authority := by
  simp [parseAuthority, Option.map_map, Function.comp_def]

/-- Parsing `scheme://X/...` for a special scheme other than `file` reads back the authority `X`,
whatever follows its slash. -/
theorem basicParse_authority {s X : List Char} (hs : SchemeText s) (hsp : isSpecialScheme s = true)
    (hf : s ≠ "file".toList) (hX : AuthorityText X) (R : List Char) :
    (basicParse (String.mk ((s ++ ':' :: '/' :: '/' :: X) ++ '/' :: R)) none).map Url.authority =
      (authorityState s X).map Url.authority := by
  obtain ⟨c, s', hcs, hc⟩ := hs.head
  have hsk := fun d hd => isSchemeChar_kept (hs.chars d hd)
  obtain ⟨R', hR'⟩ := @preprocess_keep (s ++ ':' :: '/' :: '/' :: X) R '/'
    (by rw [hcs]; exact fun d hd => (hsk d (by simp_all)).1)
    (fun d hd => by
      simp only [List.mem_append, List.mem_cons] at hd
      rcases hd with hd | rfl | rfl | rfl | hd
      · exact (hsk d hd).2
      all_goals first | rfl | exact (inAuthority_kept (hX.2 d hd)).1)
    (by decide) (by decide)
  have hsplit : splitScheme ((s ++ ':' :: '/' :: '/' :: X) ++ '/' :: R') =
      some (s, '/' :: '/' :: (X ++ '/' :: R')) := by
    simpa using splitScheme_prefix hs ('/' :: '/' :: (X ++ '/' :: R'))
  obtain ⟨x, X', hx⟩ := List.exists_cons_of_ne_nil hX.1
  have hxs : isSlash x = false := by
    have := (inAuthority_kept (hX.2 x (by simp [hx]))).2
    simp only [isAuthorityEnd, Bool.or_eq_false_iff, Bool.true_and] at this
    simp [isSlash, this.1.1.1, this.2]
  have hdrop : ('/' :: '/' :: (X ++ '/' :: R')).dropWhile isSlash = X ++ '/' :: R' := by
    rw [hx, List.dropWhile_cons_of_pos (by decide), List.dropWhile_cons_of_pos (by decide),
      List.cons_append, List.dropWhile_cons_of_neg (by simp [hxs])]
  have htake : (X ++ '/' :: R').takeWhile (!isAuthorityEnd true ·) = X := by
    rw [List.takeWhile_append_of_pos fun d hd => by simp [(inAuthority_kept (hX.2 d hd)).2]]
    simp [isAuthorityEnd]
  unfold basicParse
  dsimp only [String.toList]
  rw [hR', hsplit]
  dsimp only
  rw [if_neg (by simpa using hf), if_pos hsp, hdrop, parseAuthority_authority, hsp, htake]

/-- `new URL(u.href)` of a special, non-file URL reads back its scheme, userinfo, host and
port: they do not depend on what the path, query and fragment are. -/
theorem href_reparse {u : Url} (hu : u.WellFormed) (hs : isSpecialScheme u.scheme = true)
    (hf : u.scheme ≠ "file".toList) :
    (basicParse u.href none).map Url.authority =
      (authorityState u.scheme (authorityText u)).map Url.authority := by
  obtain ⟨R, hR⟩ := href_special hu hs hf
  rw [show u.href = String.mk _ from congrArg String.mk hR]
  exact basicParse_authority hu.scheme hs hf (authorityText_text (hu.parts hs hf)) R

theorem setSearchParam_wellFormed {u : Url} (hu : u.WellFormed) (name value : String) :
    (u.setSearchParam name value).WellFormed :=
  hu.frame rfl hu.path

/-- Setting a search parameter moves nothing that `href` reads back before the path. -/
theorem setSearchParam_reparse {u : Url} (hu : u.WellFormed) (hs : isSpecialScheme u.scheme = true)
    (hf : u.scheme ≠ "file".toList) (name value : String) :
    (basicParse (u.setSearchParam name value).href none).map Url.authority =
      (basicParse u.href none).map Url.authority := by
  rw [href_reparse (setSearchParam_wellFormed hu name value) hs hf, href_reparse hu hs hf]
  rfl

end ClawGuard.Web
