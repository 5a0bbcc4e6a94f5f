import ClawGuard.Url.Reparse

namespace ClawGuard.Web

/-- A segment that is no dot segment in any spelling the path state knows. -/
def plainSegment (s : List Char) : Bool := !isSingleDot s && !isDoubleDot s

/-- A query the special-query state keeps: nonempty, with nothing it percent-encodes. -/
def plainQuery (q : List Char) : Bool := q ≠ [] && q.all (!inSpecialQuerySet ·)

/-- The path state of a special URL, reading `l` after the segment `buf`, keeps every
character: no `\`, no dot segment, nothing of the path percent-encode set, then a plain query. -/
def plainPath (buf : List Char) : List Char → Bool
  | [] => plainSegment buf
  | c :: rest =>
    if c = '/' then plainSegment buf && plainPath [] rest
    else if c = '?' then plainSegment buf && plainQuery rest
    else c ≠ '\\' && !inPathSet c && plainPath (buf ++ [c]) rest

/-- An origin-form target of that form whose path does not start with `//`. -/
def plainTarget : List Char → Bool
  | '/' :: rest => rest.head? ≠ some '/' && plainPath [] rest
  | _ => false

theorem endSegment_plain {segs : List (List Char)} {buf : List Char} (h : plainSegment buf = true)
    (slash : Bool) : endSegment segs buf slash = segs ++ [buf] := by
  simp only [plainSegment, Bool.and_eq_true, Bool.not_eq_true'] at h
  simp [endSegment, h.1, h.2]

theorem pathState_slash (sp : Bool) (segs : List (List Char)) (buf rest : List Char) :
    pathState sp segs buf ('/' :: rest) = pathState sp (endSegment segs buf true) [] rest := by
  simp [pathState]

theorem pathState_query (sp : Bool) (segs : List (List Char)) (buf rest : List Char) :
    pathState sp segs buf ('?' :: rest) = (endSegment segs buf false, '?' :: rest) := by
  simp [pathState]

theorem pathState_keep {c : Char} (h1 : c ≠ '/') (h2 : c ≠ '\\') (h3 : inPathSet c = false)
    (segs : List (List Char)) (buf rest : List Char) :
    pathState true segs buf (c :: rest) = pathState true segs (buf ++ [c]) rest := by
  have hq : c ≠ '?' ∧ c ≠ '#' :=
    ⟨fun e => by subst e; simp [inPathSet] at h3, fun e => by subst e; simp [inPathSet, inQuerySet] at h3⟩
  simp [pathState, h1, h2, hq.1, hq.2, encodeChar_of_not_mem h3]

/-- On a plain path the path state splits at every `/` and stops at the query: writing the
segments back with their slashes, followed by the rest, gives the input. -/
theorem pathState_plain (segs : List (List Char)) {buf l : List Char} (h : plainPath buf l = true) :
    (pathState true segs buf l).1.flatMap ('/' :: ·) ++ (pathState true segs buf l).2 =
      segs.flatMap ('/' :: ·) ++ '/' :: (buf ++ l) ∧
    ((pathState true segs buf l).2 = [] ∨
      ∃ q, (pathState true segs buf l).2 = '?' :: q ∧ plainQuery q = true) := by
  induction l generalizing segs buf with
  | nil =>
    simp only [plainPath] at h
    simp [pathState, endSegment_plain h]
  | cons c rest ih =>
    unfold plainPath at h
    split_ifs at h with h1 h2
    · subst h1
      obtain ⟨hb, hr⟩ := Bool.and_eq_true_iff.mp h
      rw [pathState_slash, endSegment_plain hb]
      obtain ⟨ih1, ih2⟩ := ih (segs ++ [buf]) hr
      exact ⟨by rw [ih1]; simp, ih2⟩
    · subst h2
      obtain ⟨hb, hq⟩ := Bool.and_eq_true_iff.mp h
      rw [pathState_query, endSegment_plain hb]
      exact ⟨by simp, .inr ⟨rest, rfl, hq⟩⟩
    · simp only [Bool.and_eq_true, decide_eq_true_eq, Bool.not_eq_true'] at h
      obtain ⟨⟨hc, hset⟩, hr⟩ := h
      rw [pathState_keep h1 hc hset]
      obtain ⟨ih1, ih2⟩ := ih segs hr
      exact ⟨by rw [ih1]; simp, ih2⟩

/-- A plain query replaces the query and drops the fragment. -/
theorem queryFragment_plain_eq {u : Url} (hs : isSpecialScheme u.scheme = true) {q : List Char}
    (hq : plainQuery q = true) :
    queryFragment u ('?' :: q) = { u with query := some q, fragment := none } := by
  simp only [plainQuery, Bool.and_eq_true, decide_eq_true_eq, List.all_eq_true,
    Bool.not_eq_true'] at hq
  have hhash : ∀ c ∈ q, decide (c ≠ '#') = true := fun c hc => by
    have := hq.2 c hc
    simp only [decide_eq_true_eq]
    rintro rfl
    simp [inSpecialQuerySet, inQuerySet] at this
  simp only [queryFragment, hs, if_true, List.takeWhile_eq_self_iff.mpr hhash,
    List.dropWhile_eq_nil_iff.mpr hhash, percentEncode_of_forall hq.2]

theorem queryFragment_plain {u : Url} (hs : isSpecialScheme u.scheme = true) {q : List Char}
    (hq : plainQuery q = true) :
    (queryFragment u ('?' :: q)).pathname = u.pathname ∧ (queryFragment u ('?' :: q)).search = '?' :: q := by
  have hne : q ≠ [] := by simpa [plainQuery] using (Bool.and_eq_true_iff.mp hq).1
  rw [queryFragment_plain_eq hs hq]
  exact ⟨rfl, if_neg hne⟩

theorem inQuerySet_of_path {c : Char} (h : inPathSet c = false) : inQuerySet c = false := by
  simp only [inPathSet, Bool.or_eq_false_iff] at h
  exact h.1.1.1.1

theorem inQuerySet_of_special {c : Char} (h : inSpecialQuerySet c = false) : inQuerySet c = false :=
  (Bool.or_eq_false_iff.mp h).1

theorem isC0ControlOrSpace_of_query {c : Char} (h : inQuerySet c = false) :
    isC0ControlOrSpace c = false := by
  simp only [inQuerySet, inC0ControlSet, Bool.or_eq_false_iff, beq_eq_false_iff_ne,
    decide_eq_false_iff_not] at h
  have hsp : c.toNat ≠ 32 := fun e => h.1.1.1.1.2 (char_eq_of_toNat e)
  simp only [isC0ControlOrSpace, decide_eq_false_iff_not]
  omega

theorem isTabOrNewline_of {c : Char} (h : isC0ControlOrSpace c = false) : isTabOrNewline c = false := by
  simp only [isC0ControlOrSpace, decide_eq_false_iff_not] at h
  simp only [isTabOrNewline, beq_eq_toNat, Bool.or_eq_false_iff, decide_eq_false_iff_not]
  have : ('\t'.toNat, '\n'.toNat, '\r'.toNat) = (9, 10, 13) := rfl
  simp only [Prod.mk.injEq] at this
  omega

theorem plainPath_chars {buf l : List Char} (h : plainPath buf l = true) :
    ∀ c ∈ l, isC0ControlOrSpace c = false := by
  induction l generalizing buf with
  | nil => intro c hc; cases hc
  | cons d rest ih =>
    unfold plainPath at h
    intro c hc
    rcases List.mem_cons.mp hc with rfl | hc
    · split_ifs at h with h1 h2
      · rw [h1]; rfl
      · rw [h2]; rfl
      · simp only [Bool.and_eq_true, Bool.not_eq_true'] at h
        exact isC0ControlOrSpace_of_query (inQuerySet_of_path h.1.2)
    · split_ifs at h with h1 h2
      · exact ih (Bool.and_eq_true_iff.mp h).2 c hc
      · have hq := (Bool.and_eq_true_iff.mp h).2
        simp only [plainQuery, Bool.and_eq_true, List.all_eq_true, Bool.not_eq_true'] at hq
        exact isC0ControlOrSpace_of_query (inQuerySet_of_special (hq.2 c hc))
      · exact ih (Bool.and_eq_true_iff.mp h).2 c hc

theorem dropWhile_of_forall {α : Type} {p : α → Bool} {l : List α} (h : ∀ a ∈ l, p a = false) :
    l.dropWhile p = l := by
  cases l with
  | nil => rfl
  | cons a l => exact List.dropWhile_cons_of_neg (by simp [h a (.head _)])

theorem preprocess_of_forall {l : List Char} (h : ∀ c ∈ l, isC0ControlOrSpace c = false) :
    preprocess l = l := by
  unfold preprocess
  rw [dropWhile_of_forall h, dropWhile_of_forall fun c hc => h c (List.mem_reverse.mp hc),
    List.reverse_reverse]
  exact List.filter_eq_self.mpr fun c hc => by simp [isTabOrNewline_of (h c hc)]

/-- Against a base with a special scheme other than `file`, a rooted target whose path does not
start with a second slash goes through the path state from the empty path. -/
theorem basicParse_rooted {b : Url} {rest : List Char} (hb : b.WellFormed)
    (hs : isSpecialScheme b.scheme = true) (hf : b.scheme ≠ "file".toList)
    (hc : ∀ c ∈ rest, isC0ControlOrSpace c = false) (hhead : rest.head? ≠ some '/')
    (hback : rest.head? ≠ some '\\') :
    basicParse (String.mk ('/' :: rest)) (some b) =
      some (withPath { b with path := .segments [], query := none, fragment := none } [] rest) := by
  have hpre : preprocess ('/' :: rest) = '/' :: rest :=
    preprocess_of_forall fun c hc' => (List.mem_cons.mp hc').elim (fun e => e ▸ rfl) (hc c)
  obtain ⟨s, hpath, -⟩ := hb.path hs
  have hrel : relativeSlash b rest =
      some (withPath { b with path := .segments [], query := none, fragment := none } [] rest) := by
    cases rest with
    | nil => rfl
    | cons c rest' =>
      have h1 : c ≠ '/' := by simpa using hhead
      have h2 : c ≠ '\\' := by simpa using hback
      simp [relativeSlash, isSlash, h1, h2]
  simp only [basicParse, show (String.mk ('/' :: rest)).toList = '/' :: rest from rfl, hpre]
  rw [show splitScheme ('/' :: rest) = none from rfl]
  simp only [hpath, if_neg (show ¬(b.scheme == "file".toList) = true by simpa using hf)]
  simp only [parseRelative, show ('/' == '/') = true from rfl, Bool.true_or, if_true, hrel]

/-- From the empty path, the path state of a special URL keeps a plain path and query. -/
theorem withPath_plain {u : Url} (hs : isSpecialScheme u.scheme = true) (hq : u.query = none)
    {rest : List Char} (h : plainPath [] rest = true) :
    (withPath u [] rest).pathname ++ (withPath u [] rest).search = '/' :: rest := by
  obtain ⟨hflat, hT⟩ := pathState_plain [] h
  simp only [withPath, hs] at hflat hT ⊢
  rcases hT with hT | ⟨q, hT, hq'⟩
  · rw [hT] at hflat ⊢
    simpa [queryFragment, Url.pathname, Url.search, hq] using hflat
  · rw [hT] at hflat ⊢
    obtain ⟨h1, h2⟩ := @queryFragment_plain
      { u with path := .segments (pathState true [] [] rest).1 } hs q hq'
    rw [h1, h2]
    simpa [Url.pathname] using hflat

/-- `new URL(target, base)` of a plain target against a special base keeps the target as its
path and query. -/
theorem resolve_plain {b : Url} {p : String} (hb : b.WellFormed) (hs : isSpecialScheme b.scheme = true)
    (hf : b.scheme ≠ "file".toList) (hp : plainTarget p.toList = true) :
    ∃ u, basicParse p (some b) = some u ∧ u.pathname ++ u.search = p.toList := by
  unfold plainTarget at hp
  split at hp
  · rename_i rest hl
    obtain ⟨hhead, hr⟩ := Bool.and_eq_true_iff.mp hp
    have hback : rest.head? ≠ some '\\' := by
      cases rest with
      | nil => simp
      | cons c r => rintro ⟨⟩; simp [plainPath] at hr
    let b' : Url := { b with path := .segments [], query := none, fragment := none }
    refine ⟨withPath b' [] rest, ?_, by rw [hl]; exact @withPath_plain b' hs rfl rest hr⟩
    rw [show p = String.mk ('/' :: rest) from congrArg String.mk hl]
    exact basicParse_rooted hb hs hf (plainPath_chars hr) (by simpa using hhead) hback
  · cases hp

theorem Url.origin_congr {u v : Url} (h : v.authority = u.authority) : v.origin = u.origin :=
  show v.authority.origin = u.authority.origin by rw [h]

/-- The serializer on a URL with a host, no fragment and no empty query: origin, path, search. -/
theorem href_of_host {u : Url} {h : Host} (hh : u.host = some h) (hf : u.fragment = none)
    (hq : u.query ≠ some []) : u.href = String.mk (u.origin ++ u.pathname ++ u.search) := by
  rw [Url.href]
  split
  · rename_i hn _; rw [hh] at hn; cases hn
  · cases hq' : u.query with
    | none => simp [Url.search, hq', hf]
    | some q => simp [Url.search, hq', hf, show q ≠ [] from fun e => hq (e ▸ hq')]

/-- From the empty path, a plain path and query after a host serialize as they are. -/
theorem withPath_plain_href {u : Url} {h : Host} (hh : u.host = some h)
    (hs : isSpecialScheme u.scheme = true) (hq : u.query = none) (hfr : u.fragment = none)
    {rest : List Char} (hr : plainPath [] rest = true) :
    (withPath u [] rest).href = String.mk (u.origin ++ '/' :: rest) := by
  have ha := withPath_authority u [] rest
  have hfq : (withPath u [] rest).fragment = none ∧ (withPath u [] rest).query ≠ some [] := by
    simp only [withPath, hs]
    rcases (pathState_plain [] hr).2 with hT | ⟨q, hT, hq'⟩ <;> rw [hT]
    · simp [queryFragment, hq, hfr]
    · rw [queryFragment_plain_eq (u := { u with path := .segments (pathState true [] [] rest).1 }) hs hq']
      simpa [plainQuery] using (Bool.and_eq_true_iff.mp hq').1
  rw [href_of_host ((Url.authority_fields ha).2.2.2.1.trans hh) hfq.1 hfq.2, Url.origin_congr ha,
    List.append_assoc, withPath_plain hs hq hr]

/-- Against a base with a special scheme other than `file`, a plain query target keeps the
base's path and replaces its query and fragment. -/
theorem basicParse_query {b : Url} {q : List Char} (hb : b.WellFormed)
    (hs : isSpecialScheme b.scheme = true) (hf : b.scheme ≠ "file".toList) (hq : plainQuery q = true) :
    basicParse (String.mk ('?' :: q)) (some b) = some { b with query := some q, fragment := none } := by
  have hc : ∀ c ∈ '?' :: q, isC0ControlOrSpace c = false := by
    simp only [plainQuery, Bool.and_eq_true, List.all_eq_true, Bool.not_eq_true'] at hq
    intro c hc'
    rcases List.mem_cons.mp hc' with rfl | hc'
    · rfl
    · exact isC0ControlOrSpace_of_query (inQuerySet_of_special (hq.2 c hc'))
  obtain ⟨s, hpath, -⟩ := hb.path hs
  simp only [basicParse, show (String.mk ('?' :: q)).toList = '?' :: q from rfl, preprocess_of_forall hc]
  rw [show splitScheme ('?' :: q) = none from rfl]
  simp only [hpath, if_neg (show ¬(b.scheme == "file".toList) = true by simpa using hf)]
  simp only [parseRelative, show ('?' == '/') = false from rfl, show ('?' == '\\') = false from rfl,
    Bool.and_false, Bool.or_false, if_neg Bool.false_ne_true, show ('?' == '?') = true from rfl, if_true,
    queryFragment_plain_eq (u := { b with path := .segments s, fragment := none }) hs hq, hpath]

/-- A target that `new URL` against a special base keeps as it is: a plain query, or a plain
rooted path. -/
def plainRef : List Char → Bool
  | '?' :: q => plainQuery q
  | l => plainTarget l

/-- What `new URL(target, base)` serializes to for such a target: the base's origin, then the
target; the base's path stays only before a bare query. -/
def resolvedHref (b : Url) : List Char → String
  | '?' :: q => String.mk (b.origin ++ b.pathname ++ '?' :: q)
  | l => String.mk (b.origin ++ l)

theorem resolve_href {b : Url} {p : String} (hb : b.WellFormed) (hs : isSpecialScheme b.scheme = true)
    (hf : b.scheme ≠ "file".toList) (hp : plainRef p.toList = true) :
    ∃ u, basicParse p (some b) = some u ∧ u.href = resolvedHref b p.toList := by
  obtain ⟨h, hh, -⟩ := (hb.parts hs hf).host
  obtain ⟨l⟩ := p
  change plainRef l = true at hp
  unfold plainRef at hp
  split at hp
  · rename_i q
    have hne : q ≠ [] := by simpa [plainQuery] using (Bool.and_eq_true_iff.mp hp).1
    refine ⟨_, basicParse_query hb hs hf hp, ?_⟩
    rw [href_of_host (u := { b with query := some q, fragment := none }) hh rfl (by simpa using hne)]
    exact congrArg (fun s => String.mk (b.origin ++ b.pathname ++ s)) (if_neg hne)
  · unfold plainTarget at hp
    split at hp
    · rename_i rest _
      obtain ⟨hhead, hr⟩ := Bool.and_eq_true_iff.mp hp
      have hback : rest.head? ≠ some '\\' := by
        cases rest with
        | nil => simp
        | cons c r => rintro ⟨⟩; simp [plainPath] at hr
      let b' : Url := { b with path := .segments [], query := none, fragment := none }
      exact ⟨withPath b' [] rest, basicParse_rooted hb hs hf (plainPath_chars hr) (by simpa using hhead) hback,
        withPath_plain_href (u := b') hh hs rfl rfl hr⟩
    · cases hp

end ClawGuard.Web
