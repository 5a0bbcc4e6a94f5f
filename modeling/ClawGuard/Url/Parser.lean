import ClawGuard.Url.Host

namespace ClawGuard.Web

/-- A list of segments, or the single string of a URL that cannot be a base (an opaque path). -/
inductive UrlPath
  | segments (l : List (List Char))
  | noBase (s : List Char)
  deriving DecidableEq, Repr

/-- A URL record of the URL Standard. -/
structure Url where
  scheme : List Char
  username : List Char := []
  password : List Char := []
  host : Option Host := none
  port : Option Nat := none
  path : UrlPath := .segments []
  query : Option (List Char) := none
  fragment : Option (List Char) := none
  deriving DecidableEq, Repr

def isSpecialScheme (s : List Char) : Bool :=
  s == "ftp".toList || s == "file".toList || s == "http".toList || s == "https".toList ||
    s == "ws".toList || s == "wss".toList

def defaultPort (s : List Char) : Option Nat :=
  if s == "ftp".toList then some 21
  else if s == "http".toList || s == "ws".toList then some 80
  else if s == "https".toList || s == "wss".toList then some 443
  else none

def isSchemeChar (c : Char) : Bool := c.isAlphanum || c == '+' || c == '-' || c == '.'

def isSlash (c : Char) : Bool := c == '/' || c == '\\'

/-- Leading and trailing C0 controls and spaces are trimmed; tabs and newlines removed. -/
def preprocess (l : List Char) : List Char :=
  (((l.dropWhile isC0ControlOrSpace).reverse.dropWhile isC0ControlOrSpace).reverse).filter
    (!isTabOrNewline ·)

/-- Scheme start and scheme states: the lowercased scheme and what follows its `:`. -/
def splitScheme : List Char → Option (List Char × List Char)
  | [] => none
  | c :: rest =>
    if c.isAlpha then
      match (c :: rest).drop ((c :: rest).takeWhile isSchemeChar).length with
      | ':' :: after => some (((c :: rest).takeWhile isSchemeChar).map Char.toLower, after)
      | _ => none
    else none

def isSingleDot (s : List Char) : Bool :=
  s == ['.'] || (s.map Char.toLower) == "%2e".toList

def isDoubleDot (s : List Char) : Bool :=
  let t := s.map Char.toLower
  t == "..".toList || t == ".%2e".toList || t == "%2e.".toList || t == "%2e%2e".toList

/-- End of a path segment `buf`; `slash` tells whether a `/` (or `\` for special URLs) ended it. -/
def endSegment (segs : List (List Char)) (buf : List Char) (slash : Bool) : List (List Char) :=
  if isDoubleDot buf then (if slash then segs.dropLast else segs.dropLast ++ [[]])
  else if isSingleDot buf then (if slash then segs else segs ++ [[]])
  else segs ++ [buf]

/-- Path state: returns the segments and the rest, which is empty or starts with `?` or `#`. -/
def pathState (sp : Bool) (segs : List (List Char)) (buf : List Char) :
    List Char → List (List Char) × List Char
  | [] => (endSegment segs buf false, [])
  | c :: rest =>
    if c == '/' || (sp && c == '\\') then pathState sp (endSegment segs buf true) [] rest
    else if c == '?' || c == '#' then (endSegment segs buf false, c :: rest)
    else pathState sp segs (buf ++ encodeChar inPathSet c) rest

def fragmentOf (l : List Char) : List Char := percentEncode inFragmentSet l

/-- Query and fragment states, from a rest that is empty or starts with `?` or `#`. -/
def queryFragment (u : Url) : List Char → Url
  | '?' :: rest =>
    { u with
      query := some (percentEncode (if isSpecialScheme u.scheme then inSpecialQuerySet else inQuerySet)
        (rest.takeWhile (· ≠ '#')))
      fragment := match rest.dropWhile (· ≠ '#') with
        | _ :: f => some (fragmentOf f)
        | [] => none }
  | '#' :: rest => { u with fragment := some (fragmentOf rest) }
  | _ => u

/-- Path state from `segs`, then query and fragment. -/
def withPath (u : Url) (segs : List (List Char)) (l : List Char) : Url :=
  let r := pathState (isSpecialScheme u.scheme) segs [] l
  queryFragment { u with path := .segments r.1 } r.2

/-- Path start state after a host. -/
def pathStart (u : Url) (l : List Char) : Url :=
  if isSpecialScheme u.scheme then
    match l with
    | c :: rest => if isSlash c then withPath u [] rest else withPath u [] l
    | [] => withPath u [] []
  else
    match l with
    | '/' :: rest => withPath u [] rest
    | [] => u
    | _ => queryFragment u l

def isAuthorityEnd (sp : Bool) (c : Char) : Bool :=
  c == '/' || c == '?' || c == '#' || (sp && c == '\\')

/-- Userinfo (before the last `@`) and host-and-port. -/
def splitUserinfo (a : List Char) : Option (List Char) × List Char :=
  if '@' ∈ a then
    (some ((a.reverse.dropWhile (· ≠ '@')).drop 1).reverse, (a.reverse.takeWhile (· ≠ '@')).reverse)
  else (none, a)

/-- Host and port, split at the first `:` outside brackets. -/
def splitPort : Bool → List Char → List Char × Option (List Char)
  | _, [] => ([], none)
  | inB, c :: rest =>
    if c == ':' && !inB then ([], some rest)
    else
      let r := splitPort (if c == '[' then true else if c == ']' then false else inB) rest
      (c :: r.1, r.2)

/-- Port state: digits only, at most 65535; the scheme's default port is dropped. -/
def parsePort (scheme : List Char) (p : List Char) : Option (Option Nat) :=
  if p = [] then some none
  else if p.all Char.isDigit then
    let n := (radixValue 10 p).getD 0
    if 65535 < n then none else some (if defaultPort scheme = some n then none else some n)
  else none

/-- Authority, host and port states on the authority text `a`: the URL up to its path. -/
def authorityState (scheme : List Char) (a : List Char) : Option Url := do
  let sp := isSpecialScheme scheme
  let (ui, hp) := splitUserinfo a
  if ui.isSome ∧ hp = [] then none
  let user := (ui.getD []).takeWhile (· ≠ ':')
  let pass := ((ui.getD []).dropWhile (· ≠ ':')).drop 1
  let (h, p) := splitPort false hp
  if p.isSome ∧ h = [] then none
  if sp ∧ h = [] then none
  let host ← hostParse h (!sp)
  let port ← match p with
    | none => some none
    | some p => parsePort scheme p
  pure { scheme := scheme, username := percentEncode inUserinfoSet user
         password := percentEncode inUserinfoSet pass, host := some host, port := port }

/-- Authority state onwards; `l` starts after the slashes. -/
def parseAuthority (scheme : List Char) (l : List Char) : Option Url :=
  let sp := isSpecialScheme scheme
  (authorityState scheme (l.takeWhile (!isAuthorityEnd sp ·))).map fun u =>
    pathStart u (l.dropWhile (!isAuthorityEnd sp ·))

/-- Relative slash state. -/
def relativeSlash (base : Url) : List Char → Option Url
  | c :: rest =>
    if isSpecialScheme base.scheme && isSlash c then parseAuthority base.scheme (rest.dropWhile isSlash)
    else if c == '/' then parseAuthority base.scheme rest
    else some (withPath { base with path := .segments [], query := none, fragment := none } [] (c :: rest))
  | [] => some (withPath { base with path := .segments [], query := none, fragment := none } [] [])

def shorten : UrlPath → List (List Char)
  | .segments l => l.dropLast
  | .noBase _ => []

/-- Relative state. -/
def parseRelative (base : Url) : List Char → Option Url
  | [] => some { base with fragment := none }
  | c :: rest =>
    if c == '/' || (isSpecialScheme base.scheme && c == '\\') then relativeSlash base rest
    else if c == '?' then some (queryFragment { base with fragment := none } (c :: rest))
    else if c == '#' then some { base with fragment := some (fragmentOf rest) }
    else some (withPath { base with query := none, fragment := none } (shorten base.path) (c :: rest))

/-- File state, file slash state and file host state, without Windows drive letters. -/
def fileState (l : List Char) : Option Url :=
  let u : Url := { scheme := "file".toList, host := some .empty }
  match l with
  | c :: rest =>
    if isSlash c then
      match rest with
      | d :: rest' =>
        if isSlash d then do
          let buf := rest'.takeWhile fun c => !(isSlash c || c == '?' || c == '#')
          let host ← if buf = [] then some Host.empty else hostParse buf false
          let host := if host = .domain "localhost".toList then Host.empty else host
          pure (pathStart { u with host := some host }
            (rest'.dropWhile fun c => !(isSlash c || c == '?' || c == '#')))
        else some (withPath u [] rest)
      | [] => some (withPath u [] [])
    else some (withPath u [] l)
  | [] => some (withPath u [] [])

/-- Opaque path state of a non-special URL without `/` after its scheme. -/
def noBasePath (scheme : List Char) (l : List Char) : Url :=
  queryFragment { scheme := scheme, path := .noBase (percentEncode inC0ControlSet
    (l.takeWhile fun c => c ≠ '?' ∧ c ≠ '#')) } (l.dropWhile fun c => c ≠ '?' ∧ c ≠ '#')

/-- The basic URL parser, without state override. -/
def basicParse (input : String) (base : Option Url) : Option Url :=
  let l := preprocess input.toList
  match splitScheme l with
  | some (scheme, rest) =>
    if scheme == "file".toList then fileState rest
    else if isSpecialScheme scheme then
      match base, rest with
      | some b, '/' :: '/' :: r =>
        if b.scheme == scheme then parseAuthority scheme (r.dropWhile isSlash)
        else parseAuthority scheme (rest.dropWhile isSlash)
      | some b, _ =>
        if b.scheme == scheme then parseRelative b rest
        else parseAuthority scheme (rest.dropWhile isSlash)
      | none, _ => parseAuthority scheme (rest.dropWhile isSlash)
    else
      match rest with
      | '/' :: '/' :: r => parseAuthority scheme r
      | '/' :: r => some (withPath { scheme := scheme } [] r)
      | _ => some (noBasePath scheme rest)
  | none =>
    match base with
    | none => none
    | some b =>
      match b.path, l with
      | .noBase _, '#' :: r => some { b with fragment := some (fragmentOf r) }
      | .noBase _, _ => none
      | .segments _, _ => if b.scheme == "file".toList then fileState l else parseRelative b l

/-- `new URL(input, base)`: `none` is the `TypeError` it throws. -/
def URL.new (input : String) (base : Option String) : Option Url :=
  match base with
  | none => basicParse input none
  | some b => (basicParse b none).bind fun pb => basicParse input (some pb)

namespace Url

def pathname (u : Url) : List Char :=
  match u.path with
  | .noBase s => s
  | .segments l => l.flatMap ('/' :: ·)

def hostname (u : Url) : List Char := (u.host.map Host.serialize).getD []

def protocol (u : Url) : List Char := u.scheme ++ [':']

/-- The `host` getter: hostname and port. -/
def hostPort (u : Url) : List Char :=
  u.hostname ++ (match u.port with | some p => ':' :: (Nat.repr p).toList | none => [])

def search (u : Url) : List Char :=
  match u.query with
  | some q => if q = [] then [] else '?' :: q
  | none => []

/-- Scheme and authority: everything `href` writes before the path. -/
def origin (u : Url) : List Char :=
  u.scheme ++ ':' :: (match u.host with
    | some _ => "//".toList ++
        (if u.username = [] ∧ u.password = [] then []
         else u.username ++ (if u.password = [] then [] else ':' :: u.password) ++ ['@']) ++
        u.hostPort
    | none => [])

/-- The URL serializer (`toString()` and `href`). -/
def href (u : Url) : String :=
  String.mk (u.origin ++
    (match u.host, u.path with
      | none, .segments (_ :: _ :: _) => if u.path = .segments [] then [] else
          (match u.path with | .segments ([] :: _) => "/.".toList | _ => [])
      | _, _ => []) ++
    u.pathname ++ (match u.query with | some q => '?' :: q | none => []) ++
    (match u.fragment with | some f => '#' :: f | none => []))

end Url

/-- UTF-8 decoder state: code point so far, bytes still needed, bounds of the next byte. -/
structure Utf8St where
  cp : Nat
  needed : Nat
  lo : Nat
  hi : Nat

def utf8Init : Utf8St := ⟨0, 0, 0x80, 0xBF⟩

/-- A byte read in the initial state. -/
def utf8Start (b : Nat) : List Char × Utf8St :=
  if b < 0x80 then ([Char.ofNat b], utf8Init)
  else if 0xC2 ≤ b ∧ b ≤ 0xDF then ([], ⟨b % 32, 1, 0x80, 0xBF⟩)
  else if 0xE0 ≤ b ∧ b ≤ 0xEF then
    ([], ⟨b % 16, 2, if b = 0xE0 then 0xA0 else 0x80, if b = 0xED then 0x9F else 0xBF⟩)
  else if 0xF0 ≤ b ∧ b ≤ 0xF4 then
    ([], ⟨b % 8, 3, if b = 0xF0 then 0x90 else 0x80, if b = 0xF4 then 0x8F else 0xBF⟩)
  else (['\uFFFD'], utf8Init)

/-- The UTF-8 decoder: an unexpected byte gives U+FFFD and is read again from the start. -/
def utf8Run (st : Utf8St) : List Nat → List Char
  | [] => if st.needed = 0 then [] else ['\uFFFD']
  | b :: rest =>
    if st.needed = 0 then (utf8Start b).1 ++ utf8Run (utf8Start b).2 rest
    else if st.lo ≤ b ∧ b ≤ st.hi then
      if st.needed = 1 then Char.ofNat (st.cp * 64 + b % 64) :: utf8Run utf8Init rest
      else utf8Run ⟨st.cp * 64 + b % 64, st.needed - 1, 0x80, 0xBF⟩ rest
    else '\uFFFD' :: (utf8Start b).1 ++ utf8Run (utf8Start b).2 rest

def formDecode (l : List Char) : List Char :=
  utf8Run utf8Init (percentDecode (utf8Bytes (l.map fun c => if c == '+' then ' ' else c)))

/-- The `application/x-www-form-urlencoded` parser. -/
def formParse (q : List Char) : List (List Char × List Char) :=
  ((q.splitOn '&').filter (· ≠ [])).map fun s =>
    (formDecode (s.takeWhile (· ≠ '=')), formDecode ((s.dropWhile (· ≠ '=')).drop 1))

def formSerialize (l : List (List Char × List Char)) : List Char :=
  "&".toList.intercalate (l.map fun p => formEncode p.1 ++ '=' :: formEncode p.2)

/-- `set`: the first pair named `name` gets `value` and the others go; else append. -/
def setPair (name value : List Char) : List (List Char × List Char) → List (List Char × List Char)
  | [] => [(name, value)]
  | p :: rest =>
    if p.1 = name then (name, value) :: rest.filter (·.1 ≠ name) else p :: setPair name value rest

/-- `url.searchParams.set(name, value)`. -/
def Url.setSearchParam (u : Url) (name value : String) : Url :=
  let s := formSerialize (setPair name.toList value.toList (formParse (u.query.getD [])))
  { u with query := if s = [] then none else some s }

end ClawGuard.Web
