import OtlpHelper.Client.Options
import OtlpHelper.Json.Encoding

namespace OtlpHelper.Client.Stdlib

-- Scheme characters `getScheme` of net/url accepts after the first letter.
def isSchemeChar (c : Char) : Bool :=
  c.isAlphanum || c = '+' || c = '-' || c = '.'

-- `getScheme`: a scheme is a letter followed by scheme characters up to the first `:`.
def getScheme (s : List Char) : Except String (List Char × List Char) :=
  match s.span isSchemeChar with
  | (pre, ':' :: rest) =>
    match pre with
    | [] => .error "missing protocol scheme"
    | c :: _ => if c.isAlpha then .ok (pre, rest) else .ok ([], s)
  | _ => .ok ([], s)

-- `url.Parse` for the `scheme://host/path` shapes: the fragment and the query are cut
-- off, the authority is the text between `//` and the next `/`. Userinfo, IPv6 hosts,
-- ports and percent-escapes are not checked.
def urlParse (raw : String) : Except String URL :=
  let noFragment := raw.toList.takeWhile (· ≠ '#')
  match getScheme (noFragment.takeWhile (· ≠ '?')) with
  | .error e => .error ("parse " ++ "\"" ++ raw ++ "\": " ++ e)
  | .ok (scheme, rest) =>
    match rest with
    | '/' :: '/' :: authority =>
      .ok { scheme := goToLower (String.mk scheme),
            host := String.mk (authority.takeWhile (· ≠ '/')),
            path := String.mk (authority.dropWhile (· ≠ '/')) }
    | _ => .ok { scheme := goToLower (String.mk scheme), host := "", path := String.mk rest }

-- `JoinPath` with one element that has no `.` or `..` segments.
def joinPath (u : URL) (elem : String) : URL :=
  { u with path := if u.path = "" then elem else
      (if goHasSuffix u.path "/" then u.path else u.path ++ "/") ++ elem }

-- `quote` of package time: the text in double quotes, a backslash before `"` and `\`, and
-- each byte of a control or non-ASCII character written `\xHH`.
def quoteChar (c : Char) : String :=
  if c.toNat ≥ 0x80 ∨ c.toNat < 0x20 then
    String.join ((String.utf8EncodeChar c).map fun b =>
      "\\x" ++ (Hex.digit (b.toNat / 16)).toString ++ (Hex.digit (b.toNat % 16)).toString)
  else if c = '"' ∨ c = '\\' then "\\" ++ c.toString
  else c.toString

def quote (s : String) : String :=
  "\"" ++ String.join (s.toList.map quoteChar) ++ "\""

-- `unitMap`: nanoseconds per unit.
def unitMap : String → Option Nat
  | "ns" => some 1
  | "us" => some 1000
  | "µs" => some 1000
  | "μs" => some 1000
  | "ms" => some 1000000
  | "s" => some 1000000000
  | "m" => some 60000000000
  | "h" => some 3600000000000
  | _ => none

-- `leadingInt`: the leading `[0-9]*` added to `x`, or `none` once the value passes `1<<63`.
def leadingInt : List Char → Nat → Option (Nat × List Char)
  | [], x => some (x, [])
  | c :: s, x =>
    if !c.isDigit then some (x, c :: s)
    else if x > 9223372036854775808 / 10 then none
    else if x * 10 + (c.toNat - '0'.toNat) > 9223372036854775808 then none
    else leadingInt s (x * 10 + (c.toNat - '0'.toNat))

-- `leadingFraction`: the leading `[0-9]*` as `x / scale`; once `x` would pass `1<<63` the
-- remaining digits are skipped.
def leadingFraction : List Char → Nat → Nat → Bool → Nat × Nat × List Char
  | [], x, scale, _ => (x, scale, [])
  | c :: s, x, scale, overflow =>
    if !c.isDigit then (x, scale, c :: s)
    else if overflow || x > 9223372036854775807 / 10 || x * 10 + (c.toNat - '0'.toNat) > 9223372036854775808 then
      leadingFraction s x scale true
    else leadingFraction s (x * 10 + (c.toNat - '0'.toNat)) (scale * 10) false

def invalidDuration (orig : String) : String :=
  "time: invalid duration " ++ quote orig

-- The fraction's nanoseconds. Go computes `uint64(float64(f) * (float64(unit) / scale))` in
-- float64; the model takes the exact quotient, rounded down.
def fractionNanos (f unit scale : Nat) : Nat :=
  f * unit / scale

-- One term `[0-9]*(\.[0-9]*)?unit` of `ParseDuration`'s loop: its nanoseconds and the rest.
def durationTerm (orig : String) (s : List Char) : Except String (Nat × List Char) :=
  match s with
  | c :: _ =>
    if !(c = '.' || c.isDigit) then .error (invalidDuration orig) else
    match leadingInt s 0 with
    | none => .error (invalidDuration orig)
    | some (v, afterInt) =>
      let (f, scale, afterFraction) := match afterInt with
        | '.' :: t => leadingFraction t 0 1 false
        | t => (0, 1, t)
      let post := match afterInt with
        | '.' :: t => afterFraction.length ≠ t.length
        | _ => false
      if afterInt.length = s.length ∧ !post then .error (invalidDuration orig) else
      let (u, rest) := afterFraction.span fun c => !(c = '.' || c.isDigit)
      if u = [] then .error ("time: missing unit in duration " ++ quote orig) else
      match unitMap (String.mk u) with
      | none => .error ("time: unknown unit " ++ quote (String.mk u) ++ " in duration " ++ quote orig)
      | some unit =>
        if v > 9223372036854775808 / unit then .error (invalidDuration orig)
        else if f > 0 ∧ v * unit + fractionNanos f unit scale > 9223372036854775808 then .error (invalidDuration orig)
        else .ok (v * unit + if f > 0 then fractionNanos f unit scale else 0, rest)
  | [] => .error (invalidDuration orig)

-- The loop `for s != ""`, adding each term to `d`. A term takes at least one character, so
-- the text's length is fuel enough.
def durationTerms (orig : String) : Nat → List Char → Nat → Except String Nat
  | _, [], d => .ok d
  | 0, _ :: _, _ => .error (invalidDuration orig)
  | fuel + 1, c :: s, d =>
    match durationTerm orig (c :: s) with
    | .error e => .error e
    | .ok (v, rest) => if d + v > 9223372036854775808 then .error (invalidDuration orig) else durationTerms orig fuel rest (d + v)

-- `time.ParseDuration`: `[-+]?([0-9]*(\.[0-9]*)?[a-z]+)+`, or `0`.
def parseDuration (orig : String) : Except String Int :=
  let (neg, s) : Bool × List Char := match orig.toList with
    | '-' :: s => (true, s)
    | '+' :: s => (false, s)
    | s => (false, s)
  if s = ['0'] then .ok 0
  else if s = [] then .error (invalidDuration orig)
  else match durationTerms orig s.length s 0 with
    | .error e => .error e
    | .ok d =>
      if neg then .ok (-d)
      else if d > 9223372036854775807 then .error (invalidDuration orig)
      else .ok d

example : parseDuration "1.5s" = .ok 1500000000 ∧ parseDuration "-1h2m0.5s" = .ok (-3720500000000) ∧
    parseDuration "+0" = .ok 0 ∧ parseDuration "" = .error "time: invalid duration \"\"" ∧
    parseDuration "10" = .error "time: missing unit in duration \"10\"" ∧
    parseDuration "3x" = .error "time: unknown unit \"x\" in duration \"3x\"" :=
  ⟨rfl, rfl, rfl, rfl, rfl, rfl⟩

-- An instance for evaluating the model on concrete inputs; `version` and `runtime.Version()`
-- are not in src/, any value serves.
def lib : Lib where
  urlParse := urlParse
  joinPath := joinPath
  parseDuration := parseDuration
  version := "v0.4.2"
  goVersion := "go1.22"
  defaultClient := ⟨0⟩

example : urlParse "http://localhost:4318" = .ok ⟨"http", "localhost:4318", ""⟩ := by rfl

end OtlpHelper.Client.Stdlib
