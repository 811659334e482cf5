import OtlpHelper.Json.Value

-- Go's float64 as `json.Unmarshal` into `any` and `json.Marshal` use it: a number literal is
-- rounded to the nearest float64 (`strconv.ParseFloat`, an error beyond the largest one), and
-- written back as the shortest decimal that rounds to the same float64 (`strconv.FormatFloat`
-- with precision -1).
namespace OtlpHelper.Float64

-- `n / d` rounded to the nearest integer, ties to even.
def roundHalfEven (n d : Nat) : Nat :=
  let q := n / d
  let r := n % d
  if 2 * r < d then q else if d < 2 * r then q + 1 else if q % 2 = 0 then q else q + 1

-- The fraction `n / d` times `b ^ k`.
def scale (b n d : Nat) (k : Int) : Nat × Nat :=
  if 0 ≤ k then (n * Nat.pow b k.toNat, d) else (n, d * Nat.pow b (-k).toNat)

-- `⌊log_b (n / d)⌋` for positive `n` and `d`, from a guess that is exact or one too high.
def floorLog (b n d : Nat) (guess : Int) : Int :=
  let r := scale b n d (-guess)
  if r.2 ≤ r.1 then guess else guess - 1

-- The float64 nearest the positive fraction `n / d`, as `(q, e)` with value `q * 2 ^ e`, ties
-- to even; none beyond the largest float64.
def nearest (n d : Nat) : Option (Nat × Int) :=
  let l := floorLog 2 n d ((Nat.log2 n : Int) - Nat.log2 d)
  let e := if l - 52 < -1074 then -1074 else l - 52
  let r := scale 2 n d (-e)
  let q := roundHalfEven r.1 r.2
  -- `2 ^ 53` rounds up to the next binade
  let (q, e) := if q = 9007199254740992 then (4503599627370496, e + 1) else (q, e)
  if 971 < e then none else some (q, e)

-- Whether the decimal `c * 10 ^ p` parses to the float64 `q * 2 ^ e`.
def roundsTo (q : Nat) (e : Int) (c : Nat) (p : Int) : Bool :=
  let r := scale 10 c 1 p
  c ≠ 0 && nearest r.1 r.2 = some (q, e)

-- The shortest decimal `c * 10 ^ p` that parses to `q * 2 ^ e`, `q > 0`: for each number of
-- digits, the nearest decimal with that many digits, or its neighbours.
def shortest (q : Nat) (e : Int) : Option (Nat × Int) :=
  let r := scale 2 q 1 e
  let l := floorLog 10 r.1 r.2 (((Nat.toDigits 10 r.1).length : Int) - (Nat.toDigits 10 r.2).length)
  (List.range 17).findSome? fun i =>
    let p := l - i
    let s := scale 10 r.1 r.2 (-p)
    let c := roundHalfEven s.1 s.2
    ([c, c - 1, c + 1].find? fun c => roundsTo q e c p).map fun c => (c, p)

-- Trailing zeros of `m` moved into the exponent `e`, at most `fuel` of them.
def stripZeros : Nat → Int → Int → Int × Int
  | 0, m, e => (m, e)
  | fuel + 1, m, e => if m % 10 = 0 then stripZeros fuel (m / 10) (e + 1) else (m, e)

def zero : Number := ⟨0, 0, Or.inr ⟨rfl, rfl⟩⟩

-- The number `m * 10 ^ e`.
def ofDecimal (m e : Int) : Number :=
  let r := stripZeros m.natAbs m e
  if h : r.1 % 10 ≠ 0 then ⟨r.1, r.2, Or.inl h⟩ else zero

-- A number literal through a Go float64: none when `json.Unmarshal` rejects it as out of range.
def goFloat (x : Number) : Option Number :=
  let r := scale 10 x.mantissa.natAbs 1 x.exponent
  if r.1 = 0 then some zero
  else
    match nearest r.1 r.2 with
    | none => none
    | some (0, _) => some zero
    | some (q, e) => (shortest q e).map fun (c, p) => ofDecimal (if x.mantissa < 0 then -c else c) p

end OtlpHelper.Float64
