import OtlpHelper.Basic
import Mathlib.Data.List.Sort

namespace OtlpHelper

-- A JSON number, as the value its literal denotes: `mantissa * 10 ^ exponent`, with no factor
-- ten left in the mantissa, so that `1`, `1.0` and `10e-1` are one number.
structure Number where
  mantissa : Int
  exponent : Int
  normal : mantissa % 10 ≠ 0 ∨ (mantissa = 0 ∧ exponent = 0)
deriving DecidableEq, Repr

-- A JSON text as its syntax tree: an object keeps its members in order, a repeated name
-- included. What Go's `encoding/json` decodes into `any` is such a tree too, with no name
-- repeated in an object.
inductive Json where
  | null
  | bool (b : Bool)
  | number (n : Number)
  | string (s : String)
  | array (xs : List Json)
  | object (members : List (String × Json))
deriving Repr, Inhabited

namespace Json

-- No object of the tree repeats a member name.
mutual
def dupFree : Json → Bool
  | .array xs => dupFreeList xs
  | .object ms => decide (ms.map (·.1)).Nodup && dupFreeMembers ms
  | _ => true
def dupFreeList : List Json → Bool
  | [] => true
  | x :: xs => dupFree x && dupFreeList xs
def dupFreeMembers : List (String × Json) → Bool
  | [] => true
  | (_, v) :: ms => dupFree v && dupFreeMembers ms
end

-- Every number of the tree is one `keep` gives back unchanged.
mutual
def numbersKept (keep : Number → Option Number) : Json → Bool
  | .number n => keep n = some n
  | .array xs => numbersKeptList keep xs
  | .object ms => numbersKeptMembers keep ms
  | _ => true
def numbersKeptList (keep : Number → Option Number) : List Json → Bool
  | [] => true
  | x :: xs => numbersKept keep x && numbersKeptList keep xs
def numbersKeptMembers (keep : Number → Option Number) : List (String × Json) → Bool
  | [] => true
  | (_, v) :: ms => numbersKept keep v && numbersKeptMembers keep ms
end

-- The opening bracket of the first array or object, in text order, that stands more than `n`
-- levels deep: the character at which Go's scanner stops.
mutual
def tooDeep : Nat → Json → Option Char
  | 0, .array _ => some '['
  | 0, .object _ => some '\x7b'
  | n + 1, .array xs => tooDeepList n xs
  | n + 1, .object ms => tooDeepMembers n ms
  | _, _ => none
def tooDeepList (n : Nat) : List Json → Option Char
  | [] => none
  | x :: xs => (tooDeep n x).orElse fun _ => tooDeepList n xs
def tooDeepMembers (n : Nat) : List (String × Json) → Option Char
  | [] => none
  | (_, v) :: ms => (tooDeep n v).orElse fun _ => tooDeepMembers n ms
end

-- The tree nests at most `n` arrays and objects.
def withinDepth (n : Nat) (j : Json) : Bool := (j.tooDeep n).isNone

theorem isNone_orElse (a : Option Char) (b : Unit → Option Char) :
    (a.orElse b).isNone = (a.isNone && (b ()).isNone) := by
  cases a <;> rfl

theorem tooDeepList_isNone (n : Nat) (xs : List Json) :
    (tooDeepList n xs).isNone = xs.all fun x => (tooDeep n x).isNone := by
  induction xs with
  | nil => rfl
  | cons x xs ih => rw [tooDeepList, isNone_orElse, ih]; rfl

theorem tooDeepMembers_isNone (n : Nat) (ms : List (String × Json)) :
    (tooDeepMembers n ms).isNone = ms.all fun m => (tooDeep n m.2).isNone := by
  induction ms with
  | nil => rfl
  | cons m ms ih => rw [tooDeepMembers, isNone_orElse, ih]; rfl

theorem dupFreeMembers_eq (ms : List (String × Json)) :
    dupFreeMembers ms = ms.all fun m => dupFree m.2 := by
  induction ms with
  | nil => rfl
  | cons m ms ih => rw [dupFreeMembers, ih]; rfl

theorem dupFreeList_eq (xs : List Json) : dupFreeList xs = xs.all dupFree := by
  induction xs with
  | nil => rfl
  | cons x xs ih => rw [dupFreeList, ih]; rfl

theorem numbersKeptList_eq (keep : Number → Option Number) (xs : List Json) :
    numbersKeptList keep xs = xs.all (numbersKept keep) := by
  induction xs with
  | nil => rfl
  | cons x xs ih => rw [numbersKeptList, ih]; rfl

theorem numbersKeptMembers_eq (keep : Number → Option Number) (ms : List (String × Json)) :
    numbersKeptMembers keep ms = ms.all fun m => numbersKept keep m.2 := by
  induction ms with
  | nil => rfl
  | cons m ms ih => rw [numbersKeptMembers, ih]; rfl

end Json

namespace GoJson

-- A Go map assignment `m[k] = v` on the members decoded so far.
def setMember (ms : List (String × Json)) (k : String) (v : Json) : List (String × Json) :=
  if ms.any (·.1 = k) then ms.map fun m => if m.1 = k then (k, v) else m else ms ++ [(k, v)]

-- An object decoded into a Go map: a later member of a name replaces an earlier one.
def dedupe (ms : List (String × Json)) : List (String × Json) :=
  ms.foldl (fun acc m => setMember acc m.1 m.2) []

section Decode

variable (goFloat : Number → Option Number)

-- `json.Unmarshal` into `any`. `goFloat` is what a number becomes through a float64: the
-- number `json.Marshal` writes back for it, or none when the literal is out of range.
mutual
def decodeAny : Json → Option Json
  | .number n => (goFloat n).map .number
  | .array xs => (decodeList xs).map .array
  | .object ms => (decodeMembers ms).map fun ms => .object (dedupe ms)
  | j => some j
def decodeList : List Json → Option (List Json)
  | [] => some []
  | x :: xs => do
    let x ← decodeAny x
    let xs ← decodeList xs
    some (x :: xs)
def decodeMembers : List (String × Json) → Option (List (String × Json))
  | [] => some []
  | (k, v) :: ms => do
    let v ← decodeAny v
    let ms ← decodeMembers ms
    some ((k, v) :: ms)
end

end Decode

-- `strings.Compare(a, b) <= 0`: UTF-8 bytes compare as the code points they encode.
def keyLE : List Char → List Char → Bool
  | [], _ => true
  | _ :: _, [] => false
  | a :: as, b :: bs => if a.toNat < b.toNat then true else if a = b then keyLE as bs else false

-- `json.Marshal` sorts a map's keys (`slices.SortFunc` with `strings.Compare`); keys are
-- distinct, so any sort writes them in the same order.
def sortMembers (ms : List (String × Json)) : List (String × Json) :=
  ms.insertionSort fun a b => keyLE a.1.toList b.1.toList = true

-- `json.Marshal` of a decoded value: map keys are written in sorted order.
mutual
def encodeAny : Json → Json
  | .array xs => .array (encodeList xs)
  | .object ms => .object (sortMembers (encodeMembers ms))
  | j => j
def encodeList : List Json → List Json
  | [] => []
  | x :: xs => encodeAny x :: encodeList xs
def encodeMembers : List (String × Json) → List (String × Json)
  | [] => []
  | (k, v) :: ms => (k, encodeAny v) :: encodeMembers ms
end

-- Members with names new to `acc` are appended one by one.
theorem foldl_setMember_of_nodup (ms acc : List (String × Json)) (h : ((acc ++ ms).map (·.1)).Nodup) :
    ms.foldl (fun acc m => setMember acc m.1 m.2) acc = acc ++ ms := by
  induction ms generalizing acc with
  | nil => simp
  | cons m ms ih =>
    have hm : ¬ acc.any (·.1 = m.1) := by
      simp only [List.Nodup, List.map_append, List.pairwise_append] at h
      simp only [List.any_eq_true, decide_eq_true_eq, not_exists, not_and]
      exact fun a ha => h.2.2 a.1 (List.mem_map_of_mem _ ha) m.1 (List.mem_cons_self _ _)
    rw [List.foldl_cons, setMember, if_neg hm, ih (acc ++ [m]) (by simpa using h)]
    simp

-- Decoding a member list with no repeated name keeps it as it is.
theorem dedupe_of_nodup {ms : List (String × Json)} (h : (ms.map (·.1)).Nodup) : dedupe ms = ms :=
  foldl_setMember_of_nodup ms [] h

section Decode

variable (goFloat : Number → Option Number)

-- A tree with no repeated name, whose numbers Go writes back unchanged, decodes to itself.
mutual
theorem decodeAny_self : ∀ j : Json, j.dupFree → j.numbersKept goFloat → decodeAny goFloat j = some j
  | .null, _, _ => rfl
  | .bool _, _, _ => rfl
  | .string _, _, _ => rfl
  | .number n, _, hk => by
    simp only [Json.numbersKept, decide_eq_true_eq] at hk
    simp [decodeAny, hk]
  | .array xs, hd, hk => by
    rw [decodeAny, decodeList_self xs hd hk]; rfl
  | .object ms, hd, hk => by
    simp only [Json.dupFree, Bool.and_eq_true, decide_eq_true_eq] at hd
    rw [decodeAny, decodeMembers_self ms hd.2 hk]
    simp [dedupe_of_nodup hd.1]
theorem decodeList_self : ∀ xs : List Json, Json.dupFreeList xs → Json.numbersKeptList goFloat xs →
    decodeList goFloat xs = some xs
  | [], _, _ => rfl
  | x :: xs, hd, hk => by
    simp only [Json.dupFreeList, Json.numbersKeptList, Bool.and_eq_true] at hd hk
    simp [decodeList, decodeAny_self x hd.1 hk.1, decodeList_self xs hd.2 hk.2]
theorem decodeMembers_self : ∀ ms : List (String × Json), Json.dupFreeMembers ms →
    Json.numbersKeptMembers goFloat ms → decodeMembers goFloat ms = some ms
  | [], _, _ => rfl
  | (k, v) :: ms, hd, hk => by
    simp only [Json.dupFreeMembers, Json.numbersKeptMembers, Bool.and_eq_true] at hd hk
    simp [decodeMembers, decodeAny_self v hd.1 hk.1, decodeMembers_self ms hd.2 hk.2]
end

-- `encoding/json`'s scanner refuses a text that nests more arrays and objects than this.
def maxNestingDepth : Nat := 10000

-- The scanner's `SyntaxError` at the bracket that opens one level too many.
def depthError (c : Char) : String := "invalid character '" ++ c.toString ++ "' exceeded max depth"

-- A number no float64 holds: `json.Unmarshal` into `any` fails.
def numberRangeError : String := "json: cannot unmarshal number into Go value of type float64"

-- `json.Unmarshal(data, &m)` with `m any`: the scanner checks the whole text before a value is
-- built.
def unmarshalAny (data : Json) : Except String Json :=
  match data.tooDeep maxNestingDepth with
  | some c => .error (depthError c)
  | none =>
    match decodeAny goFloat data with
    | none => .error numberRangeError
    | some m => .ok m

theorem unmarshalAny_of_withinDepth {data : Json} (hd : data.withinDepth maxNestingDepth) :
    unmarshalAny goFloat data = ((decodeAny goFloat data).map .ok).getD (.error numberRangeError) := by
  rw [Json.withinDepth, Option.isNone_iff_eq_none] at hd
  unfold unmarshalAny
  rw [hd]
  cases decodeAny goFloat data <;> rfl

theorem unmarshalAny_self {j : Json} (hd : j.dupFree) (hk : j.numbersKept goFloat)
    (hn : j.withinDepth maxNestingDepth) : unmarshalAny goFloat j = .ok j := by
  rw [unmarshalAny_of_withinDepth goFloat hn, decodeAny_self goFloat j hd hk]
  rfl

end Decode

theorem all_perm {α : Type} {l l' : List α} (h : l.Perm l') (p : α → Bool) : l.all p = l'.all p := by
  apply Bool.eq_iff_iff.mpr
  simp only [List.all_eq_true]
  exact ⟨fun hl x hx => hl x (h.mem_iff.mpr hx), fun hl x hx => hl x (h.mem_iff.mp hx)⟩

theorem sortMembers_perm (ms : List (String × Json)) : (sortMembers ms).Perm ms :=
  List.perm_insertionSort _ ms

theorem dupFreeMembers_sortMembers (ms : List (String × Json)) :
    Json.dupFreeMembers (sortMembers ms) = Json.dupFreeMembers ms := by
  rw [Json.dupFreeMembers_eq, Json.dupFreeMembers_eq, all_perm (sortMembers_perm ms)]

theorem numbersKeptMembers_sortMembers (keep : Number → Option Number) (ms : List (String × Json)) :
    Json.numbersKeptMembers keep (sortMembers ms) = Json.numbersKeptMembers keep ms := by
  rw [Json.numbersKeptMembers_eq, Json.numbersKeptMembers_eq, all_perm (sortMembers_perm ms)]

theorem keys_encodeMembers (ms : List (String × Json)) : (encodeMembers ms).map (·.1) = ms.map (·.1) := by
  induction ms with
  | nil => rfl
  | cons m ms ih => simp [encodeMembers, ih]

-- Writing keys in sorted order changes no member's name or value.
mutual
theorem dupFree_encodeAny : ∀ j : Json, (encodeAny j).dupFree = j.dupFree
  | .null | .bool _ | .number _ | .string _ => rfl
  | .array xs => by simp only [encodeAny, Json.dupFree, dupFreeList_encodeList xs]
  | .object ms => by
    have hp := sortMembers_perm (encodeMembers ms)
    simp only [encodeAny, Json.dupFree, dupFreeMembers_sortMembers, dupFreeMembers_encodeMembers ms,
      (hp.map (·.1)).nodup_iff, keys_encodeMembers]
theorem dupFreeList_encodeList : ∀ xs : List Json, Json.dupFreeList (encodeList xs) = Json.dupFreeList xs
  | [] => rfl
  | x :: xs => by simp only [encodeList, Json.dupFreeList, dupFree_encodeAny x, dupFreeList_encodeList xs]
theorem dupFreeMembers_encodeMembers : ∀ ms : List (String × Json),
    Json.dupFreeMembers (encodeMembers ms) = Json.dupFreeMembers ms
  | [] => rfl
  | (k, v) :: ms => by
    simp only [encodeMembers, Json.dupFreeMembers, dupFree_encodeAny v, dupFreeMembers_encodeMembers ms]
end

mutual
theorem numbersKept_encodeAny (keep : Number → Option Number) :
    ∀ j : Json, (encodeAny j).numbersKept keep = j.numbersKept keep
  | .null | .bool _ | .number _ | .string _ => rfl
  | .array xs => by simp only [encodeAny, Json.numbersKept, numbersKeptList_encodeList keep xs]
  | .object ms => by
    simp only [encodeAny, Json.numbersKept, numbersKeptMembers_sortMembers,
      numbersKeptMembers_encodeMembers keep ms]
theorem numbersKeptList_encodeList (keep : Number → Option Number) :
    ∀ xs : List Json, Json.numbersKeptList keep (encodeList xs) = Json.numbersKeptList keep xs
  | [] => rfl
  | x :: xs => by
    simp only [encodeList, Json.numbersKeptList, numbersKept_encodeAny keep x,
      numbersKeptList_encodeList keep xs]
theorem numbersKeptMembers_encodeMembers (keep : Number → Option Number) :
    ∀ ms : List (String × Json),
    Json.numbersKeptMembers keep (encodeMembers ms) = Json.numbersKeptMembers keep ms
  | [] => rfl
  | (k, v) :: ms => by
    simp only [encodeMembers, Json.numbersKeptMembers, numbersKept_encodeAny keep v,
      numbersKeptMembers_encodeMembers keep ms]
end

-- Sorting keys moves no value up or down the tree.
mutual
theorem tooDeep_encodeAny : ∀ (n : Nat) (j : Json), ((encodeAny j).tooDeep n).isNone = (j.tooDeep n).isNone
  | _, .null | _, .bool _ | _, .number _ | _, .string _ | 0, .array _ | 0, .object _ => rfl
  | n + 1, .array xs => by simp only [encodeAny, Json.tooDeep, tooDeepList_encodeList n xs]
  | n + 1, .object ms => by
    simp only [encodeAny, Json.tooDeep, Json.tooDeepMembers_isNone, all_perm (sortMembers_perm _)]
    rw [← Json.tooDeepMembers_isNone, tooDeepMembers_encodeMembers n ms, Json.tooDeepMembers_isNone]
theorem tooDeepList_encodeList (n : Nat) :
    ∀ xs : List Json, (Json.tooDeepList n (encodeList xs)).isNone = (Json.tooDeepList n xs).isNone
  | [] => rfl
  | x :: xs => by
    simp only [encodeList, Json.tooDeepList, Json.isNone_orElse, tooDeep_encodeAny n x, tooDeepList_encodeList n xs]
theorem tooDeepMembers_encodeMembers (n : Nat) : ∀ ms : List (String × Json),
    (Json.tooDeepMembers n (encodeMembers ms)).isNone = (Json.tooDeepMembers n ms).isNone
  | [] => rfl
  | (k, v) :: ms => by
    simp only [encodeMembers, Json.tooDeepMembers, Json.isNone_orElse, tooDeep_encodeAny n v,
      tooDeepMembers_encodeMembers n ms]
end

theorem withinDepth_encodeAny (n : Nat) (j : Json) : (encodeAny j).withinDepth n = j.withinDepth n :=
  tooDeep_encodeAny n j

end GoJson

end OtlpHelper
