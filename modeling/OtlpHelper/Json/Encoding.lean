import OtlpHelper.Basic

-- Go's `encoding/base64` (`StdEncoding`) and `encoding/hex`, on byte lists.
namespace OtlpHelper.Base64

def alphabet : List Char := "ABCDEFGHIJKLMNOPQRSTUVWXYZabcdefghijklmnopqrstuvwxyz0123456789+/".toList

def encodeChar (i : Nat) : Char := alphabet.getD i '='

-- The value of a character of the alphabet; `url` selects the URL alphabet, which has `-`
-- and `_` in place of `+` and `/`.
def decodeChar (url : Bool) (c : Char) : Option Nat :=
  if 'A' ≤ c ∧ c ≤ 'Z' then some (c.toNat - 'A'.toNat)
  else if 'a' ≤ c ∧ c ≤ 'z' then some (c.toNat - 'a'.toNat + 26)
  else if '0' ≤ c ∧ c ≤ '9' then some (c.toNat - '0'.toNat + 52)
  else if c = (if url then '-' else '+') then some 62
  else if c = (if url then '_' else '/') then some 63
  else none

-- Three bytes become four characters; a last group of one or two bytes is padded with `=`.
def encodeChars : List UInt8 → List Char
  | [] => []
  | [a] =>
    let n := a.toNat * 65536
    [encodeChar (n / 262144), encodeChar (n / 4096 % 64), '=', '=']
  | [a, b] =>
    let n := a.toNat * 65536 + b.toNat * 256
    [encodeChar (n / 262144), encodeChar (n / 4096 % 64), encodeChar (n / 64 % 64), '=']
  | a :: b :: c :: rest =>
    let n := a.toNat * 65536 + b.toNat * 256 + c.toNat
    [encodeChar (n / 262144), encodeChar (n / 4096 % 64), encodeChar (n / 64 % 64),
      encodeChar (n % 64)] ++ encodeChars rest
termination_by structural bs => bs

-- `StdEncoding.EncodeToString`.
def encodeToString (bs : List UInt8) : String := String.mk (encodeChars bs)

-- Groups of four characters. With padding only the last group may end in one or two `=`;
-- without, the last group may have two or three characters instead. Bits below the last
-- byte of a short group are ignored, as the non-strict decoder does.
def decodeChars (url padded : Bool) : List Char → Option (List UInt8)
  | [] => some []
  | [_] => none
  | [a, b] => if padded then none else do
    let a ← decodeChar url a
    let b ← decodeChar url b
    some [UInt8.ofNat ((a * 64 + b) / 16)]
  | [a, b, c] => if padded then none else do
    let a ← decodeChar url a
    let b ← decodeChar url b
    let c ← decodeChar url c
    let n := (a * 4096 + b * 64 + c) / 4
    some [UInt8.ofNat (n / 256), UInt8.ofNat (n % 256)]
  | a :: b :: c :: d :: rest =>
    if padded ∧ rest = [] ∧ c = '=' ∧ d = '=' then do
      let a ← decodeChar url a
      let b ← decodeChar url b
      some [UInt8.ofNat ((a * 64 + b) / 16)]
    else if padded ∧ rest = [] ∧ d = '=' then do
      let a ← decodeChar url a
      let b ← decodeChar url b
      let c ← decodeChar url c
      let n := (a * 4096 + b * 64 + c) / 4
      some [UInt8.ofNat (n / 256), UInt8.ofNat (n % 256)]
    else do
      let a ← decodeChar url a
      let b ← decodeChar url b
      let c ← decodeChar url c
      let d ← decodeChar url d
      let n := a * 262144 + b * 4096 + c * 64 + d
      let tail ← decodeChars url padded rest
      some ([UInt8.ofNat (n / 65536), UInt8.ofNat (n / 256 % 256), UInt8.ofNat (n % 256)] ++ tail)
termination_by structural cs => cs

-- `DecodeString` of an encoding; every encoding skips `\r` and `\n`.
def decodeWith (url padded : Bool) (s : String) : Option (List UInt8) :=
  decodeChars url padded (s.toList.filter fun c => c ≠ '\r' ∧ c ≠ '\n')

-- `StdEncoding.DecodeString`.
def decodeString (s : String) : Option (List UInt8) := decodeWith false true s

theorem length_encodeChars : ∀ bs : List UInt8, (encodeChars bs).length = 4 * ((bs.length + 2) / 3)
  | [] => rfl
  | [_] => by simp [encodeChars]
  | [_, _] => by simp [encodeChars]
  | _ :: _ :: _ :: rest => by
    simp only [encodeChars, List.length_append, List.length_cons, List.length_nil,
      length_encodeChars rest]
    omega

theorem length_encodeToString (bs : List UInt8) :
    (encodeToString bs).length = 4 * ((bs.length + 2) / 3) :=
  length_encodeChars bs

theorem decodeChar_encodeChar : ∀ i : Fin 64, decodeChar false (encodeChar i) = some i.val := by
  decide

theorem encodeChar_ne_pad : ∀ i : Fin 64, encodeChar i ≠ '=' := by
  decide

private theorem ofNat_eq {n : Nat} {a : UInt8} (h : n = a.toNat) : UInt8.ofNat n = a :=
  h ▸ UInt8.eq_of_val_eq (Fin.ext (Nat.mod_eq_of_lt a.val.isLt))

private theorem decodeChar_encodeChar_of_lt {i : Nat} (h : i < 64) :
    decodeChar false (encodeChar i) = some i :=
  decodeChar_encodeChar ⟨i, h⟩

private theorem encodeChar_ne_pad_of_lt {i : Nat} (h : i < 64) : encodeChar i ≠ '=' :=
  encodeChar_ne_pad ⟨i, h⟩

-- `StdEncoding` reads back what it writes: each group of four characters gives back the
-- bytes whose bits it holds.
theorem decodeChars_encodeChars : ∀ bs : List UInt8, decodeChars false true (encodeChars bs) = some bs
  | [] => rfl
  | [a] => by
    have ha : a.toNat < 256 := a.val.isLt
    simp only [encodeChars, decodeChars, and_self, if_true, Option.bind_eq_bind,
      decodeChar_encodeChar_of_lt (show a.toNat * 65536 / 262144 < 64 by omega),
      decodeChar_encodeChar_of_lt (show a.toNat * 65536 / 4096 % 64 < 64 by omega), Option.some_bind]
    rw [ofNat_eq (by omega : (a.toNat * 65536 / 262144 * 64 + a.toNat * 65536 / 4096 % 64) / 16 = a.toNat)]
  | [a, b] => by
    have ha : a.toNat < 256 := a.val.isLt
    have hb : b.toNat < 256 := b.val.isLt
    simp only [encodeChars, decodeChars, and_self, if_true, Option.bind_eq_bind,
      encodeChar_ne_pad_of_lt (show (a.toNat * 65536 + b.toNat * 256) / 64 % 64 < 64 by omega),
      decodeChar_encodeChar_of_lt (show (a.toNat * 65536 + b.toNat * 256) / 262144 < 64 by omega),
      decodeChar_encodeChar_of_lt (show (a.toNat * 65536 + b.toNat * 256) / 4096 % 64 < 64 by omega),
      decodeChar_encodeChar_of_lt (show (a.toNat * 65536 + b.toNat * 256) / 64 % 64 < 64 by omega),
      Option.some_bind, true_and, false_and, if_false, Option.some.injEq, List.cons.injEq, and_true]
    exact ⟨ofNat_eq (by omega), ofNat_eq (by omega)⟩
  | a :: b :: c :: rest => by
    have ha : a.toNat < 256 := a.val.isLt
    have hb : b.toNat < 256 := b.val.isLt
    have hc : c.toNat < 256 := c.val.isLt
    simp only [encodeChars, decodeChars, List.cons_append, List.append_eq, List.nil_append, Option.bind_eq_bind,
      encodeChar_ne_pad_of_lt (show (a.toNat * 65536 + b.toNat * 256 + c.toNat) % 64 < 64 by omega),
      decodeChar_encodeChar_of_lt (show (a.toNat * 65536 + b.toNat * 256 + c.toNat) / 262144 < 64 by omega),
      decodeChar_encodeChar_of_lt (show (a.toNat * 65536 + b.toNat * 256 + c.toNat) / 4096 % 64 < 64 by omega),
      decodeChar_encodeChar_of_lt (show (a.toNat * 65536 + b.toNat * 256 + c.toNat) / 64 % 64 < 64 by omega),
      decodeChar_encodeChar_of_lt (show (a.toNat * 65536 + b.toNat * 256 + c.toNat) % 64 < 64 by omega),
      decodeChars_encodeChars rest, Option.some_bind, and_false, false_and, if_false, Option.some.injEq,
      List.cons.injEq]
    exact ⟨ofNat_eq (by omega), ofNat_eq (by omega), ofNat_eq (by omega), trivial⟩

theorem encodeChar_mem (i : Nat) : encodeChar i ∈ '=' :: alphabet := by
  unfold encodeChar
  rw [List.getD_eq_getElem?_getD]
  cases h : alphabet[i]? with
  | none => exact List.mem_cons_self _ _
  | some c => exact List.mem_cons_of_mem _ (List.getElem?_mem h)

-- What `StdEncoding` writes is made of the alphabet and `=`.
theorem mem_encodeChars : ∀ {bs : List UInt8} {c : Char}, c ∈ encodeChars bs → c ∈ '=' :: alphabet
  | [], _, h => by cases h
  | [_], _, h | [_, _], _, h => by
    simp only [encodeChars, List.mem_cons, List.mem_singleton, List.not_mem_nil, or_false] at h
    rcases h with rfl | rfl | rfl | rfl <;> first | exact encodeChar_mem _ | exact List.mem_cons_self _ _
  | _ :: _ :: _ :: rest, _, h => by
    simp only [encodeChars, List.cons_append, List.nil_append, List.mem_cons] at h
    rcases h with rfl | rfl | rfl | rfl | h
    · exact encodeChar_mem _
    · exact encodeChar_mem _
    · exact encodeChar_mem _
    · exact encodeChar_mem _
    · exact mem_encodeChars h

-- A byte count that is not a multiple of three ends in padding.
theorem pad_mem_encodeChars : ∀ {bs : List UInt8}, bs.length % 3 ≠ 0 → '=' ∈ encodeChars bs
  | [], h => absurd rfl h
  | [_], _ | [_, _], _ => by simp [encodeChars]
  | _ :: _ :: _ :: rest, h => by
    rw [encodeChars]
    exact List.mem_append_right _ (pad_mem_encodeChars (by simp only [List.length_cons] at h; omega))

theorem decodeString_encodeToString (bs : List UInt8) : decodeString (encodeToString bs) = some bs := by
  have hkeep : ∀ c ∈ '=' :: alphabet, c ≠ '\r' ∧ c ≠ '\n' := by decide
  show decodeChars false true ((encodeChars bs).filter _) = some bs
  rw [List.filter_eq_self.mpr fun c hc => decide_eq_true (hkeep c (mem_encodeChars hc))]
  exact decodeChars_encodeChars bs

end OtlpHelper.Base64

namespace OtlpHelper.Hex

def digit (i : Nat) : Char := "0123456789abcdef".toList.getD i '0'

-- The value of a hexadecimal digit, in either case.
def fromHexChar (c : Char) : Option Nat :=
  if '0' ≤ c ∧ c ≤ '9' then some (c.toNat - '0'.toNat)
  else if 'a' ≤ c ∧ c ≤ 'f' then some (c.toNat - 'a'.toNat + 10)
  else if 'A' ≤ c ∧ c ≤ 'F' then some (c.toNat - 'A'.toNat + 10)
  else none

-- `hex.EncodeToString`: two lower-case digits per byte.
def encodeToString (bs : List UInt8) : String :=
  String.mk (bs.flatMap fun b => [digit (b.toNat / 16), digit (b.toNat % 16)])

def decodeChars : List Char → Option (List UInt8)
  | [] => some []
  | [_] => none
  | a :: b :: rest => do
    let a ← fromHexChar a
    let b ← fromHexChar b
    let tail ← decodeChars rest
    some (UInt8.ofNat (a * 16 + b) :: tail)
termination_by structural cs => cs

theorem decodeChars_of_not_digit {c : Char} (hc : fromHexChar c = none) :
    ∀ {cs : List Char}, c ∈ cs → decodeChars cs = none
  | [_], _ => rfl
  | a :: b :: rest, h => by
    rcases List.mem_cons.mp h with rfl | h
    · simp [decodeChars, hc]
    rcases List.mem_cons.mp h with rfl | h
    · simp [decodeChars, hc]
    · simp [decodeChars, decodeChars_of_not_digit hc h]

-- `hex.DecodeString`: an odd length or a non-digit is an error.
def decodeString (s : String) : Option (List UInt8) := decodeChars s.toList

theorem length_of_decodeChars : ∀ {cs : List Char} {bs : List UInt8}, decodeChars cs = some bs →
    cs.length = 2 * bs.length
  | [], _, h => by cases h; rfl
  | [_], _, h => by cases h
  | a :: b :: rest, bs, h => by
    simp only [decodeChars, Option.bind_eq_bind, Option.bind_eq_some, Option.some.injEq] at h
    obtain ⟨_, -, _, -, tail, ht, rfl⟩ := h
    simp only [List.length_cons, length_of_decodeChars ht]
    omega

-- Only a text of `2 * n` characters is the hexadecimal of `n` bytes.
theorem length_of_decodeString {s : String} {bs : List UInt8} (h : decodeString s = some bs) :
    s.length = 2 * bs.length :=
  length_of_decodeChars h

theorem length_encodeToString (bs : List UInt8) : (encodeToString bs).length = 2 * bs.length := by
  induction bs with
  | nil => rfl
  | cons b bs ih =>
    simp only [encodeToString, String.length, List.flatMap_cons, List.length_append,
      List.length_cons, List.length_nil] at ih ⊢
    omega

end OtlpHelper.Hex
