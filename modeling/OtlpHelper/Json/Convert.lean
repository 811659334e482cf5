import OtlpHelper.Json.Value
import OtlpHelper.Json.Encoding

namespace OtlpHelper.Convert

open GoJson

-- `keyIsTraceIDOrSpanID`: the pair of lengths the code checks an id against, and whether the
-- key names an id. The code calls the first `hexBytes` and the second `base64Bytes`.
def keyIsTraceIDOrSpanID (k : String) : Nat × Nat × Bool :=
  -- `strings.ReplaceAll(k, "_", "")`, then `strings.ToLower`
  let key := goToLower (String.mk (k.toList.filter (· ≠ '_')))
  if goContains key "traceid" then (16, 24, true)
  else if goContains key "spanid" then (8, 12, true)
  else (0, 0, false)

-- The string branch of `convertTraceIDAndSpanIDBase64ToHexForMap`: each failed check
-- leaves the value as it is.
def base64ToHexString (hexBytes base64Bytes : Nat) (s : String) : String :=
  match Base64.decodeString s with
  | none => s
  | some bs =>
    if bs.length ≠ base64Bytes then s
    else
      let converted := goToUpper (Hex.encodeToString bs)
      if converted.length ≠ hexBytes then s else converted

-- The string branch of `convertTraceIDAndSpanIDHexToBase64ForMap`.
def hexToBase64String (hexBytes base64Bytes : Nat) (s : String) : String :=
  match Hex.decodeString s with
  | none => s
  | some bs =>
    if bs.length ≠ hexBytes then s
    else
      let converted := Base64.encodeToString bs
      if converted.length ≠ base64Bytes then s else converted

-- What the loop of the two map walks stores under `k`: the converted string when the key names
-- an id and holds a string, else `walked`, the value walked into.
def convertIDMember (convert : Nat → Nat → String → String) (k : String) (v walked : Json) : Json :=
  match v, keyIsTraceIDOrSpanID k with
  | .string s, (hexBytes, base64Bytes, true) => .string (convert hexBytes base64Bytes s)
  | _, _ => walked

-- The two walks over a decoded value differ only in the string conversion.
mutual
def convertIDsForAny (convert : Nat → Nat → String → String) : Json → Json
  | .object ms => .object (convertIDsForMap convert ms)
  | .array xs => .array (convertIDsForList convert xs)
  | j => j
def convertIDsForList (convert : Nat → Nat → String → String) : List Json → List Json
  | [] => []
  | x :: xs => convertIDsForAny convert x :: convertIDsForList convert xs
def convertIDsForMap (convert : Nat → Nat → String → String) :
    List (String × Json) → List (String × Json)
  | [] => []
  | (k, v) :: ms => (k, convertIDMember convert k v (convertIDsForAny convert v)) :: convertIDsForMap convert ms
end

def convertTraceIDAndSpanIDBase64ToHexForAny : Json → Json := convertIDsForAny base64ToHexString

def convertTraceIDAndSpanIDBase64ToHexForMap : List (String × Json) → List (String × Json) :=
  convertIDsForMap base64ToHexString

def convertTraceIDAndSpanIDHexToBase64ForAny : Json → Json := convertIDsForAny hexToBase64String

def convertTraceIDAndSpanIDHexToBase64ForMap : List (String × Json) → List (String × Json) :=
  convertIDsForMap hexToBase64String

-- Every member of every object of the tree satisfies `p`.
mutual
def everyMember (p : String → Json → Bool) : Json → Bool
  | .object ms => everyMemberOf p ms
  | .array xs => everyMemberList p xs
  | _ => true
def everyMemberList (p : String → Json → Bool) : List Json → Bool
  | [] => true
  | x :: xs => everyMember p x && everyMemberList p xs
def everyMemberOf (p : String → Json → Bool) : List (String × Json) → Bool
  | [] => true
  | (k, v) :: ms => p k v && everyMember p v && everyMemberOf p ms
end

-- An id member whose string the conversion leaves as it is.
def idKept (convert : Nat → Nat → String → String) (k : String) (v : Json) : Bool :=
  match v, keyIsTraceIDOrSpanID k with
  | .string s, (hexBytes, base64Bytes, true) => convert hexBytes base64Bytes s = s
  | _, _ => true

-- An id member the hex-to-base64 walk rewrites: an id key whose string is the hexadecimal
-- of as many bytes as the key's id has.
def hexId (k : String) (v : Json) : Bool :=
  match v, keyIsTraceIDOrSpanID k with
  | .string s, (hexBytes, _, true) => (Hex.decodeString s).any (·.length = hexBytes)
  | _, _ => false

-- No member of the tree is such an id.
def hexIdFree (j : Json) : Bool := everyMember (fun k v => !hexId k v) j

section Walk

variable (convert : Nat → Nat → String → String)

theorem convertIDMember_of_idKept {k : String} {v : Json} (h : idKept convert k v) :
    convertIDMember convert k v v = v := by
  unfold idKept at h
  unfold convertIDMember
  split
  · next s hexBytes base64Bytes hk => simp only [hk, decide_eq_true_eq] at h; rw [h]
  · rfl

-- A walk whose conversion keeps every id of the tree changes nothing.
mutual
theorem convertIDsForAny_eq : ∀ j : Json, everyMember (idKept convert) j → convertIDsForAny convert j = j
  | .null, _ | .bool _, _ | .number _, _ | .string _, _ => rfl
  | .array xs, h => by rw [convertIDsForAny, convertIDsForList_eq xs h]
  | .object ms, h => by rw [convertIDsForAny, convertIDsForMap_eq ms h]
theorem convertIDsForList_eq : ∀ xs : List Json, everyMemberList (idKept convert) xs →
    convertIDsForList convert xs = xs
  | [], _ => rfl
  | x :: xs, h => by
    simp only [everyMemberList, Bool.and_eq_true] at h
    rw [convertIDsForList, convertIDsForAny_eq x h.1, convertIDsForList_eq xs h.2]
theorem convertIDsForMap_eq : ∀ ms : List (String × Json), everyMemberOf (idKept convert) ms →
    convertIDsForMap convert ms = ms
  | [], _ => rfl
  | (k, v) :: ms, h => by
    simp only [everyMemberOf, Bool.and_eq_true] at h
    rw [convertIDsForMap, convertIDsForAny_eq v h.1.2, convertIDMember_of_idKept convert h.1.1,
      convertIDsForMap_eq ms h.2]
end

theorem keys_convertIDsForMap (ms : List (String × Json)) :
    (convertIDsForMap convert ms).map (·.1) = ms.map (·.1) := by
  induction ms with
  | nil => rfl
  | cons m ms ih => simp only [convertIDsForMap, List.map_cons, ih]

theorem dupFree_convertIDMember (k : String) (v walked : Json) (h : walked.dupFree = v.dupFree) :
    (convertIDMember convert k v walked).dupFree = v.dupFree := by
  unfold convertIDMember
  split
  · rfl
  · exact h

-- The walk keeps every member name, so it keeps a tree free of repeated names.
mutual
theorem dupFree_convertIDsForAny : ∀ j : Json, (convertIDsForAny convert j).dupFree = j.dupFree
  | .null | .bool _ | .number _ | .string _ => rfl
  | .array xs => by
    simp only [convertIDsForAny, Json.dupFree, dupFreeList_convertIDsForList xs]
  | .object ms => by
    simp only [convertIDsForAny, Json.dupFree, keys_convertIDsForMap, dupFreeMembers_convertIDsForMap ms]
theorem dupFreeList_convertIDsForList : ∀ xs : List Json,
    Json.dupFreeList (convertIDsForList convert xs) = Json.dupFreeList xs
  | [] => rfl
  | x :: xs => by
    simp only [convertIDsForList, Json.dupFreeList, dupFree_convertIDsForAny x, dupFreeList_convertIDsForList xs]
theorem dupFreeMembers_convertIDsForMap : ∀ ms : List (String × Json),
    Json.dupFreeMembers (convertIDsForMap convert ms) = Json.dupFreeMembers ms
  | [] => rfl
  | (k, v) :: ms => by
    simp only [convertIDsForMap, Json.dupFreeMembers,
      dupFree_convertIDMember convert k v _ (dupFree_convertIDsForAny v), dupFreeMembers_convertIDsForMap ms]
end

-- Two conversions that agree on the lengths of the id keys give the same walk.
mutual
theorem convertIDsForAny_congr {convert' : Nat → Nat → String → String}
    (h : ∀ k hexBytes base64Bytes, keyIsTraceIDOrSpanID k = (hexBytes, base64Bytes, true) →
      convert hexBytes base64Bytes = convert' hexBytes base64Bytes) :
    ∀ j : Json, convertIDsForAny convert j = convertIDsForAny convert' j
  | .null | .bool _ | .number _ | .string _ => rfl
  | .array xs => by rw [convertIDsForAny, convertIDsForAny, convertIDsForList_congr h xs]
  | .object ms => by rw [convertIDsForAny, convertIDsForAny, convertIDsForMap_congr h ms]
theorem convertIDsForList_congr {convert' : Nat → Nat → String → String}
    (h : ∀ k hexBytes base64Bytes, keyIsTraceIDOrSpanID k = (hexBytes, base64Bytes, true) →
      convert hexBytes base64Bytes = convert' hexBytes base64Bytes) :
    ∀ xs : List Json, convertIDsForList convert xs = convertIDsForList convert' xs
  | [] => rfl
  | x :: xs => by
    rw [convertIDsForList, convertIDsForList, convertIDsForAny_congr h x, convertIDsForList_congr h xs]
theorem convertIDsForMap_congr {convert' : Nat → Nat → String → String}
    (h : ∀ k hexBytes base64Bytes, keyIsTraceIDOrSpanID k = (hexBytes, base64Bytes, true) →
      convert hexBytes base64Bytes = convert' hexBytes base64Bytes) :
    ∀ ms : List (String × Json), convertIDsForMap convert ms = convertIDsForMap convert' ms
  | [] => rfl
  | (k, v) :: ms => by
    have hm : convertIDMember convert k v = convertIDMember convert' k v := by
      funext walked
      unfold convertIDMember
      split
      · next s hexBytes base64Bytes hk => rw [h k hexBytes base64Bytes hk]
      · rfl
    rw [convertIDsForMap, convertIDsForMap, hm, convertIDsForAny_congr h v, convertIDsForMap_congr h ms]
end

end Walk

section Every

variable (p : String → Json → Bool)

theorem everyMemberOf_eq (ms : List (String × Json)) :
    everyMemberOf p ms = ms.all fun m => p m.1 m.2 && everyMember p m.2 := by
  induction ms with
  | nil => rfl
  | cons m ms ih => rw [everyMemberOf, ih]; rfl

theorem everyMemberList_eq (xs : List Json) : everyMemberList p xs = xs.all (everyMember p) := by
  induction xs with
  | nil => rfl
  | cons x xs ih => rw [everyMemberList, ih]; rfl

mutual
theorem everyMember_of_forall (hp : ∀ k v, p k v) : ∀ j : Json, everyMember p j
  | .null | .bool _ | .number _ | .string _ => rfl
  | .array xs => everyMemberList_of_forall hp xs
  | .object ms => everyMemberOf_of_forall hp ms
theorem everyMemberList_of_forall (hp : ∀ k v, p k v) : ∀ xs : List Json, everyMemberList p xs
  | [] => rfl
  | x :: xs => by
    simp only [everyMemberList, everyMember_of_forall hp x, everyMemberList_of_forall hp xs, Bool.and_self]
theorem everyMemberOf_of_forall (hp : ∀ k v, p k v) : ∀ ms : List (String × Json), everyMemberOf p ms
  | [] => rfl
  | (k, v) :: ms => by
    simp only [everyMemberOf, hp k v, everyMember_of_forall hp v, everyMemberOf_of_forall hp ms,
      Bool.and_self]
end

-- Sorting members keeps every member property that looks at a value's strings only.
mutual
theorem everyMember_encodeAny (hp : ∀ k v, p k (encodeAny v) = p k v) :
    ∀ j : Json, everyMember p (encodeAny j) = everyMember p j
  | .null | .bool _ | .number _ | .string _ => rfl
  | .array xs => by simp only [encodeAny, everyMember, everyMemberList_encodeList hp xs]
  | .object ms => by
    simp only [encodeAny, everyMember]
    rw [everyMemberOf_eq, all_perm (sortMembers_perm _), ← everyMemberOf_eq, everyMemberOf_encodeMembers hp ms]
theorem everyMemberList_encodeList (hp : ∀ k v, p k (encodeAny v) = p k v) :
    ∀ xs : List Json, everyMemberList p (encodeList xs) = everyMemberList p xs
  | [] => rfl
  | x :: xs => by
    simp only [encodeList, everyMemberList, everyMember_encodeAny hp x, everyMemberList_encodeList hp xs]
theorem everyMemberOf_encodeMembers (hp : ∀ k v, p k (encodeAny v) = p k v) :
    ∀ ms : List (String × Json), everyMemberOf p (encodeMembers ms) = everyMemberOf p ms
  | [] => rfl
  | (k, v) :: ms => by
    simp only [encodeMembers, everyMemberOf, hp k v, everyMember_encodeAny hp v,
      everyMemberOf_encodeMembers hp ms]
end

end Every

theorem keyIsTraceIDOrSpanID_lengths {k : String} {hexBytes base64Bytes : Nat}
    (h : keyIsTraceIDOrSpanID k = (hexBytes, base64Bytes, true)) :
    hexBytes = 16 ∧ base64Bytes = 24 ∨ hexBytes = 8 ∧ base64Bytes = 12 := by
  unfold keyIsTraceIDOrSpanID at h
  dsimp only at h
  split at h
  · cases h; exact Or.inl ⟨rfl, rfl⟩
  · split at h
    · cases h; exact Or.inr ⟨rfl, rfl⟩
    · cases h

theorem length_goToUpper (s : String) : (goToUpper s).length = s.length := by
  simp only [goToUpper, String.length, List.length_map]
  rfl

-- The base64 check wants as many bytes as the hex check wants characters: the hex of bytes
-- that pass the first check is twice as long as the second check allows.
theorem base64ToHexString_eq_self {hexBytes base64Bytes : Nat} (h : hexBytes ≠ 2 * base64Bytes)
    (s : String) : base64ToHexString hexBytes base64Bytes s = s := by
  unfold base64ToHexString
  split
  · rfl
  · next bs _ =>
    dsimp only
    by_cases hb : bs.length = base64Bytes
    · rw [if_neg (not_not_intro hb), length_goToUpper, Hex.length_encodeToString, hb, if_pos (Ne.symm h)]
    · rw [if_pos hb]

-- So the base64-to-hex walk leaves every tree as it is.
theorem convertTraceIDAndSpanIDBase64ToHexForAny_eq (j : Json) :
    convertTraceIDAndSpanIDBase64ToHexForAny j = j := by
  refine convertIDsForAny_eq _ j (everyMember_of_forall _ (fun k v => ?_) j)
  unfold idKept
  split
  · next s hexBytes base64Bytes hk =>
    apply decide_eq_true
    apply base64ToHexString_eq_self
    rcases keyIsTraceIDOrSpanID_lengths hk with ⟨rfl, rfl⟩ | ⟨rfl, rfl⟩ <;> decide
  · rfl

-- The hex-to-base64 conversion changes an id string exactly when it is a `hexId`: the base64
-- text it writes instead has another length.
theorem idKept_hexToBase64String (k : String) (v : Json) :
    idKept hexToBase64String k v = !hexId k v := by
  unfold idKept hexId
  split
  · next s hexBytes base64Bytes hk =>
    have hl := keyIsTraceIDOrSpanID_lengths hk
    unfold hexToBase64String
    split
    · next hd => simp [hd]
    · next bs hd =>
      by_cases hb : bs.length = hexBytes
      · have hs := Hex.length_of_decodeString hd
        have he := Base64.length_encodeToString bs
        have hne : Base64.encodeToString bs ≠ s := fun h => by rw [← h] at hs; omega
        rcases hl with ⟨rfl, rfl⟩ | ⟨rfl, rfl⟩ <;>
          simp [hd, hb, he, hne]
      · simp [hd, hb]
  · rfl

theorem convertTraceIDAndSpanIDHexToBase64ForAny_eq {j : Json} (h : hexIdFree j) :
    convertTraceIDAndSpanIDHexToBase64ForAny j = j := by
  refine convertIDsForAny_eq _ j ?_
  have : idKept hexToBase64String = fun k v => !hexId k v := by
    funext k v
    exact idKept_hexToBase64String k v
  rw [this]
  exact h

-- The rewriting the hex-to-base64 walk is meant to do, in its own words: a string under an
-- id key that is the hexadecimal of as many bytes as the id has becomes their base64.
def hexIdToBase64 (hexBytes _base64Bytes : Nat) (s : String) : String :=
  match Hex.decodeString s with
  | some bs => if bs.length = hexBytes then Base64.encodeToString bs else s
  | none => s

def replaceHexIds (j : Json) : Json := convertIDsForAny hexIdToBase64 j

-- The walk's check of the base64 length never fails: it is the rewriting meant.
theorem convertTraceIDAndSpanIDHexToBase64ForAny_eq_replaceHexIds (j : Json) :
    convertTraceIDAndSpanIDHexToBase64ForAny j = replaceHexIds j := by
  refine convertIDsForAny_congr _ (fun k hexBytes base64Bytes hk => ?_) j
  funext s
  unfold hexToBase64String hexIdToBase64
  cases Hex.decodeString s with
  | none => rfl
  | some bs =>
    by_cases hb : bs.length = hexBytes
    · have he := Base64.length_encodeToString bs
      rcases keyIsTraceIDOrSpanID_lengths hk with ⟨rfl, rfl⟩ | ⟨rfl, rfl⟩ <;> simp [hb, he]
    · simp [hb]

theorem hexIdFree_encodeAny (j : Json) : hexIdFree (encodeAny j) = hexIdFree j :=
  everyMember_encodeAny _ (fun k v => by cases v <;> rfl) j

-- The base64 text of `n` bytes under an id key is the hexadecimal of the key's id length
-- only when `2 n` is three times that length: a shorter last group is padded with `=`,
-- which is no hexadecimal digit.
theorem hexId_base64 {k : String} {bs : List UInt8} (h : hexId k (.string (Base64.encodeToString bs))) :
    2 * bs.length = 3 * (keyIsTraceIDOrSpanID k).1 := by
  unfold hexId at h
  generalize keyIsTraceIDOrSpanID k = r at h ⊢
  obtain ⟨hexBytes, _, _ | _⟩ := r
  · cases h
  cases hd : Hex.decodeString (Base64.encodeToString bs) with
  | none => simp [hd] at h
  | some ds =>
    simp only [hd, Option.any_some, decide_eq_true_eq] at h
    have hpad : bs.length % 3 = 0 := by
      by_contra hn
      have := Hex.decodeChars_of_not_digit (by decide : Hex.fromHexChar '=' = none)
        (Base64.pad_mem_encodeChars hn)
      rw [Hex.decodeString, Base64.encodeToString, String.toList, this] at hd
      cases hd
    have hs := Hex.length_of_decodeString hd
    rw [Base64.length_encodeToString, h] at hs
    omega

theorem hexId_array (k : String) (xs : List Json) : hexId k (.array xs) = false := by
  unfold hexId
  generalize keyIsTraceIDOrSpanID k = r
  obtain ⟨_, _, _ | _⟩ := r <;> rfl

theorem hexId_of_key {k : String} (hk : (keyIsTraceIDOrSpanID k).2.2 = false) (v : Json) :
    hexId k v = false := by
  unfold hexId
  generalize keyIsTraceIDOrSpanID k = r at hk ⊢
  obtain ⟨_, _, _ | _⟩ := r
  · cases v <;> rfl
  · cases hk

end OtlpHelper.Convert
