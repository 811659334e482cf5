import OtlpHelper.Client.Upload

-- Headers from the client to a handler: the header map `upload<Signal>WithHTTP` sets on its
-- request, the incoming metadata `ServerMux.ServeHTTP` makes of the request's headers, and
-- `HeadersFromContext`, with which a handler or a middleware reads them back.
namespace OtlpHelper

-- Letter case.

namespace Client

theorem toNat_ofNat_lt {n : Nat} (h : n < 55296) : (Char.ofNat n).toNat = n := by
  rw [Char.ofNat, dif_pos (Or.inl h)]
  rfl

theorem eq_of_toNat_eq {a b : Char} (h : a.toNat = b.toNat) : a = b :=
  Char.ext (UInt32.toNat.inj h)

theorem toNat_toLower (c : Char) :
    c.toLower.toNat = if 65 ≤ c.toNat ∧ c.toNat ≤ 90 then c.toNat + 32 else c.toNat := by
  by_cases h : 65 ≤ c.toNat ∧ c.toNat ≤ 90
  · rw [if_pos h, Char.toLower, if_pos h]
    exact toNat_ofNat_lt (by omega)
  · rw [if_neg h, Char.toLower, if_neg h]

theorem toNat_toUpper (c : Char) :
    c.toUpper.toNat = if 97 ≤ c.toNat ∧ c.toNat ≤ 122 then c.toNat - 32 else c.toNat := by
  by_cases h : 97 ≤ c.toNat ∧ c.toNat ≤ 122
  · rw [if_pos h, Char.toUpper, if_pos h]
    exact toNat_ofNat_lt (by omega)
  · rw [if_neg h, Char.toUpper, if_neg h]

-- Of two case mappings of an ASCII letter, the last one decides.
theorem toUpper_toLower (c : Char) : c.toLower.toUpper = c.toUpper := by
  apply eq_of_toNat_eq
  rw [toNat_toUpper, toNat_toLower, toNat_toUpper]
  by_cases h : 65 ≤ c.toNat ∧ c.toNat ≤ 90
  · rw [if_pos h, if_pos (by omega), if_neg (by omega)]
    omega
  · rw [if_neg h]

theorem toLower_toUpper (c : Char) : c.toUpper.toLower = c.toLower := by
  apply eq_of_toNat_eq
  rw [toNat_toLower, toNat_toUpper, toNat_toLower]
  by_cases h : 97 ≤ c.toNat ∧ c.toNat ≤ 122
  · rw [if_pos h, if_pos (by omega), if_neg (by omega)]
    omega
  · rw [if_neg h]

theorem toLower_toLower (c : Char) : c.toLower.toLower = c.toLower := by
  apply eq_of_toNat_eq
  rw [toNat_toLower, toNat_toLower]
  by_cases h : 65 ≤ c.toNat ∧ c.toNat ≤ 90
  · rw [if_pos h, if_neg (by omega)]
  · rw [if_neg h, if_neg h]

theorem isUpper_iff (c : Char) : c.isUpper = true ↔ 65 ≤ c.toNat ∧ c.toNat ≤ 90 := by
  simp [Char.isUpper, UInt32.le_def, BitVec.le_def, Char.toNat, UInt32.toNat]

theorem isLower_iff (c : Char) : c.isLower = true ↔ 97 ≤ c.toNat ∧ c.toNat ≤ 122 := by
  simp [Char.isLower, UInt32.le_def, BitVec.le_def, Char.toNat, UInt32.toNat]

-- Lower-casing keeps a byte a token byte or not one: it only maps letters to letters.
theorem isTokenChar_toLower (c : Char) : isTokenChar c.toLower = isTokenChar c := by
  by_cases h : 65 ≤ c.toNat ∧ c.toNat ≤ 90
  · have hl : c.toLower.isLower = true := (isLower_iff _).mpr (by rw [toNat_toLower, if_pos h]; omega)
    have hu : c.isUpper = true := (isUpper_iff c).mpr h
    simp [isTokenChar, Char.isAlphanum, Char.isAlpha, hl, hu]
  · rw [Char.toLower, if_neg h]

-- Lower-casing a canonical key is lower-casing the key.
theorem map_toLower_canonicalChars : ∀ (b : Bool) (cs : List Char),
    (canonicalChars b cs).map Char.toLower = cs.map Char.toLower
  | _, [] => rfl
  | b, c :: cs => by
    simp only [canonicalChars, List.map_cons, map_toLower_canonicalChars _ cs]
    cases b <;> simp [toLower_toUpper, toLower_toLower]

-- Canonicalising ignores the case the letters come in.
theorem canonicalChars_map_toLower : ∀ (b : Bool) (cs : List Char),
    canonicalChars b (cs.map Char.toLower) = canonicalChars b cs
  | _, [] => rfl
  | b, c :: cs => by
    have hc : (if b then c.toLower.toUpper else c.toLower.toLower) = if b then c.toUpper else c.toLower := by
      cases b <;> simp [toUpper_toLower, toLower_toLower]
    simp only [canonicalChars, List.map_cons, hc, canonicalChars_map_toLower _ cs]

theorem all_isTokenChar_map_toLower (cs : List Char) :
    (cs.map Char.toLower).all isTokenChar = cs.all isTokenChar := by
  simp only [List.all_map, Function.comp_def, isTokenChar_toLower]

-- `strings.ToLower` of a canonical key lower-cases the key.
theorem goToLower_canonicalMIMEHeaderKey {k : String} (hk : k.toList.all isTokenChar) :
    goToLower (canonicalMIMEHeaderKey k) = goToLower k := by
  rw [canonicalMIMEHeaderKey, if_pos hk]
  exact congrArg String.mk (map_toLower_canonicalChars true k.toList)

-- Canonicalising a lower-cased key: what canonicalising the key gives, for a key of token
-- bytes; otherwise the lower-cased key, which is no token either.
theorem canonicalMIMEHeaderKey_goToLower (k : String) :
    canonicalMIMEHeaderKey (goToLower k) =
      if k.toList.all isTokenChar then canonicalMIMEHeaderKey k else goToLower k := by
  have hall : (goToLower k).toList.all isTokenChar = k.toList.all isTokenChar :=
    all_isTokenChar_map_toLower k.toList
  unfold canonicalMIMEHeaderKey
  rw [hall]
  split
  · exact congrArg String.mk (canonicalChars_map_toLower true k.toList)
  · rfl

-- A key `Header.Set` makes of a key of token bytes.
def TokenKey (key : String) : Prop :=
  ∃ k, k.toList.all isTokenChar ∧ key = canonicalMIMEHeaderKey k

-- Such a key comes back from lower-casing and canonicalising, as `HeadersFromContext` does.
theorem TokenKey.canonical_goToLower {key : String} (h : TokenKey key) :
    canonicalMIMEHeaderKey (goToLower key) = key := by
  obtain ⟨k, hk, rfl⟩ := h
  rw [goToLower_canonicalMIMEHeaderKey hk, canonicalMIMEHeaderKey_goToLower, if_pos hk]

theorem TokenKey.goToLower_inj {k₁ k₂ : String} (h₁ : TokenKey k₁) (h₂ : TokenKey k₂) :
    goToLower k₁ = goToLower k₂ ↔ k₁ = k₂ :=
  ⟨fun h => h₁.canonical_goToLower.symm.trans ((congrArg canonicalMIMEHeaderKey h).trans h₂.canonical_goToLower),
    congrArg goToLower⟩

end Client

-- Header maps.

-- `http.Header` and `metadata.MD`: the keys with their values.
abbrev Header := List (String × List String)

namespace Header

open Client

-- `h[key]`: the values under a key, none for a key the map does not hold.
def values (h : Header) (key : String) : List String := (h.lookup key).getD []

-- `Header.Set`: the canonical key holds the value alone.
def set (h : Header) (k v : String) : Header := mapSet h (canonicalMIMEHeaderKey k) [v]

-- `Header.Add`: the value appended to the canonical key's.
def add (h : Header) (k v : String) : Header :=
  let key := canonicalMIMEHeaderKey k
  mapSet h key (h.values key ++ [v])

-- `Header.Get`: the first value of the canonical key, "" when it has none.
def get (h : Header) (k : String) : String := ((h.values (canonicalMIMEHeaderKey k)).head?).getD ""

theorem lookup_mapSet {α : Type} (m : List (String × α)) (k K : String) (v : α) :
    (mapSet m k v).lookup K = if K = k then some v else m.lookup K := by
  rw [mapSet, lookup_cons_eq]
  split
  · rfl
  · next h => exact lookup_filter_of_keeps m fun _ _ he => decide_eq_true (he ▸ h)

@[simp] theorem values_nil (K : String) : Header.values [] K = [] := rfl

theorem values_mapSet (m : Header) (k K : String) (v : List String) :
    Header.values (mapSet m k v) K = if K = k then v else m.values K := by
  rw [values, lookup_mapSet]
  split <;> rfl

theorem keys_mapSet {α : Type} (m : List (String × α)) (k : String) (v : α) :
    (mapSet m k v).map (·.1) = k :: (m.map (·.1)).filter fun key => key ≠ k := by
  simp [mapSet, List.filter_map, Function.comp_def]

-- Writing a list's entries into a map in order: a key holds what the last entry written to
-- it holds, or what it held before.
theorem values_foldl_mapSet {α : Type} (f : α → String) (g : α → List String) (K : String) :
    ∀ (l : List α) (m : Header), Header.values (l.foldl (fun m e => mapSet m (f e) (g e)) m) K =
      ((l.reverse.find? fun e => f e = K).map g).getD (m.values K)
  | [], _ => rfl
  | e :: l, m => by
    rw [List.foldl_cons, values_foldl_mapSet f g K l, List.reverse_cons, List.find?_append, values_mapSet]
    cases l.reverse.find? fun e => f e = K with
    | some _ => rfl
    | none =>
      by_cases h : f e = K
      · simp [h]
      · simp [h, Ne.symm h]

-- The keys written are distinct, and each is an old key or one of the entries'.
theorem keys_foldl_mapSet {α : Type} (f : α → String) (g : α → List String) :
    ∀ (l : List α) (m : Header), (m.map (·.1)).Nodup →
      ((l.foldl (fun m e => mapSet m (f e) (g e)) m).map (·.1)).Nodup ∧
      ∀ K ∈ (l.foldl (fun m e => mapSet m (f e) (g e)) m).map (·.1), K ∈ m.map (·.1) ∨ ∃ e ∈ l, f e = K
  | [], _, hn => ⟨hn, fun _ hK => .inl hK⟩
  | e :: l, m, hn => by
    have hn' : ((mapSet m (f e) (g e)).map (·.1)).Nodup := by
      rw [keys_mapSet]
      exact List.nodup_cons.mpr ⟨by simp, hn.filter _⟩
    obtain ⟨hnodup, hmem⟩ := keys_foldl_mapSet f g l _ hn'
    refine ⟨hnodup, fun K hK => ?_⟩
    rcases hmem K hK with hK | ⟨e', he', rfl⟩
    · rw [keys_mapSet] at hK
      rcases List.mem_cons.mp hK with rfl | hK
      · exact .inr ⟨e, .head _, rfl⟩
      · exact .inl (List.mem_of_mem_filter hK)
    · exact .inr ⟨e', .tail _ he', rfl⟩

-- With distinct keys, the last entry under a key is its only one.
theorem values_eq_find?_reverse {m : Header} (hn : (m.map (·.1)).Nodup) (K : String) :
    ((m.reverse.find? fun e => e.1 = K).map (·.2)).getD [] = m.values K := by
  cases hf : m.reverse.find? fun e => e.1 = K with
  | some e =>
    have he : e ∈ m := List.mem_reverse.mp (List.mem_of_find?_eq_some hf)
    have hk : e.1 = K := by simpa using List.find?_some hf
    rw [values, ← hk, lookup_of_mem hn he]
    rfl
  | none =>
    have hnone : m.lookup K = none := List.lookup_eq_none_iff.mpr fun e he => bne_iff_ne.mpr fun hk =>
      by simpa [hk] using List.find?_eq_none.mp hf e (List.mem_reverse.mpr he)
    rw [values, hnone]
    rfl

-- Adding values in order: a key holds its old values, then those added under it.
theorem values_foldl_add (k K : String) :
    ∀ (vs : List String) (h : Header), Header.values (vs.foldl (fun h vv => h.add k vv) h) K =
      h.values K ++ if K = canonicalMIMEHeaderKey k then vs else []
  | [], h => by simp
  | v :: vs, h => by
    rw [List.foldl_cons, values_foldl_add k K vs, add, values_mapSet]
    by_cases hK : K = canonicalMIMEHeaderKey k <;> simp [hK]

-- Adding every value of every entry: a key holds, after its old values, those of the entries
-- whose key canonicalises to it, in order.
theorem values_foldl_adds (K : String) :
    ∀ (l : Header) (h : Header),
      Header.values (l.foldl (fun h e => e.2.foldl (fun h vv => h.add e.1 vv) h) h) K =
        h.values K ++ (l.filter fun e => canonicalMIMEHeaderKey e.1 = K).flatMap (·.2)
  | [], h => by simp
  | e :: l, h => by
    rw [List.foldl_cons, values_foldl_adds K l, values_foldl_add, List.filter_cons]
    by_cases hK : canonicalMIMEHeaderKey e.1 = K
    · simp [hK]
    · simp [hK, Ne.symm hK]

-- With distinct keys, the entries a test picks out exactly by their key hold that key's values.
theorem flatMap_filter_eq_values {m : Header} (hn : (m.map (·.1)).Nodup) {p : String × List String → Bool}
    {K : String} (hp : ∀ e ∈ m, p e = true ↔ e.1 = K) : (m.filter p).flatMap (·.2) = m.values K := by
  induction m with
  | nil => rfl
  | cons e m ih =>
    obtain ⟨hnot, hn⟩ := List.nodup_cons.mp hn
    have ih := ih hn fun e' he' => hp e' (.tail _ he')
    rw [values, lookup_cons_eq, List.filter_cons]
    by_cases he : e.1 = K
    · have hrest : (m.filter p).flatMap (·.2) = [] := by
        rw [ih, values, List.lookup_eq_none_iff.mpr fun e' he' => bne_iff_ne.mpr fun h =>
          hnot (List.mem_map.mpr ⟨e', he', h.symm.trans he.symm⟩)]
        rfl
      rw [if_pos ((hp e (.head _)).mpr he), if_pos he.symm, List.flatMap_cons, hrest, List.append_nil]
      rfl
    · rw [if_neg (fun h => he ((hp e (.head _)).mp h)), if_neg (Ne.symm he), ih]
      rfl

end Header

-- From the client's request to the handler.

namespace Client

-- The header map `upload<Signal>WithHTTP` sets on its request: Content-Type, User-Agent, then
-- each custom header in the order the map is iterated (here, its entries' order).
def requestHeader (so : SignalOptions) : Header :=
  so.headers.foldl (fun h e => Header.set h e.1 e.2)
    (Header.set (Header.set [] "Content-Type" so.httpContentType) "User-Agent" so.userAgent)

end Client

namespace Server

open Client

-- The first lines of `ServerMux.ServeHTTP`: the request's headers copied into a new
-- `metadata.MD`, which the handler's context carries as its incoming metadata.
def incomingMetadata (header : Header) : Header :=
  header.foldl (fun md e => mapSet md e.1 e.2) []

-- `metadata.FromIncomingContext` of grpc-go: a copy of the incoming metadata with each key
-- lower-cased.
def fromIncomingContext (md : Header) : Header :=
  md.foldl (fun out e => mapSet out (goToLower e.1) e.2) []

-- `HeadersFromContext`: every value of the context's incoming metadata added under its key,
-- and true; an empty header and false for a context without incoming metadata.
def HeadersFromContext (incoming : Option Header) : Header × Bool :=
  match incoming with
  | none => ([], false)
  | some md =>
    ((fromIncomingContext md).foldl
      (fun headers e => e.2.foldl (fun headers vv => Header.add headers e.1 vv) headers) [], true)

end Server

-- What a handler reads.

namespace Metadata

open Client Server Header

-- Tests that agree on a list's members find the same member.
theorem find?_congr {α : Type} {p q : α → Bool} : ∀ {l : List α}, (∀ x ∈ l, p x = q x) → l.find? p = l.find? q
  | [], _ => rfl
  | x :: l, h => by
    rw [List.find?_cons, List.find?_cons, h x (.head _), find?_congr fun y hy => h y (.tail _ hy)]

-- A header map as `Header.Set` of token keys leaves it: distinct keys, each canonical.
structure TokenHeader (h : Header) : Prop where
  nodup : (h.map (·.1)).Nodup
  tokens : ∀ K ∈ h.map (·.1), TokenKey K

-- Setting a canonical key of token bytes keeps a header map so.
theorem TokenHeader.mapSet {h : Header} (hh : TokenHeader h) {K : String} (hK : TokenKey K) (v : List String) :
    TokenHeader (mapSet h K v) := by
  refine ⟨?_, fun K' hK' => ?_⟩
  · rw [keys_mapSet]
    exact List.nodup_cons.mpr ⟨by simp, hh.nodup.filter _⟩
  · rw [keys_mapSet] at hK'
    rcases List.mem_cons.mp hK' with rfl | hK'
    · exact hK
    · exact hh.tokens K' (List.mem_of_mem_filter hK')

theorem requestHeader_tokenHeader {so : SignalOptions} (hkeys : ∀ e ∈ so.headers, e.1.toList.all isTokenChar) :
    TokenHeader (requestHeader so) := by
  have hbase : TokenHeader (Header.set (Header.set [] "Content-Type" so.httpContentType) "User-Agent" so.userAgent) := by
    have hua : canonicalMIMEHeaderKey "User-Agent" = "User-Agent" := by decide
    have hct : canonicalMIMEHeaderKey "Content-Type" = "Content-Type" := by decide
    have hkeys : (Header.set (Header.set [] "Content-Type" so.httpContentType) "User-Agent" so.userAgent).map (·.1) =
        ["User-Agent", "Content-Type"] := by
      simp [Header.set, mapSet, hua, hct]
    refine ⟨by rw [hkeys]; decide, fun K hK => ?_⟩
    rw [hkeys] at hK
    rcases List.mem_cons.mp hK with rfl | hK
    · exact ⟨"User-Agent", by decide, hua.symm⟩
    rcases List.mem_singleton.mp hK with rfl
    exact ⟨"Content-Type", by decide, hct.symm⟩
  obtain ⟨hn, hmem⟩ := keys_foldl_mapSet (fun e => canonicalMIMEHeaderKey e.1) (fun e => [e.2]) so.headers _ hbase.nodup
  exact ⟨hn, fun K hK => (hmem K hK).elim (hbase.tokens K) fun ⟨e, he, hK⟩ => ⟨e.1, hkeys e he, hK.symm⟩⟩

-- The metadata `ServerMux.ServeHTTP` makes is the header map itself.
theorem incomingMetadata_spec {h : Header} (hh : TokenHeader h) :
    TokenHeader (incomingMetadata h) ∧ ∀ K, (incomingMetadata h).values K = h.values K := by
  obtain ⟨hn, hmem⟩ := keys_foldl_mapSet (fun e => e.1) (fun e => e.2) h [] List.nodup_nil
  refine ⟨⟨hn, fun K hK => ?_⟩, fun K => ?_⟩
  · rcases hmem K hK with hK | ⟨e, he, rfl⟩
    · cases hK
    · exact hh.tokens e.1 (List.mem_map_of_mem _ he)
  · rw [incomingMetadata, values_foldl_mapSet, values_nil]
    exact values_eq_find?_reverse hh.nodup K

-- Lower-casing the keys moves each key's values to its lower-cased key, and every key it
-- makes is one of those.
theorem fromIncomingContext_spec {md : Header} (hmd : TokenHeader md) :
    ((fromIncomingContext md).map (·.1)).Nodup ∧
    (∀ K' ∈ (fromIncomingContext md).map (·.1), ∃ K, TokenKey K ∧ K' = goToLower K) ∧
    ∀ {K}, TokenKey K → (fromIncomingContext md).values (goToLower K) = md.values K := by
  obtain ⟨hn, hmem⟩ := keys_foldl_mapSet (fun e => goToLower e.1) (fun e => e.2) md [] List.nodup_nil
  refine ⟨hn, fun K' hK' => ?_, fun {K} hK => ?_⟩
  · rcases hmem K' hK' with hK' | ⟨e, he, rfl⟩
    · cases hK'
    · exact ⟨e.1, hmd.tokens e.1 (List.mem_map_of_mem _ he), rfl⟩
  · have hfind : md.reverse.find? (fun e => goToLower e.1 = goToLower K) = md.reverse.find? (fun e => e.1 = K) :=
      find?_congr fun e he => by
        simp only [(hmd.tokens e.1 (List.mem_map_of_mem _ (List.mem_reverse.mp he))).goToLower_inj hK]
    rw [fromIncomingContext, values_foldl_mapSet, values_nil, hfind]
    exact values_eq_find?_reverse hmd.nodup K

-- A handler that reads the incoming metadata of a header map with `HeadersFromContext` gets
-- under each canonical key of token bytes the map's values.
theorem values_HeadersFromContext {h : Header} (hh : TokenHeader h) {K : String} (hK : TokenKey K) :
    (HeadersFromContext (some (incomingMetadata h))).1.values K = h.values K := by
  obtain ⟨hmd, hmdv⟩ := incomingMetadata_spec hh
  obtain ⟨hn, hkeys, hlow⟩ := fromIncomingContext_spec hmd
  have hpick : ∀ e ∈ fromIncomingContext (incomingMetadata h),
      decide (canonicalMIMEHeaderKey e.1 = K) = true ↔ e.1 = goToLower K := by
    intro e he
    obtain ⟨K₀, hK₀, he₀⟩ := hkeys e.1 (List.mem_map_of_mem _ he)
    rw [decide_eq_true_iff, he₀, hK₀.canonical_goToLower, hK₀.goToLower_inj hK]
  rw [HeadersFromContext, values_foldl_adds, flatMap_filter_eq_values hn hpick, hlow hK, hmdv]
  rfl

-- A fold that keeps the value of the last entry passing a test, from a default.
theorem foldl_ite_eq {α β : Type} (p : α → Prop) [DecidablePred p] (g : α → β) :
    ∀ (l : List α) (d : β),
      l.foldl (fun d e => if p e then g e else d) d = ((l.reverse.find? fun e => decide (p e)).map g).getD d
  | [], _ => rfl
  | e :: l, d => by
    rw [List.foldl_cons, foldl_ite_eq p g l, List.reverse_cons, List.find?_append]
    cases l.reverse.find? fun e => decide (p e) with
    | some _ => rfl
    | none => by_cases h : p e <;> simp [h]

-- What the upload sets under a key: the last custom header with that canonical key, or else
-- the User-Agent or the Content-Type it sets first.
theorem requestHeader_get (so : SignalOptions) (k : String) :
    Header.get (requestHeader so) k =
      ((so.headers.reverse.find? fun e => canonicalMIMEHeaderKey e.1 = canonicalMIMEHeaderKey k).map (·.2)).getD
        (if canonicalMIMEHeaderKey k = "User-Agent" then so.userAgent
          else if canonicalMIMEHeaderKey k = "Content-Type" then so.httpContentType else "") := by
  have hua : canonicalMIMEHeaderKey "User-Agent" = "User-Agent" := by decide
  have hct : canonicalMIMEHeaderKey "Content-Type" = "Content-Type" := by decide
  have hv : Header.values (requestHeader so) (canonicalMIMEHeaderKey k) =
      ((so.headers.reverse.find? fun e => canonicalMIMEHeaderKey e.1 = canonicalMIMEHeaderKey k).map fun e => [e.2]).getD
        (Header.values (Header.set (Header.set [] "Content-Type" so.httpContentType) "User-Agent" so.userAgent)
          (canonicalMIMEHeaderKey k)) :=
    values_foldl_mapSet (fun e : String × String => canonicalMIMEHeaderKey e.1) (fun e => [e.2]) _ _ _
  rw [Header.get, hv]
  cases so.headers.reverse.find? fun e => canonicalMIMEHeaderKey e.1 = canonicalMIMEHeaderKey k with
  | some _ => rfl
  | none =>
    simp only [Option.map_none, Option.getD_none, Header.set, values_mapSet, hua, hct]
    split
    · rfl
    · split <;> rfl

-- The header map refines the request's Content-Type: what it holds under Content-Type is
-- what the posted request carries.
theorem requestHeader_contentType (so : SignalOptions) :
    Header.get (requestHeader so) "Content-Type" = requestContentType so := by
  have hct : canonicalMIMEHeaderKey "Content-Type" = "Content-Type" := by decide
  rw [requestHeader_get, requestContentType, hct, if_neg (by decide), if_pos rfl]
  exact (foldl_ite_eq (fun e => canonicalMIMEHeaderKey e.1 = "Content-Type") (·.2) so.headers _).symm

-- The keys net/http handles itself between `client.Do` and the handler: `Host` leaves the
-- map for `r.Host`, `User-Agent` is written only when it is not empty, `Content-Length`,
-- `Transfer-Encoding` and `Trailer` follow the body, `Accept-Encoding` is added for gzip, and
-- the hop-by-hop headers.
def transportHeaders : List String :=
  ["Host", "User-Agent", "Content-Length", "Transfer-Encoding", "Trailer", "Accept-Encoding", "Connection",
    "Keep-Alive", "Proxy-Connection", "Te", "Upgrade"]

-- An upload's headers reach the handler. `transfer` is what net/http makes of the request's
-- header map on its way to the server's `r.Header`: a map of canonical token keys that keeps
-- every key outside `transportHeaders` (net/http also writes a CR or LF in a value as a
-- space, which the hypothesis then excludes). Behind `ServerMux.ServeHTTP`,
-- `HeadersFromContext` finds metadata, and under every other key of token bytes reads what
-- the upload set: the last custom header with that key, or else its Content-Type. Keys of
-- other bytes make `client.Do` fail.
theorem headers_reach_handler {so : SignalOptions} {transfer : Header → Header}
    (ht : TokenHeader (transfer (requestHeader so)))
    (hkeep : ∀ K, TokenKey K → K ∉ transportHeaders → (transfer (requestHeader so)).values K = (requestHeader so).values K)
    {k : String} (hk : k.toList.all isTokenChar) (hkt : canonicalMIMEHeaderKey k ∉ transportHeaders) :
    (HeadersFromContext (some (incomingMetadata (transfer (requestHeader so))))).2 = true ∧
    Header.get (HeadersFromContext (some (incomingMetadata (transfer (requestHeader so))))).1 k =
      ((so.headers.reverse.find? fun e => canonicalMIMEHeaderKey e.1 = canonicalMIMEHeaderKey k).map (·.2)).getD
        (if canonicalMIMEHeaderKey k = "Content-Type" then so.httpContentType else "") := by
  refine ⟨rfl, ?_⟩
  have hK : TokenKey (canonicalMIMEHeaderKey k) := ⟨k, hk, rfl⟩
  have hget := requestHeader_get so k
  rw [Header.get] at hget ⊢
  rw [values_HeadersFromContext ht hK, hkeep _ hK hkt, hget,
    if_neg (show canonicalMIMEHeaderKey k ≠ "User-Agent" from fun h => hkt (h ▸ by decide))]

-- What net/http adds on the way: an `Accept-Encoding` for gzip and the body's length.
def gzipTransfer (h : Header) : Header := mapSet (mapSet h "Accept-Encoding" ["gzip"]) "Content-Length" ["2"]

-- The middleware of the README: an `api-key` header the client sets is read as `Api-Key`.
theorem headers_reach_handler_apiKey :
    Header.get (HeadersFromContext (some (incomingMetadata
      (gzipTransfer (requestHeader { headers := [("api-key", "secret")] }))))).1 "Api-Key" = "secret" :=
  (@headers_reach_handler { headers := [("api-key", "secret")] } gzipTransfer
    (((requestHeader_tokenHeader (by decide)).mapSet ⟨"Accept-Encoding", by decide, by decide⟩ _).mapSet
      ⟨"Content-Length", by decide, by decide⟩ _)
    (fun K _ hK => by
      rw [gzipTransfer, values_mapSet, values_mapSet, if_neg (show K ≠ "Content-Length" from fun h => hK (h ▸ by decide)),
        if_neg (show K ≠ "Accept-Encoding" from fun h => hK (h ▸ by decide))])
    "Api-Key" (by decide) (by decide)).2.trans rfl

end Metadata

end OtlpHelper
