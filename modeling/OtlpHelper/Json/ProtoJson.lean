import OtlpHelper.Json.Codec
import Mathlib.Data.List.Nodup

-- protojson (`google.golang.org/protobuf/encoding/protojson`) on messages whose fields are
-- bytes, strings and repeated messages: what `Marshal` writes with `defaultMarshalOptions`,
-- and how `Unmarshal` reads an object member by member.
namespace OtlpHelper.ProtoJson

open GoJson Codec

-- protojson's reading of a bytes value: the URL alphabet when the text has `-` or `_`, and no
-- padding when its length is not a multiple of four. (protojson counts bytes; a text with a
-- character outside ASCII fails either way.)
def unmarshalBytes (s : String) : Option (List UInt8) :=
  Base64.decodeWith (s.toList.any fun c => c = '-' ∨ c = '_') (s.length % 4 = 0) s

-- A field of a message of type `α`: the two names a member may have, its number, the value
-- `Marshal` writes (none when the field is unpopulated) and the error it stops at instead,
-- and what a JSON value other than `null` sets.
structure FieldCodec (α : Type) where
  jsonName : String
  protoName : String
  number : Nat
  write : α → Option Json
  writeError : α → Option String
  read : Json → Except String (α → α)

variable {α : Type}

-- A member name is looked up as a JSON name, then as a proto name.
def findField (fields : List (FieldCodec α)) (name : String) : Option (FieldCodec α) :=
  (fields.find? (·.jsonName = name)).or (fields.find? (·.protoName = name))

-- A `null` member leaves its field unset.
def fieldSetter (f : FieldCodec α) : Json → Except String (α → α)
  | .null => .ok id
  | v => f.read v

-- One member of an object: an unknown name or a field met twice is an error.
def unmarshalMember (fields : List (FieldCodec α)) (acc : List Nat × α) (member : String × Json) :
    Except String (List Nat × α) :=
  match findField fields member.1 with
  | none => .error ("unknown field " ++ goQuote member.1)
  | some f =>
    if f.number ∈ acc.1 then .error ("duplicate field " ++ goQuote member.1)
    else (fieldSetter f member.2).map fun set => (f.number :: acc.1, set acc.2)

def unmarshalMessage (empty : α) (fields : List (FieldCodec α)) : Json → Except String α
  | .object ms => (ms.foldlM (unmarshalMember fields) ([], empty)).map (·.2)
  | _ => .error "unexpected token"

-- Populated fields in declaration order, under their JSON names.
def marshalMessage (fields : List (FieldCodec α)) (m : α) : Json :=
  .object (fields.filterMap fun f => (f.write m).map fun v => (f.jsonName, v))

-- `Marshal` stops at the first populated field whose value it cannot write.
def messageCodec (empty : α) (fields : List (FieldCodec α)) : ProtoJSON α :=
  ⟨marshalMessage fields, unmarshalMessage empty fields, fun m => fields.findSome? (·.writeError m)⟩

-- A field whose value `get` reads and `set` writes, unpopulated when `isEmpty`, written by
-- `print` unless `printError` stops it, and read by `parse`.
def lensField {β : Type} (jsonName protoName : String) (number : Nat) (get : α → β) (set : β → α → α)
    (isEmpty : β → Bool) (print : β → Json) (printError : β → Option String) (parse : Json → Except String β) :
    FieldCodec α where
  jsonName := jsonName
  protoName := protoName
  number := number
  write m := if isEmpty (get m) then none else some (print (get m))
  writeError m := if isEmpty (get m) then none else printError (get m)
  read v := (parse v).map set

def parseBytes (jsonName : String) : Json → Except String (List UInt8)
  | .string s =>
    match unmarshalBytes s with
    | some bs => .ok bs
    | none => .error ("invalid value for bytes field " ++ jsonName ++ ": " ++ goQuote s)
  | _ => .error ("invalid value for bytes field " ++ jsonName)

def parseString (jsonName : String) : Json → Except String String
  | .string s => .ok s
  | _ => .error ("invalid value for string field " ++ jsonName)

def parseList {β : Type} (elem : ProtoJSON β) : Json → Except String (List β)
  | .array xs => xs.mapM elem.unmarshal
  | _ => .error "unexpected token"

-- Bytes are always written; a string fails only when it is not UTF-8, which a Lean string
-- cannot be. A repeated field fails at its first element that does.
def bytesField (jsonName protoName : String) (number : Nat) (get : α → List UInt8)
    (set : List UInt8 → α → α) : FieldCodec α :=
  lensField jsonName protoName number get set List.isEmpty
    (fun bs => .string (Base64.encodeToString bs)) (fun _ => none) (parseBytes jsonName)

def stringField (jsonName protoName : String) (number : Nat) (get : α → String) (set : String → α → α) :
    FieldCodec α :=
  lensField jsonName protoName number get set (· == "") .string (fun _ => none) (parseString jsonName)

def repeatedField {β : Type} (jsonName protoName : String) (number : Nat) (elem : ProtoJSON β)
    (get : α → List β) (set : List β → α → α) : FieldCodec α :=
  lensField jsonName protoName number get set List.isEmpty (fun xs => .array (xs.map elem.marshal))
    (fun xs => xs.findSome? elem.marshalError) (parseList elem)

-- What a member does when it is read, whatever the order: its field's number and setter, if
-- it names a field and its value reads.
def resolve (fields : List (FieldCodec α)) (member : String × Json) : Option (Nat × (α → α)) :=
  (findField fields member.1).bind fun f =>
    (fieldSetter f member.2).toOption.map fun set => (f.number, set)

-- The message read from resolved members: every member resolves, no field comes twice, and
-- the setters apply in order.
def readMembers (empty : α) (rs : List (Option (Nat × (α → α)))) : Option α :=
  if rs.all Option.isSome ∧ ((rs.filterMap id).map (·.1)).Nodup then
    some ((rs.filterMap id).foldl (fun m r => r.2 m) empty)
  else none

@[simp] theorem toOption_ok {ε β : Type} (b : β) : (Except.ok b : Except ε β).toOption = some b := rfl

@[simp] theorem toOption_error {ε β : Type} (e : ε) : (Except.error e : Except ε β).toOption = none := rfl

theorem toOption_bind {ε β γ : Type} (x : Except ε β) (f : β → Except ε γ) :
    (x >>= f).toOption = x.toOption.bind fun a => (f a).toOption := by
  cases x <;> rfl

theorem toOption_map {ε β γ : Type} (x : Except ε β) (f : β → γ) :
    (x.map f).toOption = x.toOption.map f := by
  cases x <;> rfl

theorem toOption_unmarshalMember (fields : List (FieldCodec α)) (seen : List Nat) (m : α) (x : String × Json) :
    (unmarshalMember fields (seen, m) x).toOption =
      (resolve fields x).bind fun r => if r.1 ∈ seen then none else some (r.1 :: seen, r.2 m) := by
  unfold unmarshalMember resolve
  cases findField fields x.1 with
  | none => rfl
  | some f =>
    by_cases h : f.number ∈ seen <;> cases hs : fieldSetter f x.2 <;> simp [h, hs, toOption_map]

-- Reading members one by one, in the view of `readMembers`, from a list of fields already seen.
theorem toOption_foldlM_unmarshalMember (fields : List (FieldCodec α)) :
    ∀ (ms : List (String × Json)) (seen : List Nat) (m : α), seen.Nodup →
    (ms.foldlM (unmarshalMember fields) (seen, m)).toOption =
      if (ms.map (resolve fields)).all Option.isSome ∧
          ((((ms.map (resolve fields)).filterMap id).map (·.1)) ++ seen).Nodup then
        some ((((ms.map (resolve fields)).filterMap id).map (·.1)).reverse ++ seen,
          ((ms.map (resolve fields)).filterMap id).foldl (fun m r => r.2 m) m)
      else none
  | [], seen, m, hs => by simp [hs]; rfl
  | x :: ms, seen, m, hs => by
    rw [List.foldlM_cons, toOption_bind, toOption_unmarshalMember]
    cases hx : resolve fields x with
    | none => simp [hx]
    | some r =>
      by_cases hr : r.1 ∈ seen
      · have : ¬ (r.1 :: ((ms.map (resolve fields)).filterMap id).map (·.1) ++ seen).Nodup := by
          intro hn
          exact (List.nodup_cons.mp hn).1 (List.mem_append_right _ hr)
        simp [hx, hr, this]
      · have hs' : (r.1 :: seen).Nodup := List.nodup_cons.mpr ⟨hr, hs⟩
        simp only [hx, Option.some_bind, if_neg hr, toOption_foldlM_unmarshalMember fields ms _ _ hs',
          List.map_cons, List.all_cons, Option.isSome_some, Bool.true_and, List.filterMap_cons, id,
          List.map_cons, List.reverse_cons, List.append_assoc, List.singleton_append, List.foldl_cons]
        have hn : ((((ms.map (resolve fields)).filterMap id).map (·.1)) ++ r.1 :: seen).Nodup ↔
            (r.1 :: ((ms.map (resolve fields)).filterMap id).map (·.1) ++ seen).Nodup :=
          List.perm_middle.nodup_iff
        simp only [hn]

theorem unmarshalMessage_object (empty : α) (fields : List (FieldCodec α)) (ms : List (String × Json)) :
    (unmarshalMessage empty fields (.object ms)).toOption = readMembers empty (ms.map (resolve fields)) := by
  rw [unmarshalMessage, toOption_map, toOption_foldlM_unmarshalMember fields ms [] empty List.nodup_nil,
    readMembers]
  simp only [List.append_nil]
  split <;> rfl

-- The order of the members does not matter when setters of different fields commute.
theorem readMembers_perm (empty : α) {rs rs' : List (Option (Nat × (α → α)))} (hp : rs.Perm rs')
    (hc : ∀ x ∈ rs.filterMap id, ∀ y ∈ rs.filterMap id, x.1 ≠ y.1 → ∀ m, x.2 (y.2 m) = y.2 (x.2 m)) :
    readMembers empty rs = readMembers empty rs' := by
  have hpf := hp.filterMap id
  unfold readMembers
  by_cases h : rs.all Option.isSome ∧ ((rs.filterMap id).map (·.1)).Nodup
  · have h' : rs'.all Option.isSome ∧ ((rs'.filterMap id).map (·.1)).Nodup :=
      ⟨all_perm hp _ ▸ h.1, (hpf.map _).nodup_iff.mp h.2⟩
    rw [if_pos h, if_pos h']
    congr 1
    refine hpf.foldl_eq' (fun x hx y hy z => ?_) empty
    by_cases hxy : x.1 = y.1
    · rw [List.inj_on_of_nodup_map h.2 hx hy hxy]
    · exact (hc x hx y hy hxy z).symm
  · have h' : ¬ (rs'.all Option.isSome ∧ ((rs'.filterMap id).map (·.1)).Nodup) := fun h' =>
      h ⟨all_perm hp _ ▸ h'.1, (hpf.map _).nodup_iff.mpr h'.2⟩
    rw [if_neg h, if_neg h']

theorem findField_mem {fields : List (FieldCodec α)} {name : String} {f : FieldCodec α}
    (h : findField fields name = some f) : f ∈ fields := by
  unfold findField at h
  cases hj : fields.find? (·.jsonName = name) with
  | some g => rw [hj] at h; cases h; exact List.mem_of_find?_eq_some hj
  | none => rw [hj] at h; exact List.mem_of_find?_eq_some h

-- A field is found by its JSON name when no two fields share one.
theorem findField_jsonName {fields : List (FieldCodec α)} (hn : (fields.map (·.jsonName)).Nodup) {f : FieldCodec α}
    (hf : f ∈ fields) : findField fields f.jsonName = some f := by
  suffices fields.find? (·.jsonName = f.jsonName) = some f by rw [findField, this]; rfl
  induction fields with
  | nil => cases hf
  | cons g gs ih =>
    rw [List.map_cons, List.nodup_cons] at hn
    rw [List.find?_cons]
    by_cases hg : g.jsonName = f.jsonName
    · rw [decide_eq_true hg]
      rcases List.mem_cons.mp hf with rfl | hf'
      · rfl
      · exact absurd (hg ▸ List.mem_map_of_mem _ hf') hn.1
    · rw [decide_eq_false hg]
      rcases List.mem_cons.mp hf with rfl | hf'
      · exact absurd rfl hg
      · exact ih hn.2 hf'

theorem resolve_eq_some {fields : List (FieldCodec α)} {x : String × Json} {r : Nat × (α → α)}
    (h : resolve fields x = some r) : ∃ f ∈ fields, r.1 = f.number ∧ fieldSetter f x.2 = .ok r.2 := by
  unfold resolve at h
  obtain ⟨f, hf, hr⟩ := Option.bind_eq_some.mp h
  obtain ⟨set, hs, rfl⟩ := Option.map_eq_some'.mp hr
  refine ⟨f, findField_mem hf, rfl, ?_⟩
  cases h' : fieldSetter f x.2 <;> rw [h'] at hs <;> cases hs; rfl

-- Numbers taken from the fields, one per field at most, are distinct when the fields' are.
theorem nodup_filterMap_key {β κ : Type} (key : FieldCodec α → κ) (F : FieldCodec α → Option (κ × β))
    (hF : ∀ f p, F f = some p → p.1 = key f) :
    ∀ l : List (FieldCodec α), (l.map key).Nodup → ((l.filterMap F).map (·.1)).Nodup
  | [], _ => List.nodup_nil
  | f :: l, hl => by
    rw [List.map_cons, List.nodup_cons] at hl
    rw [List.filterMap_cons]
    cases hf : F f with
    | none => exact nodup_filterMap_key key F hF l hl.2
    | some p =>
      refine List.nodup_cons.mpr ⟨fun hp => hl.1 ?_, nodup_filterMap_key key F hF l hl.2⟩
      obtain ⟨q, hq, hqp⟩ := List.mem_map.mp hp
      obtain ⟨g, hg, hgq⟩ := List.mem_filterMap.mp hq
      have hfg : key f = key g := by rw [← hF f p hf, ← hF g q hgq, hqp]
      exact hfg ▸ List.mem_map_of_mem _ hg

-- What makes a message's codec lawful, field by field: names and numbers are distinct, what
-- a field writes reads back, the written fields rebuild the message from the empty one,
-- sorting a value's members does not change how it reads, and setters of different fields
-- commute.
structure FieldsLawful (goFloat : Number → Option Number) (empty : α) (fields : List (FieldCodec α)) :
    Prop where
  jsonNames_nodup : (fields.map (·.jsonName)).Nodup
  numbers_nodup : (fields.map (·.number)).Nodup
  write_ok : ∀ f ∈ fields, ∀ m v, f.write m = some v →
    v.dupFree ∧ v.numbersKept goFloat ∧ (fieldSetter f v).toOption.isSome
  rebuild : ∀ m, (fields.filterMap fun f => (f.write m).bind fun v => (fieldSetter f v).toOption).foldl
    (fun m set => set m) empty = m
  read_encodeAny : ∀ f ∈ fields, ∀ v : Json, v.dupFree →
    (f.read (encodeAny v)).toOption = (f.read v).toOption
  commute : ∀ f ∈ fields, ∀ g ∈ fields, f.number ≠ g.number → ∀ v w sf sg,
    fieldSetter f v = .ok sf → fieldSetter g w = .ok sg → ∀ m, sf (sg m) = sg (sf m)

section Lawful

variable {goFloat : Number → Option Number} {empty : α} {fields : List (FieldCodec α)}

theorem commute_resolved (hl : FieldsLawful goFloat empty fields) (l : List (String × Json)) :
    ∀ x ∈ (l.map (resolve fields)).filterMap id, ∀ y ∈ (l.map (resolve fields)).filterMap id,
      x.1 ≠ y.1 → ∀ m, x.2 (y.2 m) = y.2 (x.2 m) := by
  intro x hx y hy hxy m
  obtain ⟨a, -, ha⟩ := List.mem_map.mp (List.mem_filterMap.mp hx).choose_spec.1
  obtain ⟨b, -, hb⟩ := List.mem_map.mp (List.mem_filterMap.mp hy).choose_spec.1
  have hxa := (List.mem_filterMap.mp hx).choose_spec.2
  have hyb := (List.mem_filterMap.mp hy).choose_spec.2
  rw [← ha] at hxa
  rw [← hb] at hyb
  obtain ⟨f, hf, hfx, hsf⟩ := resolve_eq_some hxa
  obtain ⟨g, hg, hgy, hsg⟩ := resolve_eq_some hyb
  exact hl.commute f hf g hg (hfx ▸ hgy ▸ hxy) _ _ _ _ hsf hsg m

theorem resolve_encodeAny (hl : FieldsLawful goFloat empty fields) (k : String) {v : Json}
    (hv : v.dupFree) : resolve fields (k, encodeAny v) = resolve fields (k, v) := by
  unfold resolve
  cases hf : findField fields k with
  | none => rfl
  | some f =>
    have : (fieldSetter f (encodeAny v)).toOption = (fieldSetter f v).toOption := by
      cases v with
      | null => rfl
      | _ => exact hl.read_encodeAny f (findField_mem hf) _ hv
    simp only [Option.some_bind, this]

theorem map_resolve_encodeMembers (hl : FieldsLawful goFloat empty fields) :
    ∀ ms : List (String × Json), Json.dupFreeMembers ms →
      (encodeMembers ms).map (resolve fields) = ms.map (resolve fields)
  | [], _ => rfl
  | (k, v) :: ms, h => by
    simp only [Json.dupFreeMembers, Bool.and_eq_true] at h
    rw [encodeMembers, List.map_cons, List.map_cons, resolve_encodeAny hl k h.1,
      map_resolve_encodeMembers hl ms h.2]

-- Sorting the members of any text free of repeated names does not change what is read.
theorem unmarshal_encodeAny (hl : FieldsLawful goFloat empty fields) (j : Json) (hj : j.dupFree) :
    SameOutcome (unmarshalMessage empty fields (encodeAny j)) (unmarshalMessage empty fields j) := by
  cases j with
  | object ms =>
    simp only [Json.dupFree, Bool.and_eq_true] at hj
    show (unmarshalMessage empty fields (.object _)).toOption = _
    rw [unmarshalMessage_object, unmarshalMessage_object, ← map_resolve_encodeMembers hl ms hj.2]
    exact readMembers_perm empty ((sortMembers_perm _).map _) (commute_resolved hl _)
  | _ => rfl

-- The members `Marshal` writes resolve to the written fields' setters.
theorem map_resolve_written (m : α) (l : List (FieldCodec α))
    (hl : ∀ f ∈ l, findField fields f.jsonName = some f) :
    (l.filterMap fun f => (f.write m).map fun v => (f.jsonName, v)).map (resolve fields) =
      l.filterMap fun f => (f.write m).map fun v => (fieldSetter f v).toOption.map fun set => (f.number, set) := by
  induction l with
  | nil => rfl
  | cons f l ih =>
    have ih' := ih fun g hg => hl g (List.mem_cons_of_mem _ hg)
    cases hw : f.write m with
    | none => simp only [List.filterMap_cons, hw, Option.map_none', ih']
    | some v =>
      simp only [List.filterMap_cons, hw, Option.map_some', List.map_cons, ih', resolve,
        hl f (List.mem_cons_self _ _), Option.some_bind]

theorem unmarshal_marshal (hl : FieldsLawful goFloat empty fields) (m : α) :
    unmarshalMessage empty fields (marshalMessage fields m) = .ok m := by
  let F := fun f : FieldCodec α => (f.write m).map fun v => (fieldSetter f v).toOption.map fun set => (f.number, set)
  have hall : (fields.filterMap F).all Option.isSome := by
    refine List.all_eq_true.mpr fun x hx => ?_
    obtain ⟨f, hf, hfx⟩ := List.mem_filterMap.mp hx
    obtain ⟨v, hv, rfl⟩ := Option.map_eq_some'.mp hfx
    obtain ⟨-, -, hs⟩ := hl.write_ok f hf m v hv
    simpa using hs
  have hsettings : (fields.filterMap F).filterMap id =
      fields.filterMap fun f => (f.write m).bind fun v => (fieldSetter f v).toOption.map fun set => (f.number, set) := by
    rw [List.filterMap_filterMap]
    congr 1
    funext f
    simp only [F]
    cases f.write m <;> rfl
  have hnodup : (((fields.filterMap F).filterMap id).map (·.1)).Nodup := by
    rw [hsettings]
    refine nodup_filterMap_key (·.number) _ (fun f p hp => ?_) fields hl.numbers_nodup
    obtain ⟨v, -, hv⟩ := Option.bind_eq_some.mp hp
    obtain ⟨set, -, rfl⟩ := Option.map_eq_some'.mp hv
    rfl
  have hfold : ((fields.filterMap F).filterMap id).foldl (fun m r => r.2 m) empty = m := by
    rw [hsettings]
    refine (List.foldl_map Prod.snd (fun (m : α) (set : α → α) => set m) _ empty).symm.trans ?_
    rw [List.map_filterMap]
    refine Eq.trans ?_ (hl.rebuild m)
    congr 2
    funext f
    cases f.write m with
    | none => rfl
    | some v => simp only [Option.some_bind]; cases (fieldSetter f v).toOption <;> rfl
  have h : (unmarshalMessage empty fields (marshalMessage fields m)).toOption = some m := by
    rw [marshalMessage, unmarshalMessage_object,
      map_resolve_written m fields fun f hf => findField_jsonName hl.jsonNames_nodup hf,
      readMembers, if_pos ⟨hall, hnodup⟩, hfold]
  cases hu : unmarshalMessage empty fields (marshalMessage fields m) <;> rw [hu] at h <;> cases h
  rfl

theorem mem_marshalMessage {m : α} {x : String × Json}
    (hx : x ∈ fields.filterMap fun f => (f.write m).map fun v => (f.jsonName, v)) :
    ∃ f ∈ fields, f.write m = some x.2 := by
  obtain ⟨f, hf, hfx⟩ := List.mem_filterMap.mp hx
  obtain ⟨v, hv, rfl⟩ := Option.map_eq_some'.mp hfx
  exact ⟨f, hf, hv⟩

theorem dupFree_marshal (hl : FieldsLawful goFloat empty fields) (m : α) :
    (marshalMessage fields m).dupFree := by
  simp only [marshalMessage, Json.dupFree, Bool.and_eq_true, decide_eq_true_eq]
  refine ⟨nodup_filterMap_key (·.jsonName) _ (fun f p hp => ?_) fields hl.jsonNames_nodup, ?_⟩
  · obtain ⟨v, -, rfl⟩ := Option.map_eq_some'.mp hp
    rfl
  · rw [Json.dupFreeMembers_eq]
    refine List.all_eq_true.mpr fun x hx => ?_
    obtain ⟨f, hf, hw⟩ := mem_marshalMessage hx
    exact (hl.write_ok f hf m x.2 hw).1

theorem numbersKept_marshal (hl : FieldsLawful goFloat empty fields) (m : α) :
    (marshalMessage fields m).numbersKept goFloat := by
  simp only [marshalMessage, Json.numbersKept]
  rw [Json.numbersKeptMembers_eq]
  refine List.all_eq_true.mpr fun x hx => ?_
  obtain ⟨f, hf, hw⟩ := mem_marshalMessage hx
  exact (hl.write_ok f hf m x.2 hw).2.1

-- A message codec whose fields are lawful is a lawful protojson.
theorem messageCodec_lawful (hl : FieldsLawful goFloat empty fields) :
    (messageCodec empty fields).Lawful goFloat where
  unmarshal_marshal m _ _ := unmarshal_marshal hl m
  dupFree_marshal := dupFree_marshal hl
  numbersKept_marshal := numbersKept_marshal hl
  unmarshal_encodeAny := unmarshal_encodeAny hl

end Lawful

section Lens

variable {β : Type} {jsonName protoName : String} {number : Nat} {get : α → β} {set : β → α → α}
  {isEmpty : β → Bool} {print : β → Json} {printError : β → Option String} {parse : Json → Except String β}

theorem lensField_setter {v : Json} {sf : α → α}
    (h : fieldSetter (lensField jsonName protoName number get set isEmpty print printError parse) v = .ok sf) :
    sf = id ∨ ∃ x, sf = set x := by
  cases v with
  | null => cases h; exact Or.inl rfl
  | _ =>
    simp only [fieldSetter, lensField] at h
    cases hp : parse _ <;> rw [hp] at h <;> cases h
    exact Or.inr ⟨_, rfl⟩

theorem lensField_write (m : α) :
    (lensField jsonName protoName number get set isEmpty print printError parse).write m =
      if isEmpty (get m) then none else some (print (get m)) :=
  rfl

-- What a field writes sets its own value again when it is read.
theorem fieldSetter_lensField_print (hparse : ∀ x, parse (print x) = .ok x) (hnull : ∀ x, print x ≠ .null)
    (x : β) : fieldSetter (lensField jsonName protoName number get set isEmpty print printError parse) (print x) = .ok (set x) := by
  cases h : print x with
  | null => exact absurd h (hnull x)
  | _ => simp only [fieldSetter, lensField, ← h, hparse]; rfl

theorem lensField_restore (hparse : ∀ x, parse (print x) = .ok x) (hnull : ∀ x, print x ≠ .null) (m : α) :
    ((lensField jsonName protoName number get set isEmpty print printError parse).write m).bind
      (fun v => (fieldSetter (lensField jsonName protoName number get set isEmpty print printError parse) v).toOption) =
      if isEmpty (get m) then none else some (set (get m)) := by
  rw [lensField_write]
  split
  · rfl
  · rw [Option.some_bind, fieldSetter_lensField_print hparse hnull]
    rfl

theorem lensField_write_ok (goFloat : Number → Option Number)
    (hprint : ∀ x, (print x).dupFree ∧ (print x).numbersKept goFloat)
    (hparse : ∀ x, parse (print x) = .ok x) (hnull : ∀ x, print x ≠ .null) :
    ∀ m v, (lensField jsonName protoName number get set isEmpty print printError parse).write m = some v →
      v.dupFree ∧ v.numbersKept goFloat ∧
        (fieldSetter (lensField jsonName protoName number get set isEmpty print printError parse) v).toOption.isSome := by
  intro m v hv
  rw [lensField_write] at hv
  split at hv
  · cases hv
  · cases hv
    rw [fieldSetter_lensField_print hparse hnull]
    exact ⟨(hprint _).1, (hprint _).2, rfl⟩

theorem lensField_read_encodeAny
    (h : ∀ v : Json, v.dupFree → (parse (encodeAny v)).toOption = (parse v).toOption) (v : Json) (hv : v.dupFree) :
    ((lensField jsonName protoName number get set isEmpty print printError parse).read (encodeAny v)).toOption =
      ((lensField jsonName protoName number get set isEmpty print printError parse).read v).toOption := by
  simp only [lensField, toOption_map, h v hv]

-- Setters of two fields that commute as record updates commute as member setters.
theorem lens_commute {β γ : Type} {f g : FieldCodec α} {setF : β → α → α} {setG : γ → α → α}
    (hf : ∀ {v sf}, fieldSetter f v = .ok sf → sf = id ∨ ∃ x, sf = setF x)
    (hg : ∀ {w sg}, fieldSetter g w = .ok sg → sg = id ∨ ∃ y, sg = setG y)
    (hc : ∀ x y m, setF x (setG y m) = setG y (setF x m)) :
    ∀ v w sf sg, fieldSetter f v = .ok sf → fieldSetter g w = .ok sg → ∀ m, sf (sg m) = sg (sf m) := by
  intro v w sf sg hsf hsg m
  rcases hf hsf with rfl | ⟨x, rfl⟩ <;> rcases hg hsg with rfl | ⟨y, rfl⟩
  · rfl
  · rfl
  · rfl
  · exact hc x y m

end Lens

-- What `Marshal` writes for bytes has neither `-` nor `_` and a length that is a multiple of
-- four, so it is read with the standard, padded encoding.
theorem unmarshalBytes_encodeToString (bs : List UInt8) :
    unmarshalBytes (Base64.encodeToString bs) = some bs := by
  have hurl : ∀ c ∈ '=' :: Base64.alphabet, ¬ (c = '-' ∨ c = '_') := by decide
  have hany : ((Base64.encodeToString bs).toList.any fun c => c = '-' ∨ c = '_') = false := by
    rw [List.any_eq_false]
    exact fun c hc => by simpa using hurl c (Base64.mem_encodeChars hc)
  have hlen : (Base64.encodeToString bs).length % 4 = 0 := by
    rw [Base64.length_encodeToString]
    omega
  rw [unmarshalBytes, hany, hlen]
  exact Base64.decodeString_encodeToString bs

section Kinds

variable {β : Type} (goFloat : Number → Option Number) (jsonName protoName : String) (number : Nat)

theorem parseBytes_print (bs : List UInt8) :
    parseBytes jsonName (.string (Base64.encodeToString bs)) = .ok bs := by
  rw [parseBytes, unmarshalBytes_encodeToString]

theorem parseList_print (elem : ProtoJSON β) (hR : ∀ x, elem.unmarshal (elem.marshal x) = .ok x) :
    ∀ xs : List β, parseList elem (.array (xs.map elem.marshal)) = .ok xs
  | [] => rfl
  | x :: xs => by
    have ih := parseList_print elem hR xs
    simp only [parseList] at ih ⊢
    rw [List.map_cons, List.mapM_cons, hR x, ih]
    rfl

theorem toOption_mapM_encodeList (elem : ProtoJSON β) (hP : elem.Lawful goFloat) :
    ∀ xs : List Json, Json.dupFreeList xs →
      ((encodeList xs).mapM elem.unmarshal).toOption = (xs.mapM elem.unmarshal).toOption
  | [], _ => rfl
  | x :: xs, h => by
    simp only [Json.dupFreeList, Bool.and_eq_true] at h
    have hx : (elem.unmarshal (encodeAny x)).toOption = (elem.unmarshal x).toOption := hP.unmarshal_encodeAny x h.1
    have ih := toOption_mapM_encodeList elem hP xs h.2
    cases hu : elem.unmarshal x <;> cases hu' : elem.unmarshal (encodeAny x) <;>
      rw [hu, hu'] at hx <;> cases hx <;>
      simp only [encodeList, List.mapM_cons, hu, hu', toOption_bind, toOption_ok, toOption_error,
        Option.bind, ih]

theorem parseList_encodeAny (elem : ProtoJSON β) (hP : elem.Lawful goFloat) (v : Json) (hv : v.dupFree) :
    (parseList elem (encodeAny v)).toOption = (parseList elem v).toOption := by
  cases v with
  | array xs => exact toOption_mapM_encodeList goFloat elem hP xs hv
  | _ => rfl

variable {α : Type}

theorem bytesField_write_ok (get : α → List UInt8) (set : List UInt8 → α → α) :
    ∀ m v, (bytesField jsonName protoName number get set).write m = some v →
      v.dupFree ∧ v.numbersKept goFloat ∧
        (fieldSetter (bytesField jsonName protoName number get set) v).toOption.isSome :=
  lensField_write_ok goFloat (fun _ => ⟨rfl, rfl⟩) (parseBytes_print jsonName) (fun _ h => by cases h)

theorem stringField_write_ok (get : α → String) (set : String → α → α) :
    ∀ m v, (stringField jsonName protoName number get set).write m = some v →
      v.dupFree ∧ v.numbersKept goFloat ∧
        (fieldSetter (stringField jsonName protoName number get set) v).toOption.isSome :=
  lensField_write_ok goFloat (fun _ => ⟨rfl, rfl⟩) (fun _ => rfl) (fun _ h => by cases h)

theorem repeatedField_write_ok (elem : ProtoJSON β) (hP : elem.Lawful goFloat)
    (hR : ∀ x, elem.unmarshal (elem.marshal x) = .ok x) (get : α → List β) (set : List β → α → α) :
    ∀ m v, (repeatedField jsonName protoName number elem get set).write m = some v →
      v.dupFree ∧ v.numbersKept goFloat ∧
        (fieldSetter (repeatedField jsonName protoName number elem get set) v).toOption.isSome := by
  refine lensField_write_ok goFloat (fun xs => ⟨?_, ?_⟩) (parseList_print elem hR) (fun _ h => by cases h)
  · show Json.dupFreeList _ = true
    rw [Json.dupFreeList_eq]
    refine List.all_eq_true.mpr fun j hj => ?_
    obtain ⟨x, -, rfl⟩ := List.mem_map.mp hj
    exact hP.dupFree_marshal x
  · show Json.numbersKeptList goFloat _ = true
    rw [Json.numbersKeptList_eq]
    refine List.all_eq_true.mpr fun j hj => ?_
    obtain ⟨x, -, rfl⟩ := List.mem_map.mp hj
    exact hP.numbersKept_marshal x

theorem bytesField_read_encodeAny (get : α → List UInt8) (set : List UInt8 → α → α) (v : Json)
    (hv : v.dupFree) :
    ((bytesField jsonName protoName number get set).read (encodeAny v)).toOption =
      ((bytesField jsonName protoName number get set).read v).toOption :=
  lensField_read_encodeAny (fun v _ => by cases v <;> rfl) v hv

theorem stringField_read_encodeAny (get : α → String) (set : String → α → α) (v : Json) (hv : v.dupFree) :
    ((stringField jsonName protoName number get set).read (encodeAny v)).toOption =
      ((stringField jsonName protoName number get set).read v).toOption :=
  lensField_read_encodeAny (fun v _ => by cases v <;> rfl) v hv

theorem repeatedField_read_encodeAny (elem : ProtoJSON β) (hP : elem.Lawful goFloat) (get : α → List β)
    (set : List β → α → α) (v : Json) (hv : v.dupFree) :
    ((repeatedField jsonName protoName number elem get set).read (encodeAny v)).toOption =
      ((repeatedField jsonName protoName number elem get set).read v).toOption :=
  lensField_read_encodeAny (parseList_encodeAny goFloat elem hP) v hv

theorem bytesField_restore (get : α → List UInt8) (set : List UInt8 → α → α) (m : α) :
    ((bytesField jsonName protoName number get set).write m).bind
      (fun v => (fieldSetter (bytesField jsonName protoName number get set) v).toOption) =
      if (get m).isEmpty then none else some (set (get m)) :=
  lensField_restore (parseBytes_print jsonName) (fun _ h => by cases h) m

theorem stringField_restore (get : α → String) (set : String → α → α) (m : α) :
    ((stringField jsonName protoName number get set).write m).bind
      (fun v => (fieldSetter (stringField jsonName protoName number get set) v).toOption) =
      if get m == "" then none else some (set (get m)) :=
  lensField_restore (fun s => (rfl : parseString jsonName (.string s) = .ok s)) (fun _ h => by cases h) m

theorem repeatedField_restore (elem : ProtoJSON β) (hR : ∀ x, elem.unmarshal (elem.marshal x) = .ok x)
    (get : α → List β) (set : List β → α → α) (m : α) :
    ((repeatedField jsonName protoName number elem get set).write m).bind
      (fun v => (fieldSetter (repeatedField jsonName protoName number elem get set) v).toOption) =
      if (get m).isEmpty then none else some (set (get m)) :=
  lensField_restore (parseList_print elem hR) (fun _ h => by cases h) m

end Kinds

section Limits

variable {β : Type} {jsonName protoName : String} {number : Nat} {m : α}

-- `Marshal` of a message fails only at a field that fails.
theorem messageCodec_marshalError {empty : α} {fields : List (FieldCodec α)}
    (h : ∀ f ∈ fields, f.writeError m = none) : (messageCodec empty fields).marshalError m = none :=
  List.findSome?_eq_none_iff.mpr h

theorem bytesField_writeError (get : α → List UInt8) (set : List UInt8 → α → α) :
    (bytesField jsonName protoName number get set).writeError m = none := by
  simp [bytesField, lensField]

theorem stringField_writeError (get : α → String) (set : String → α → α) :
    (stringField jsonName protoName number get set).writeError m = none := by
  simp [stringField, lensField]

theorem repeatedField_writeError {elem : ProtoJSON β} (h : ∀ x, elem.marshalError x = none)
    (get : α → List β) (set : List β → α → α) :
    (repeatedField jsonName protoName number elem get set).writeError m = none := by
  simp [repeatedField, lensField, h]

-- A field writes values of at most `n` levels.
def FieldCodec.WritesWithin (f : FieldCodec α) (n : Nat) : Prop :=
  ∀ m v, f.write m = some v → (v.tooDeep n).isNone

-- A message is one level above its fields' values.
theorem marshalMessage_within {fields : List (FieldCodec α)} {n : Nat} (h : ∀ f ∈ fields, f.WritesWithin n)
    (m : α) : ((marshalMessage fields m).tooDeep (n + 1)).isNone := by
  rw [marshalMessage, Json.tooDeep, Json.tooDeepMembers_isNone, List.all_eq_true]
  intro x hx
  obtain ⟨f, hf, hw⟩ := mem_marshalMessage hx
  exact h f hf m x.2 hw

theorem bytesField_writesWithin (get : α → List UInt8) (set : List UInt8 → α → α) (n : Nat) :
    (bytesField jsonName protoName number get set).WritesWithin n := by
  intro m v hv
  rw [bytesField, lensField_write] at hv
  split at hv <;> cases hv
  cases n <;> rfl

theorem stringField_writesWithin (get : α → String) (set : String → α → α) (n : Nat) :
    (stringField jsonName protoName number get set).WritesWithin n := by
  intro m v hv
  rw [stringField, lensField_write] at hv
  split at hv <;> cases hv
  cases n <;> rfl

theorem repeatedField_writesWithin {elem : ProtoJSON β} {n : Nat} (h : ∀ x, ((elem.marshal x).tooDeep n).isNone)
    (get : α → List β) (set : List β → α → α) :
    (repeatedField jsonName protoName number elem get set).WritesWithin (n + 1) := by
  intro m v hv
  rw [repeatedField, lensField_write] at hv
  split at hv <;> cases hv
  rw [Json.tooDeep, Json.tooDeepList_isNone, List.all_eq_true]
  intro j hj
  obtain ⟨x, -, rfl⟩ := List.mem_map.mp hj
  exact h x

end Limits

section Ids

open Convert

variable {β : Type} {jsonName protoName : String} {number : Nat} {m : α}

-- What a field must write for protojson's text to hold no id in hexadecimal form: a value
-- that is no such id under the field's name and holds none.
def FieldCodec.WritesHexIdFree (f : FieldCodec α) (m : α) : Prop :=
  ∀ v, f.write m = some v → hexId f.jsonName v = false ∧ hexIdFree v

theorem hexIdFree_marshalMessage {fields : List (FieldCodec α)} (h : ∀ f ∈ fields, f.WritesHexIdFree m) :
    hexIdFree (marshalMessage fields m) := by
  show everyMemberOf _ _ = true
  rw [everyMemberOf_eq, List.all_eq_true]
  intro x hx
  obtain ⟨f, hf, hw⟩ := List.mem_filterMap.mp hx
  obtain ⟨v, hv, rfl⟩ := Option.map_eq_some'.mp hw
  obtain ⟨h1, h2⟩ := h f hf v hv
  simp only [h1, Bool.not_false, Bool.true_and]
  exact h2

-- A bytes field writes an id in hexadecimal form only for the byte count whose base64 text
-- is as long as that hexadecimal.
theorem bytesField_writesHexIdFree {get : α → List UInt8} {set : List UInt8 → α → α}
    (h : 2 * (get m).length ≠ 3 * (keyIsTraceIDOrSpanID jsonName).1) :
    (bytesField jsonName protoName number get set).WritesHexIdFree m := by
  intro v hv
  rw [bytesField, lensField_write] at hv
  split at hv
  · cases hv
  · cases hv
    exact ⟨Bool.eq_false_iff.mpr fun h' => h (hexId_base64 h'), rfl⟩

theorem stringField_writesHexIdFree {get : α → String} {set : String → α → α}
    (hk : (keyIsTraceIDOrSpanID jsonName).2.2 = false) :
    (stringField jsonName protoName number get set).WritesHexIdFree m := by
  intro v hv
  rw [stringField, lensField_write] at hv
  split at hv
  · cases hv
  · cases hv
    exact ⟨hexId_of_key hk _, rfl⟩

theorem repeatedField_writesHexIdFree {elem : ProtoJSON β} {get : α → List β} {set : List β → α → α}
    (h : ∀ x ∈ get m, hexIdFree (elem.marshal x)) :
    (repeatedField jsonName protoName number elem get set).WritesHexIdFree m := by
  intro v hv
  rw [repeatedField, lensField_write] at hv
  split at hv
  · cases hv
  · cases hv
    refine ⟨hexId_array _ _, ?_⟩
    show everyMemberList _ _ = true
    rw [everyMemberList_eq, List.all_eq_true]
    intro j hj
    obtain ⟨x, hx, rfl⟩ := List.mem_map.mp hj
    exact h x hx

end Ids

end OtlpHelper.ProtoJson
