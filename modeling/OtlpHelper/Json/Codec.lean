import OtlpHelper.Json.Convert

namespace OtlpHelper.Codec

open GoJson Convert

-- A message type's protojson: `Marshal` with the options of `defaultMarshalOptions`, which
-- fails with `marshalError m` (a string field that is not UTF-8, in a message read from the
-- wire) and writes `marshal m` otherwise, and `Unmarshal`. Texts are trees, so `Multiline`
-- and `Indent`, which only add whitespace, change nothing.
structure ProtoJSON (Msg : Type) where
  marshal : Msg → Json
  unmarshal : Json → Except String Msg
  marshalError : Msg → Option String

def ProtoJSON.Marshal {Msg : Type} (P : ProtoJSON Msg) (m : Msg) : Except String Json :=
  match P.marshalError m with
  | some e => .error e
  | none => .ok (P.marshal m)

theorem ProtoJSON.Marshal_of_none {Msg : Type} {P : ProtoJSON Msg} {m : Msg} (h : P.marshalError m = none) :
    P.Marshal m = .ok (P.marshal m) := by
  rw [ProtoJSON.Marshal, h]

-- Two decoder results agree: both fail, or both give the same message.
def SameOutcome {Msg : Type} (a b : Except String Msg) : Prop := a.toOption = b.toOption

theorem SameOutcome.trans {Msg : Type} {a b c : Except String Msg} (hab : SameOutcome a b)
    (hbc : SameOutcome b c) : SameOutcome a c :=
  Eq.trans hab hbc

theorem SameOutcome.eq_ok {Msg : Type} {a : Except String Msg} {m : Msg}
    (h : SameOutcome a (.ok m)) : a = .ok m := by
  cases a with
  | error e => cases h
  | ok a => cases h; rfl

-- What the package relies on from protojson, for a Go float64 round trip `goFloat`: it reads
-- back what it writes, for a text of at most `maxNestingDepth` levels (protojson's own limit,
-- 10000 nested messages, lies beyond: every message is an object); it writes no name twice
-- and only numbers a float64 keeps; and the order of an object's members does not change
-- what it reads.
structure ProtoJSON.Lawful {Msg : Type} (P : ProtoJSON Msg) (goFloat : Number → Option Number) :
    Prop where
  unmarshal_marshal : ∀ m, P.marshalError m = none → (P.marshal m).withinDepth maxNestingDepth →
    P.unmarshal (P.marshal m) = .ok m
  dupFree_marshal : ∀ m, (P.marshal m).dupFree
  numbersKept_marshal : ∀ m, (P.marshal m).numbersKept goFloat
  unmarshal_encodeAny : ∀ j : Json, j.dupFree → SameOutcome (P.unmarshal (encodeAny j)) (P.unmarshal j)

section Shim

variable {Msg : Type} (P : ProtoJSON Msg) (goFloat : Number → Option Number)

-- `convertTraceIDAndSpanIDBase64ToHex`: a text `json.Unmarshal` rejects is returned as it is.
-- `json.MarshalIndent` and `json.Marshal` differ only in whitespace.
def convertTraceIDAndSpanIDBase64ToHex (data : Json) (_indent : String) : Json :=
  match unmarshalAny goFloat data with
  | .error _ => data
  | .ok m => encodeAny (convertTraceIDAndSpanIDBase64ToHexForAny m)

def MarshalJSON (msg : Msg) : Except String Json := do
  let data ← P.Marshal msg
  pure (convertTraceIDAndSpanIDBase64ToHex goFloat data "")

def MarshalIndentJSON (msg : Msg) (indent : String) : Except String Json := do
  let data ← P.Marshal msg
  pure (convertTraceIDAndSpanIDBase64ToHex goFloat data indent)

-- `JSONEncoder` with the texts written to its writer so far; the writer does not fail.
structure JSONEncoder where
  written : List Json := []
  indent : String := ""

def NewJSONEncoder : JSONEncoder := {}

def JSONEncoder.SetIndent (e : JSONEncoder) (indent : String) : JSONEncoder := { e with indent }

-- `JSONEncoder.Encode`: a message `Marshal` rejects is not written.
def JSONEncoder.Encode (e : JSONEncoder) (msg : Msg) : Except String JSONEncoder := do
  let data ← P.Marshal msg
  pure { e with written := e.written ++ [convertTraceIDAndSpanIDBase64ToHex goFloat data e.indent] }

-- `UnmarshalJSON`; `json.Marshal` of a decoded value does not fail.
def UnmarshalJSON (data : Json) : Except String Msg := do
  let m ← unmarshalAny goFloat data
  P.unmarshal (encodeAny (convertTraceIDAndSpanIDHexToBase64ForAny m))

-- `JSONDecoder` over the JSON values left in its stream.
structure JSONDecoder where
  stream : List Json

def NewJSONDecoder (stream : List Json) : JSONDecoder := ⟨stream⟩

def JSONDecoder.More (d : JSONDecoder) : Bool := !d.stream.isEmpty

-- `JSONDecoder.Decode`: `protojson.UnmarshalOptions{}` is `protojson.Unmarshal`.
def JSONDecoder.Decode (d : JSONDecoder) : JSONDecoder × Except String Msg :=
  match d.stream with
  | [] => (d, .error "EOF")
  | x :: rest =>
    (⟨rest⟩, do
      let m ← unmarshalAny goFloat x
      P.unmarshal (encodeAny (convertTraceIDAndSpanIDHexToBase64ForAny m)))

theorem JSONDecoder.Decode_cons (x : Json) (rest : List Json) :
    (NewJSONDecoder (x :: rest)).Decode P goFloat = (NewJSONDecoder rest, UnmarshalJSON P goFloat x) :=
  rfl

-- The conversion to hex never converts: the text comes back as `json.Marshal` writes the
-- decoded value, or unchanged when it does not decode.
theorem convertTraceIDAndSpanIDBase64ToHex_eq (data : Json) (indent : String) :
    convertTraceIDAndSpanIDBase64ToHex goFloat data indent =
      ((unmarshalAny goFloat data).toOption.map encodeAny).getD data := by
  unfold convertTraceIDAndSpanIDBase64ToHex
  split
  · next h => rw [h]; rfl
  · next m h => rw [h, convertTraceIDAndSpanIDBase64ToHexForAny_eq]; rfl

section Decodes

variable {data : Json} (hd : data.dupFree) (hk : data.numbersKept goFloat)
  (hn : data.withinDepth maxNestingDepth)
include hd hk hn

theorem convertTraceIDAndSpanIDBase64ToHex_of_decodes (indent : String) :
    convertTraceIDAndSpanIDBase64ToHex goFloat data indent = encodeAny data := by
  rw [convertTraceIDAndSpanIDBase64ToHex_eq, unmarshalAny_self goFloat hd hk hn]
  rfl

theorem UnmarshalJSON_of_decodes :
    UnmarshalJSON P goFloat data = P.unmarshal (encodeAny (convertTraceIDAndSpanIDHexToBase64ForAny data)) := by
  rw [UnmarshalJSON, unmarshalAny_self goFloat hd hk hn]
  rfl

end Decodes

variable {P goFloat} {msg : Msg}

theorem MarshalJSON_error {e : String} (h : P.marshalError msg = some e) : MarshalJSON P goFloat msg = .error e := by
  rw [MarshalJSON, ProtoJSON.Marshal, h]
  rfl

section Writers

variable (hP : P.Lawful goFloat) (hn : (P.marshal msg).withinDepth maxNestingDepth)
include hP hn

theorem convertTraceIDAndSpanIDBase64ToHex_marshal (indent : String) :
    convertTraceIDAndSpanIDBase64ToHex goFloat (P.marshal msg) indent = encodeAny (P.marshal msg) :=
  convertTraceIDAndSpanIDBase64ToHex_of_decodes goFloat (hP.dupFree_marshal msg) (hP.numbersKept_marshal msg) hn indent

variable (he : P.marshalError msg = none)
include he

-- For a lawful protojson, the three writers give `json.Marshal` of protojson's text.
theorem MarshalJSON_eq : MarshalJSON P goFloat msg = .ok (encodeAny (P.marshal msg)) := by
  rw [MarshalJSON, ProtoJSON.Marshal_of_none he]
  exact congrArg Except.ok (convertTraceIDAndSpanIDBase64ToHex_marshal hP hn "")

theorem MarshalIndentJSON_eq (indent : String) :
    MarshalIndentJSON P goFloat msg indent = .ok (encodeAny (P.marshal msg)) := by
  rw [MarshalIndentJSON, ProtoJSON.Marshal_of_none he]
  exact congrArg Except.ok (convertTraceIDAndSpanIDBase64ToHex_marshal hP hn indent)

theorem JSONEncoder.Encode_written (e : JSONEncoder) :
    (e.Encode P goFloat msg).map (·.written) = .ok (e.written ++ [encodeAny (P.marshal msg)]) := by
  rw [JSONEncoder.Encode, ProtoJSON.Marshal_of_none he]
  exact congrArg (fun t => Except.ok (e.written ++ [t])) (convertTraceIDAndSpanIDBase64ToHex_marshal hP hn e.indent)

end Writers

end Shim

end OtlpHelper.Codec
