import OtlpHelper.Json.Codec
import OtlpHelper.Json.Trace

-- What the JSON functions of the package do to ids, in general and on trace requests.
namespace OtlpHelper.Codec

open GoJson Convert Trace

-- A span with a 16-byte trace id and an 8-byte span id, as OTLP has them.
def canonicalSpan : Span where
  traceId := (List.range 16).map UInt8.ofNat
  spanId := (List.range 8).map UInt8.ofNat
  name := "span"

def canonicalRequest : ExportTraceServiceRequest :=
  { resourceSpans := [{ scopeSpans := [{ spans := [canonicalSpan] }] }] }

-- `MarshalJSON` of a trace request is protojson's text with its keys sorted: ids stay base64.
theorem MarshalJSON_requestJSON (goFloat : Number → Option Number) (m : ExportTraceServiceRequest) :
    MarshalJSON requestJSON goFloat m = .ok (encodeAny (requestJSON.marshal m)) :=
  MarshalJSON_eq (requestJSON_lawful goFloat) (requestJSON_withinDepth m) (requestJSON_marshalError m)

theorem MarshalJSON_canonicalRequest :
    MarshalJSON requestJSON Float64.goFloat canonicalRequest =
      .ok (.object [("resourceSpans", .array [.object [("scopeSpans", .array [.object [("spans", .array [.object
        [("name", .string "span"), ("spanId", .string "AAECAwQFBgc="),
          ("traceId", .string "AAECAwQFBgcICQoLDA0ODw==")]])]])]])]) := by
  rfl

section RoundTrip

variable {Msg : Type} {P : ProtoJSON Msg} {goFloat : Number → Option Number}

-- A text of at most `maxNestingDepth` levels with no repeated name, only numbers a float64
-- keeps and no id in hexadecimal form reads through `UnmarshalJSON` as protojson reads it.
theorem UnmarshalJSON_eq_ok (hP : P.Lawful goFloat) {x : Json} (hd : x.dupFree) (hk : x.numbersKept goFloat)
    (hn : x.withinDepth maxNestingDepth) (hx : hexIdFree x) {m : Msg} (hm : SameOutcome (P.unmarshal x) (.ok m)) :
    UnmarshalJSON P goFloat x = .ok m := by
  rw [UnmarshalJSON_of_decodes P goFloat hd hk hn, convertTraceIDAndSpanIDHexToBase64ForAny_eq hx]
  exact SameOutcome.eq_ok ((hP.unmarshal_encodeAny _ hd).trans hm)

section Written

variable (hP : P.Lawful goFloat) {m : Msg} (he : P.marshalError m = none)
  (hn : (P.marshal m).withinDepth maxNestingDepth) (hm : hexIdFree (P.marshal m))
include hP he hn hm

-- Protojson's own text of a message with no id in hexadecimal form reads back as the message.
theorem UnmarshalJSON_marshal : UnmarshalJSON P goFloat (P.marshal m) = .ok m :=
  UnmarshalJSON_eq_ok hP (hP.dupFree_marshal m) (hP.numbersKept_marshal m) hn hm
    (congrArg Except.toOption (hP.unmarshal_marshal m he hn))

-- `json.Marshal` of that text reads back as the message too.
theorem UnmarshalJSON_encodeAny_marshal : UnmarshalJSON P goFloat (encodeAny (P.marshal m)) = .ok m := by
  have hd := hP.dupFree_marshal m
  exact UnmarshalJSON_eq_ok hP ((dupFree_encodeAny _).trans hd)
    ((numbersKept_encodeAny _ _).trans (hP.numbersKept_marshal m)) ((withinDepth_encodeAny _ _).trans hn)
    ((hexIdFree_encodeAny _).trans hm)
    ((hP.unmarshal_encodeAny _ hd).trans (congrArg Except.toOption (hP.unmarshal_marshal m he hn)))

-- A message protojson writes, in at most `maxNestingDepth` levels and with no id in
-- hexadecimal form, comes back through `MarshalJSON` and `UnmarshalJSON`.
theorem UnmarshalJSON_MarshalJSON : (MarshalJSON P goFloat m >>= UnmarshalJSON P goFloat) = .ok m := by
  rw [MarshalJSON_eq hP hn he]
  exact UnmarshalJSON_encodeAny_marshal hP he hn hm

end Written

end RoundTrip

theorem UnmarshalJSON_MarshalJSON_canonicalRequest :
    (MarshalJSON requestJSON Float64.goFloat canonicalRequest >>= UnmarshalJSON requestJSON Float64.goFloat) =
      .ok canonicalRequest :=
  UnmarshalJSON_MarshalJSON (requestJSON_lawful Float64.goFloat) (requestJSON_marshalError _)
    (requestJSON_withinDepth _) (by rfl)

-- A trace id of 24 zero bytes is written as 32 `A`s, which `UnmarshalJSON` reads as the
-- hexadecimal of 16 bytes `0xAA`.
theorem UnmarshalJSON_MarshalJSON_zeroTraceId :
    (MarshalJSON requestJSON Float64.goFloat
        { resourceSpans := [{ scopeSpans := [{ spans := [{ traceId := List.replicate 24 0, name := "s" }] }] }] } >>=
      UnmarshalJSON requestJSON Float64.goFloat) =
      .ok { resourceSpans := [{ scopeSpans := [{ spans := [{ traceId := List.replicate 16 170, name := "s" }] }] }] } := by
  rfl

section Writers

variable {Msg : Type} {P : ProtoJSON Msg} {goFloat : Number → Option Number} (hP : P.Lawful goFloat) {m : Msg}
  (he : P.marshalError m = none) (hn : (P.marshal m).withinDepth maxNestingDepth) (hm : hexIdFree (P.marshal m))
include hP he hn hm

end Writers

section RoundTrip

variable {Msg : Type} {P : ProtoJSON Msg} {goFloat : Number → Option Number}

-- On a text of at most `maxNestingDepth` levels with no repeated name and only numbers a
-- float64 keeps, `UnmarshalJSON` and `Decode` read what protojson reads from the text with
-- its hexadecimal ids made base64.
theorem UnmarshalJSON_sameOutcome (hP : P.Lawful goFloat) {x : Json} (hd : x.dupFree)
    (hk : x.numbersKept goFloat) (hn : x.withinDepth maxNestingDepth) :
    SameOutcome (UnmarshalJSON P goFloat x) (P.unmarshal (replaceHexIds x)) ∧
      ∀ rest, SameOutcome ((NewJSONDecoder (x :: rest)).Decode P goFloat).2 (P.unmarshal (replaceHexIds x)) := by
  have h : SameOutcome (UnmarshalJSON P goFloat x) (P.unmarshal (replaceHexIds x)) := by
    rw [UnmarshalJSON_of_decodes P goFloat hd hk hn, convertTraceIDAndSpanIDHexToBase64ForAny_eq_replaceHexIds]
    exact hP.unmarshal_encodeAny _ ((dupFree_convertIDsForAny _ x).trans hd)
  exact ⟨h, fun rest => h⟩

end RoundTrip

-- The canonical request as OTLP/JSON writes it, with hexadecimal ids.
def canonicalText : Json :=
  .object [("resourceSpans", .array [.object [("scopeSpans", .array [.object [("spans", .array [.object
    [("traceId", .string "000102030405060708090a0b0c0d0e0f"), ("spanId", .string "0001020304050607"),
      ("name", .string "span")]])]])]])]

theorem UnmarshalJSON_sameOutcome_canonicalText :
    SameOutcome (UnmarshalJSON requestJSON Float64.goFloat canonicalText)
        (requestJSON.unmarshal (replaceHexIds canonicalText)) ∧
      ∀ rest, SameOutcome ((NewJSONDecoder (canonicalText :: rest)).Decode requestJSON Float64.goFloat).2
        (requestJSON.unmarshal (replaceHexIds canonicalText)) :=
  UnmarshalJSON_sameOutcome (requestJSON_lawful Float64.goFloat) (by rfl) (by rfl) (by rfl)

-- A repeated member: protojson rejects it, `UnmarshalJSON` keeps the last one.
theorem UnmarshalJSON_duplicateMember :
    UnmarshalJSON requestJSON Float64.goFloat (.object [("resourceSpans", .array []), ("resourceSpans", .array [])]) =
        .ok {} ∧
      requestJSON.unmarshal (replaceHexIds (.object [("resourceSpans", .array []), ("resourceSpans", .array [])])) =
        .error "duplicate field \"resourceSpans\"" :=
  ⟨rfl, rfl⟩

end OtlpHelper.Codec
