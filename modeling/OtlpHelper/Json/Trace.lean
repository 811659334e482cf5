import OtlpHelper.Json.ProtoJson
import OtlpHelper.Json.Float

-- The trace export request of `opentelemetry.proto.collector.trace.v1`, with the fields
-- this model keeps, and its protojson.
namespace OtlpHelper.Trace

open GoJson Codec ProtoJson

-- `Span`: the ids and the name.
structure Span where
  traceId : List UInt8 := []
  spanId : List UInt8 := []
  parentSpanId : List UInt8 := []
  name : String := ""
deriving DecidableEq, Repr

def spanFields : List (FieldCodec Span) :=
  [bytesField "traceId" "trace_id" 1 (·.traceId) fun x m => { m with traceId := x },
   bytesField "spanId" "span_id" 2 (·.spanId) fun x m => { m with spanId := x },
   bytesField "parentSpanId" "parent_span_id" 4 (·.parentSpanId) fun x m => { m with parentSpanId := x },
   stringField "name" "name" 5 (·.name) fun x m => { m with name := x }]

def spanJSON : ProtoJSON Span := messageCodec {} spanFields

structure ScopeSpans where
  spans : List Span := []
  schemaUrl : String := ""
deriving DecidableEq, Repr

def scopeSpansFields : List (FieldCodec ScopeSpans) :=
  [repeatedField "spans" "spans" 2 spanJSON (·.spans) fun x m => { m with spans := x },
   stringField "schemaUrl" "schema_url" 3 (·.schemaUrl) fun x m => { m with schemaUrl := x }]

def scopeSpansJSON : ProtoJSON ScopeSpans := messageCodec {} scopeSpansFields

structure ResourceSpans where
  scopeSpans : List ScopeSpans := []
  schemaUrl : String := ""
deriving DecidableEq, Repr

def resourceSpansFields : List (FieldCodec ResourceSpans) :=
  [repeatedField "scopeSpans" "scope_spans" 2 scopeSpansJSON (·.scopeSpans) fun x m => { m with scopeSpans := x },
   stringField "schemaUrl" "schema_url" 3 (·.schemaUrl) fun x m => { m with schemaUrl := x }]

def resourceSpansJSON : ProtoJSON ResourceSpans := messageCodec {} resourceSpansFields

structure ExportTraceServiceRequest where
  resourceSpans : List ResourceSpans := []
deriving DecidableEq, Repr

def requestFields : List (FieldCodec ExportTraceServiceRequest) :=
  [repeatedField "resourceSpans" "resource_spans" 1 resourceSpansJSON (·.resourceSpans)
    fun x m => { m with resourceSpans := x }]

def requestJSON : ProtoJSON ExportTraceServiceRequest := messageCodec {} requestFields

section Lawful

variable (goFloat : Number → Option Number)

theorem spanFields_lawful : FieldsLawful goFloat {} spanFields where
  jsonNames_nodup := by decide
  numbers_nodup := by decide
  write_ok := by
    simp only [spanFields, List.forall_mem_cons, List.forall_mem_nil]
    exact ⟨bytesField_write_ok goFloat _ _ _ _ _, bytesField_write_ok goFloat _ _ _ _ _,
      bytesField_write_ok goFloat _ _ _ _ _, stringField_write_ok goFloat _ _ _ _ _, fun _ h => by cases h⟩
  rebuild := by
    intro ⟨t, s, p, n⟩
    simp only [spanFields, List.filterMap_cons, List.filterMap_nil, bytesField_restore, stringField_restore]
    by_cases ht : t = [] <;> by_cases hs : s = [] <;> by_cases hp : p = [] <;> by_cases hn : n = "" <;>
      simp [ht, hs, hp, hn]
  read_encodeAny := by
    simp only [spanFields, List.forall_mem_cons, List.forall_mem_nil]
    exact ⟨bytesField_read_encodeAny _ _ _ _ _, bytesField_read_encodeAny _ _ _ _ _,
      bytesField_read_encodeAny _ _ _ _ _, stringField_read_encodeAny _ _ _ _ _, fun _ h => by cases h⟩
  commute := by
    simp only [spanFields, List.mem_cons, List.not_mem_nil, or_false]
    rintro f (rfl | rfl | rfl | rfl) g (rfl | rfl | rfl | rfl) hne
    all_goals first
      | exact absurd rfl hne
      | exact lens_commute lensField_setter lensField_setter fun _ _ _ => rfl

theorem spanJSON_lawful : spanJSON.Lawful goFloat := messageCodec_lawful (spanFields_lawful goFloat)

-- The codecs read back every message they write, however deep (any float round trip serves
-- the proof: they write no number).
theorem spanJSON_unmarshal_marshal (sp : Span) : spanJSON.unmarshal (spanJSON.marshal sp) = .ok sp :=
  unmarshal_marshal (spanFields_lawful Float64.goFloat) sp

theorem scopeSpansFields_lawful : FieldsLawful goFloat {} scopeSpansFields where
  jsonNames_nodup := by decide
  numbers_nodup := by decide
  write_ok := by
    simp only [scopeSpansFields, List.forall_mem_cons]
    exact ⟨repeatedField_write_ok goFloat _ _ _ _ (spanJSON_lawful goFloat)
      spanJSON_unmarshal_marshal _ _,
      stringField_write_ok goFloat _ _ _ _ _, fun _ h => by cases h⟩
  rebuild := by
    intro ⟨sp, u⟩
    simp only [scopeSpansFields, List.filterMap_cons, List.filterMap_nil,
      repeatedField_restore _ _ _ _ spanJSON_unmarshal_marshal, stringField_restore]
    by_cases h1 : sp = [] <;> by_cases h2 : u = "" <;> simp [h1, h2]
  read_encodeAny := by
    simp only [scopeSpansFields, List.forall_mem_cons]
    exact ⟨repeatedField_read_encodeAny goFloat _ _ _ _ (spanJSON_lawful goFloat) _ _,
      stringField_read_encodeAny _ _ _ _ _, fun _ h => by cases h⟩
  commute := by
    simp only [scopeSpansFields, List.mem_cons, List.not_mem_nil, or_false]
    rintro f (rfl | rfl) g (rfl | rfl) hne
    all_goals first
      | exact absurd rfl hne
      | exact lens_commute lensField_setter lensField_setter fun _ _ _ => rfl

theorem scopeSpansJSON_lawful : scopeSpansJSON.Lawful goFloat :=
  messageCodec_lawful (scopeSpansFields_lawful goFloat)

theorem scopeSpansJSON_unmarshal_marshal (ss : ScopeSpans) :
    scopeSpansJSON.unmarshal (scopeSpansJSON.marshal ss) = .ok ss :=
  unmarshal_marshal (scopeSpansFields_lawful Float64.goFloat) ss

theorem resourceSpansFields_lawful : FieldsLawful goFloat {} resourceSpansFields where
  jsonNames_nodup := by decide
  numbers_nodup := by decide
  write_ok := by
    simp only [resourceSpansFields, List.forall_mem_cons]
    exact ⟨repeatedField_write_ok goFloat _ _ _ _ (scopeSpansJSON_lawful goFloat)
      scopeSpansJSON_unmarshal_marshal _ _,
      stringField_write_ok goFloat _ _ _ _ _, fun _ h => by cases h⟩
  rebuild := by
    intro ⟨sc, u⟩
    simp only [resourceSpansFields, List.filterMap_cons, List.filterMap_nil,
      repeatedField_restore _ _ _ _ scopeSpansJSON_unmarshal_marshal, stringField_restore]
    by_cases h1 : sc = [] <;> by_cases h2 : u = "" <;> simp [h1, h2]
  read_encodeAny := by
    simp only [resourceSpansFields, List.forall_mem_cons]
    exact ⟨repeatedField_read_encodeAny goFloat _ _ _ _ (scopeSpansJSON_lawful goFloat) _ _,
      stringField_read_encodeAny _ _ _ _ _, fun _ h => by cases h⟩
  commute := by
    simp only [resourceSpansFields, List.mem_cons, List.not_mem_nil, or_false]
    rintro f (rfl | rfl) g (rfl | rfl) hne
    all_goals first
      | exact absurd rfl hne
      | exact lens_commute lensField_setter lensField_setter fun _ _ _ => rfl

theorem resourceSpansJSON_lawful : resourceSpansJSON.Lawful goFloat :=
  messageCodec_lawful (resourceSpansFields_lawful goFloat)

theorem resourceSpansJSON_unmarshal_marshal (rs : ResourceSpans) :
    resourceSpansJSON.unmarshal (resourceSpansJSON.marshal rs) = .ok rs :=
  unmarshal_marshal (resourceSpansFields_lawful Float64.goFloat) rs

theorem requestFields_lawful : FieldsLawful goFloat {} requestFields where
  jsonNames_nodup := by decide
  numbers_nodup := by decide
  write_ok := by
    simp only [requestFields, List.forall_mem_cons]
    exact ⟨repeatedField_write_ok goFloat _ _ _ _ (resourceSpansJSON_lawful goFloat)
      resourceSpansJSON_unmarshal_marshal _ _, fun _ h => by cases h⟩
  rebuild := by
    intro ⟨rs⟩
    simp only [requestFields, List.filterMap_cons, List.filterMap_nil,
      repeatedField_restore _ _ _ _ resourceSpansJSON_unmarshal_marshal]
    by_cases h1 : rs = [] <;> simp [h1]
  read_encodeAny := by
    simp only [requestFields, List.forall_mem_cons]
    exact ⟨repeatedField_read_encodeAny goFloat _ _ _ _ (resourceSpansJSON_lawful goFloat) _ _,
      fun _ h => by cases h⟩
  commute := by
    simp only [requestFields, List.mem_cons, List.not_mem_nil, or_false]
    rintro f rfl g rfl hne
    exact absurd rfl hne

-- The request's protojson is lawful for every float64 round trip: it writes no number.
theorem requestJSON_lawful : requestJSON.Lawful goFloat :=
  messageCodec_lawful (requestFields_lawful goFloat)

end Lawful

section Limits

-- No field of a trace request fails to marshal.
theorem spanJSON_marshalError (sp : Span) : spanJSON.marshalError sp = none :=
  messageCodec_marshalError (by simp [spanFields, bytesField_writeError, stringField_writeError])

theorem scopeSpansJSON_marshalError (ss : ScopeSpans) : scopeSpansJSON.marshalError ss = none :=
  messageCodec_marshalError (by
    simp [scopeSpansFields, repeatedField_writeError spanJSON_marshalError, stringField_writeError])

theorem resourceSpansJSON_marshalError (rs : ResourceSpans) : resourceSpansJSON.marshalError rs = none :=
  messageCodec_marshalError (by
    simp [resourceSpansFields, repeatedField_writeError scopeSpansJSON_marshalError, stringField_writeError])

theorem requestJSON_marshalError (m : ExportTraceServiceRequest) : requestJSON.marshalError m = none :=
  messageCodec_marshalError (by simp [requestFields, repeatedField_writeError resourceSpansJSON_marshalError])

-- A span's text is one object of strings; each message above it adds an array and an object.
theorem spanJSON_within (n : Nat) (sp : Span) : ((spanJSON.marshal sp).tooDeep (n + 1)).isNone :=
  marshalMessage_within (by
    simp only [spanFields, List.forall_mem_cons]
    exact ⟨bytesField_writesWithin _ _ n, bytesField_writesWithin _ _ n, bytesField_writesWithin _ _ n,
      stringField_writesWithin _ _ n, fun _ h => by cases h⟩) sp

theorem scopeSpansJSON_within (n : Nat) (ss : ScopeSpans) : ((scopeSpansJSON.marshal ss).tooDeep (n + 3)).isNone :=
  marshalMessage_within (by
    simp only [scopeSpansFields, List.forall_mem_cons]
    exact ⟨repeatedField_writesWithin (spanJSON_within n) _ _, stringField_writesWithin _ _ _,
      fun _ h => by cases h⟩) ss

theorem resourceSpansJSON_within (n : Nat) (rs : ResourceSpans) :
    ((resourceSpansJSON.marshal rs).tooDeep (n + 5)).isNone :=
  marshalMessage_within (by
    simp only [resourceSpansFields, List.forall_mem_cons]
    exact ⟨repeatedField_writesWithin (scopeSpansJSON_within n) _ _, stringField_writesWithin _ _ _,
      fun _ h => by cases h⟩) rs

-- A trace request's text nests seven levels, far below `json.Unmarshal`'s limit.
theorem requestJSON_withinDepth (m : ExportTraceServiceRequest) :
    (requestJSON.marshal m).withinDepth maxNestingDepth :=
  marshalMessage_within (by
    simp only [requestFields, List.forall_mem_cons]
    exact ⟨repeatedField_writesWithin (resourceSpansJSON_within 9993) _ _, fun _ h => by cases h⟩) m

end Limits

section Ids

open Convert

-- The one id length per key whose base64 text has as many characters as the hexadecimal the
-- key wants: 24 bytes for a trace id, 12 for a span id.
def Span.hexSafe (sp : Span) : Bool :=
  sp.traceId.length != 24 && sp.spanId.length != 12 && sp.parentSpanId.length != 12

def ExportTraceServiceRequest.hexSafe (m : ExportTraceServiceRequest) : Bool :=
  m.resourceSpans.all fun rs => rs.scopeSpans.all fun ss => ss.spans.all Span.hexSafe

theorem hexIdFree_spanJSON {sp : Span} (h : sp.hexSafe) : hexIdFree (spanJSON.marshal sp) := by
  simp only [Span.hexSafe, Bool.and_eq_true, bne_iff_ne, ne_eq] at h
  refine hexIdFree_marshalMessage fun f hf => ?_
  simp only [spanFields, List.mem_cons, List.not_mem_nil, or_false] at hf
  rcases hf with rfl | rfl | rfl | rfl
  · exact bytesField_writesHexIdFree (show 2 * sp.traceId.length ≠ 3 * 16 by omega)
  · exact bytesField_writesHexIdFree (show 2 * sp.spanId.length ≠ 3 * 8 by omega)
  · exact bytesField_writesHexIdFree (show 2 * sp.parentSpanId.length ≠ 3 * 8 by omega)
  · exact stringField_writesHexIdFree rfl

theorem hexIdFree_scopeSpansJSON {ss : ScopeSpans} (h : ss.spans.all Span.hexSafe) :
    hexIdFree (scopeSpansJSON.marshal ss) := by
  refine hexIdFree_marshalMessage fun f hf => ?_
  simp only [scopeSpansFields, List.mem_cons, List.not_mem_nil, or_false] at hf
  rcases hf with rfl | rfl
  · exact repeatedField_writesHexIdFree fun sp hsp => hexIdFree_spanJSON (List.all_eq_true.mp h sp hsp)
  · exact stringField_writesHexIdFree rfl

theorem hexIdFree_resourceSpansJSON {rs : ResourceSpans}
    (h : rs.scopeSpans.all fun ss => ss.spans.all Span.hexSafe) : hexIdFree (resourceSpansJSON.marshal rs) := by
  refine hexIdFree_marshalMessage fun f hf => ?_
  simp only [resourceSpansFields, List.mem_cons, List.not_mem_nil, or_false] at hf
  rcases hf with rfl | rfl
  · exact repeatedField_writesHexIdFree fun ss hss => hexIdFree_scopeSpansJSON (List.all_eq_true.mp h ss hss)
  · exact stringField_writesHexIdFree rfl

-- A request with no id of those lengths, one with OTLP's 16- and 8-byte ids among them, has
-- no id in hexadecimal form in its protojson text.
theorem hexIdFree_requestJSON {m : ExportTraceServiceRequest} (h : m.hexSafe) :
    hexIdFree (requestJSON.marshal m) := by
  refine hexIdFree_marshalMessage fun f hf => ?_
  simp only [requestFields, List.mem_singleton] at hf
  subst hf
  exact repeatedField_writesHexIdFree fun rs hrs => hexIdFree_resourceSpansJSON (List.all_eq_true.mp h rs hrs)

end Ids

end OtlpHelper.Trace
