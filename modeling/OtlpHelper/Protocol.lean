import OtlpHelper.Transport
import OtlpHelper.Client.Exchange

-- An upload and its answer, from the client to a mux and back: what the client reports for
-- each outcome of the signal's handler, over HTTP and over gRPC.
namespace OtlpHelper.Protocol

open GoJson Codec Client Server Convert Transport Trace

section Verdict

variable {Msg : Type} (partialSuccess : Msg → Option PartialSuccess) (empty : Msg)

-- The status the proxy writes for a handler's error: its own, or `Internal` with its text.
def proxyStatus : GoError → Status
  | .status st => st
  | .plain text => { code := Code.internal, message := text }

-- What an HTTP client should report: a panic loses the connection, an error is known by the
-- HTTP status of its code, a response the server cannot marshal (`encodeError`) by a 500,
-- and a response (the empty message for a nil one) by its partial success.
def httpVerdict (closed : String) (encodeError : Msg → Option String) :
    Outcome (Option Msg × Option GoError) → Option (UploadError Msg)
  | .panicked _ => some (.failed ("failed to send request: " ++ closed))
  | .returned (_, some err) =>
    some (.failed ("unexpected status code: " ++ toString (grpcCodeToHTTPStatus (proxyStatus err).code)))
  | .returned (resp, none) =>
    if (resp.bind encodeError).isSome then some (.failed "unexpected status code: 500")
    else checkPartialSuccess partialSuccess (resp.getD empty)

-- What a gRPC client should report: the status of the error itself, `Internal` for a
-- response the server cannot marshal; a panic is the server's.
def grpcVerdict (encodeError : Msg → Option String) :
    Outcome (Option Msg × Option GoError) → Outcome (Option (UploadError Msg))
  | .panicked r => .panicked r
  | .returned (_, some err) => .returned (some (.rpc (.status (grpcStatus err))))
  | .returned (resp, none) =>
    match resp.bind encodeError with
    | some e => .returned (some (.rpc (statusError Code.internal ("grpc: error while marshaling: " ++ e))))
    | none => .returned (checkPartialSuccess partialSuccess (resp.getD empty))

-- A handler outcome with no error of code OK; only a custom error type whose `GRPCStatus`
-- says OK makes one.
def NoOKError : Outcome (Option Msg × Option GoError) → Prop
  | .returned (_, some (.status st)) => st.code ≠ Code.ok
  | _ => True

-- A response the handler returns is within protobuf's recursion limit, and protojson's text
-- of it within `maxNestingDepth` levels: the client can read it back.
def ReadsBack {Wire : Type} (W : ProtoWire Msg Wire) (P : ProtoJSON Msg) :
    Outcome (Option Msg × Option GoError) → Prop
  | .returned (some resp, none) => W.nesting resp ≤ recursionLimit ∧ (P.marshal resp).withinDepth maxNestingDepth
  | _ => True

theorem statusText_internal :
    "unexpected status code: " ++ toString (grpcCodeToHTTPStatus Code.internal) = "unexpected status code: 500" := by
  decide

theorem proxyStatus_code_ne {resp : Option Msg} {err : GoError} (h : NoOKError (.returned (resp, some err))) :
    (proxyStatus err).code ≠ Code.ok := by
  cases err with
  | status st => exact h
  | plain _ => exact (by decide : Code.internal ≠ Code.ok)

theorem grpcStatus_code_ne {resp : Option Msg} {err : GoError} (h : NoOKError (.returned (resp, some err))) :
    (grpcStatus err).code ≠ Code.ok := by
  cases err with
  | status st => exact h
  | plain _ => exact (by decide : Code.unknown ≠ Code.ok)

end Verdict

section Http

variable {Ctx Msg Wire : Type} {W : ProtoWire Msg Wire} {P : ProtoJSON Msg}
  {goFloat : Number → Option Number} (partialSuccess : Msg → Option PartialSuccess) {empty : Msg}

theorem writeResult_error (writeError : Status → HTTPResponse Wire) (encode : Option Msg → Except String (Body Wire))
    (contentType : String) (resp : Option Msg) (err : GoError) :
    writeResult writeError encode contentType (.returned (resp, some err)) = .returned (writeError (proxyStatus err)) := by
  cases err <;> rfl

-- What the client reads from a serving path's answer, when an error is written with the HTTP
-- status of its code, the path's encoder fails exactly where `encodeError` says, and what it
-- writes otherwise the client's decoder reads back.
theorem readResponse_writeResult (E : ErrorBodies Wire) (closed : String) (writeError : Status → HTTPResponse Wire)
    (encode : Option Msg → Except String (Body Wire)) (contentType : String) (decode : Body Wire → Except String Msg)
    (encodeError : Msg → Option String)
    (hread : ∀ b, readResponse partialSuccess W P (.ok ⟨200, contentType, b⟩) = decodeResponse partialSuccess (decode b))
    (hcode : ∀ st, ((writeError st).received E).statusCode = grpcCodeToHTTPStatus st.code)
    {o : Outcome (Option Msg × Option GoError)} (ho : NoOKError o)
    (hencode : ∀ resp, o = .returned (resp, none) →
      if (resp.bind encodeError).isSome then (encode resp).toOption = none
      else ∃ b, encode resp = .ok b ∧ decode b = .ok (resp.getD empty)) :
    readResponse partialSuccess W P (roundTrip E closed (writeResult writeError encode contentType o)) =
      httpVerdict partialSuccess empty closed encodeError o := by
  have hfail : ∀ st, st.code ≠ Code.ok → readResponse partialSuccess W P (.ok ((writeError st).received E)) =
      some (.failed ("unexpected status code: " ++ toString (grpcCodeToHTTPStatus st.code))) := fun st hst => by
    have := grpcCodeToHTTPStatus_error hst
    rw [readResponse_status partialSuccess (by rw [hcode]; omega), hcode]
  match o, ho with
  | .panicked _, _ => rfl
  | .returned (resp, some err), ho =>
    rw [writeResult_error, roundTrip, hfail _ (proxyStatus_code_ne ho)]
    rfl
  | .returned (resp, none), _ =>
    have h := hencode resp rfl
    simp only [writeResult, httpVerdict]
    split_ifs at h ⊢ with herr
    · cases he : encode resp with
      | error e =>
        rw [roundTrip, hfail _ (show Code.internal ≠ Code.ok by decide)]
        exact congrArg (fun t => some (UploadError.failed t)) statusText_internal
      | ok b => rw [he] at h; cases h
    · obtain ⟨b, he, hd⟩ := h
      rw [he, roundTrip, HTTPResponse.received, hread, hd]
      rfl

-- The protobuf path: a nil response is written as the empty message.
theorem readResponse_protobuf_writeResult (hW : W.Lawful) (hWe : W.unmarshal (W.marshal none) = .ok empty)
    (E : ErrorBodies Wire) (closed : String) {o : Outcome (Option Msg × Option GoError)} (ho : NoOKError o)
    (hr : ReadsBack W P o) :
    readResponse partialSuccess W P (roundTrip E closed (writeResult errorProto (protoBody W) "application/x-protobuf" o)) =
      httpVerdict partialSuccess empty closed W.marshalError o := by
  refine readResponse_writeResult partialSuccess E closed errorProto (protoBody W) _ (unmarshalProtoBody W)
    W.marshalError (readResponse_protobuf partialSuccess W P) (fun _ => rfl) ho fun resp hresp => ?_
  subst hresp
  rcases resp with _ | m
  · exact if_neg (by simp) |>.mpr ⟨_, rfl, hWe⟩
  · cases he : W.marshalError m with
    | some e =>
      rw [if_pos (by simp [he]), protoBody, ProtoWire.Marshal, he]
      rfl
    | none =>
      simp only [Option.some_bind, he, Option.isSome_none, if_false, Bool.false_eq_true]
      exact ⟨.binary (W.marshal (some m)), by rw [protoBody, ProtoWire.Marshal_of_none he]; rfl, hW m he hr.1⟩

-- The JSON path: the client reads with protojson what the server wrote through the shim,
-- which sorts the members and changes no id; a nil response is written `{}`.
theorem readResponse_json_writeResult (hP : P.Lawful goFloat) (hPe : P.unmarshal (.object []) = .ok empty)
    (E : ErrorBodies Wire) (closed : String) {o : Outcome (Option Msg × Option GoError)} (ho : NoOKError o)
    (hr : ReadsBack W P o) :
    readResponse partialSuccess W P (roundTrip E closed (writeResult errorJSON (jsonBody P goFloat) "application/json" o)) =
      httpVerdict partialSuccess empty closed P.marshalError o := by
  refine readResponse_writeResult partialSuccess E closed errorJSON (jsonBody P goFloat) _ (protojsonBody W P)
    P.marshalError (readResponse_json partialSuccess W P) (fun _ => rfl) ho fun resp hresp => ?_
  subst hresp
  rcases resp with _ | m
  · exact if_neg (by simp) |>.mpr ⟨_, rfl, hPe⟩
  · cases he : P.marshalError m with
    | some e =>
      rw [if_pos (by simp [he]), jsonBody, MarshalJSON_error he]
      rfl
    | none =>
      simp only [Option.some_bind, he, Option.isSome_none, if_false, Bool.false_eq_true]
      refine ⟨.json (encodeAny (P.marshal m)), by rw [jsonBody, MarshalJSON_eq hP hr.2 he]; rfl, ?_⟩
      exact SameOutcome.eq_ok ((hP.unmarshal_encodeAny _ (hP.dupFree_marshal m)).trans
        (congrArg Except.toOption (hP.unmarshal_marshal m he hr.2)))

variable {mux : ServerMux Ctx Msg} {s : Signal} {exp : SignalHandler Ctx Msg} {so : SignalOptions} {u : URL}

-- An HTTP upload of `data` to a mux whose entry for the signal exists, posted to an endpoint
-- that serves the signal without a custom Content-Type, is reported as the handler's
-- outcome says.
theorem exchangeWithHTTP_verdict (hW : W.Lawful) (hWe : W.unmarshal (W.marshal none) = .ok empty)
    (hP : P.Lawful goFloat) (hPe : P.unmarshal (.object []) = .ok empty) (hx : mux.signalExport s = some exp)
    (hh : ∀ e ∈ so.headers, canonicalMIMEHeaderKey e.1 ≠ "Content-Type") (hu : so.endpoint = some u)
    (hs : u.ServesSignal s) (E : ErrorBodies Wire) (closed : String) (ctx : Ctx) {data : Msg}
    (he : W.marshalError data = none) (hd : W.nesting data ≤ recursionLimit)
    (hproto : so.protocol = "http/protobuf" ∨ so.protocol = "http/json" ∧ P.marshalError data = none ∧
      (P.marshal data).withinDepth maxNestingDepth ∧ hexIdFree (P.marshal data))
    (hok : NoOKError (exp ctx (some data))) (hr : ReadsBack W P (exp ctx (some data))) :
    exchangeWithHTTP partialSuccess W P W P so (clientDo E closed (mux.ServeHTTP W P goFloat ctx)) data =
      .returned (httpVerdict partialSuccess empty closed
        (if so.protocol = "http/protobuf" then W.marshalError else P.marshalError) (exp ctx (some data))) := by
  rcases hproto with hp | ⟨hp, hPd, hn, hm⟩
  · rw [exchangeWithHTTP, uploadWithHTTP_protobuf W P hp hu he]
    dsimp only
    rw [clientDo_uploadWithHTTP hx hh hs, SignalOptions.httpContentType_protobuf hp,
      proxyServeHTTP_protobuf W P goFloat exp ctx _
        (show unmarshalProtoBody W (.binary (W.marshal (some data))) = .ok data from hW data he hd),
      readResponse_protobuf_writeResult partialSuccess hW hWe E closed hok hr, if_pos hp]
  · rw [exchangeWithHTTP, uploadWithHTTP_json W P hp hu hPd]
    dsimp only
    rw [clientDo_uploadWithHTTP hx hh hs, SignalOptions.httpContentType_json hp,
      proxyServeHTTP_json W P goFloat exp ctx _
        (show unmarshalJSONBody W P goFloat (.json (P.marshal data)) = .ok data from UnmarshalJSON_marshal hP hPd hn hm),
      readResponse_json_writeResult partialSuccess hP hPe E closed hok hr, if_neg (by rw [hp]; decide)]

end Http

section Grpc

variable {Ctx Msg Wire : Type} {W : ProtoWire Msg Wire} (partialSuccess : Msg → Option PartialSuccess) {empty : Msg}

-- What the client reads from what grpc-go delivers of the method's outcome.
theorem grpcReply_verdict (hW : W.Lawful) (hWe : W.unmarshal (W.marshal none) = .ok empty)
    {P : ProtoJSON Msg} {o : Outcome (Option Msg × Option GoError)} (ho : NoOKError o) (hr : ReadsBack W P o) :
    grpcReply partialSuccess W o = grpcVerdict partialSuccess empty W.marshalError o := by
  match o, ho, hr with
  | .panicked _, _, _ => rfl
  | .returned (resp, some err), ho, _ =>
    show Outcome.returned (if true && codeOf (some (.status (grpcStatus err))) ≠ Code.ok then _ else _) = _
    rw [if_pos (by simpa [codeOf] using grpcStatus_code_ne ho)]
    rfl
  | .returned (none, none), _, _ =>
    simp only [grpcReply, grpcCall, ProtoWire.Marshal, hWe]
    rfl
  | .returned (some m, none), _, hr =>
    cases he : W.marshalError m with
    | some e =>
      simp [grpcReply, grpcCall, grpcVerdict, ProtoWire.Marshal, he, readReply, codeOf, statusError,
        (by decide : Code.internal ≠ Code.ok)]
    | none =>
      simp only [grpcReply, grpcCall, ProtoWire.Marshal_of_none he, hW m he hr.1, grpcVerdict, Option.some_bind, he]
      rfl

variable {mux : ServerMux Ctx Msg} {s : Signal} {exp : SignalHandler Ctx Msg}

-- A gRPC upload of `data` to a mux whose entry for the signal exists is reported as the
-- handler's outcome says.
theorem exchangeWithGRPC_verdict (hW : W.Lawful) (hWe : W.unmarshal (W.marshal none) = .ok empty)
    {P : ProtoJSON Msg} (hx : mux.signalExport s = some exp) (ctx : Ctx) {data : Msg}
    (he : W.marshalError data = none) (hd : W.nesting data ≤ recursionLimit) (hok : NoOKError (exp ctx (some data)))
    (hr : ReadsBack W P (exp ctx (some data))) :
    exchangeWithGRPC partialSuccess W (fun wire => grpcCall W (mux.serveGRPC W s ctx wire)) data =
      grpcVerdict partialSuccess empty W.marshalError (exp ctx (some data)) := by
  rw [exchangeWithGRPC, ProtoWire.Marshal_of_none he]
  dsimp only
  rw [serveGRPC_marshal hW hx ctx he hd]
  exact grpcReply_verdict partialSuccess hW hWe hok hr

end Grpc

section Agreement

variable {Ctx Msg Wire : Type} {W : ProtoWire Msg Wire} {P : ProtoJSON Msg} {goFloat : Number → Option Number}
  (partialSuccess : Msg → Option PartialSuccess) {empty : Msg} {mux : ServerMux Ctx Msg} {s : Signal}
  {exp : SignalHandler Ctx Msg} {so : SignalOptions} {u : URL}

end Agreement

section Success

variable {Msg Resp Wire : Type} (partialSuccess : Resp → Option PartialSuccess)

end Success

end OtlpHelper.Protocol
