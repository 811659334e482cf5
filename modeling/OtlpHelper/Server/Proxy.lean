import OtlpHelper.Server.Mux
import OtlpHelper.Http
import OtlpHelper.Json.Codec

-- The mux over HTTP and gRPC: `ServerMux.ServeHTTP`, the proxy handler in front of each
-- entry's Export, and the gRPC method `Register` installs.
namespace OtlpHelper.Server

open Codec

def grpcCodeToHTTPStatus (code : Code) : Nat :=
  match code.value.toNat with
  | 0 => 200
  | 1 => 408
  | 2 => 500
  | 3 => 400
  | 4 => 504
  | 5 => 404
  | 6 => 409
  | 7 => 403
  | 8 => 429
  | 9 => 412
  | 10 => 409
  | 11 => 400
  | 12 => 501
  | 13 => 500
  | 14 => 503
  | 15 => 500
  | 16 => 401
  | _ => 500

-- Every code but `OK` is an HTTP error status.
theorem grpcCodeToHTTPStatus_error {code : Code} (h : code ≠ Code.ok) :
    400 ≤ grpcCodeToHTTPStatus code ∧ grpcCodeToHTTPStatus code < 600 := by
  have h0 : code.value.toNat ≠ 0 := fun h0 =>
    h (congrArg Code.mk (UInt32.eq_of_val_eq (Fin.ext h0)))
  unfold grpcCodeToHTTPStatus
  split <;> omega

section Proxy

variable {Ctx Msg Wire : Type}

-- `errorProto` and `errorJSON`: `proto.Marshal` and `MarshalJSON` of a status do not fail.
def errorProto (st : Status) : HTTPResponse Wire := .errorProto (grpcCodeToHTTPStatus st.code) st

def errorJSON (st : Status) : HTTPResponse Wire := .errorJSON (grpcCodeToHTTPStatus st.code) st

-- `proto.Unmarshal` of the body into the new request.
def unmarshalProtoBody (W : ProtoWire Msg Wire) : Body Wire → Except String Msg
  | .binary bytes => W.unmarshal bytes
  | .json text => W.unmarshalText text

-- `UnmarshalJSON` of the body into the new request.
def unmarshalJSONBody (W : ProtoWire Msg Wire) (P : ProtoJSON Msg) (goFloat : Number → Option Number) :
    Body Wire → Except String Msg
  | .json text => UnmarshalJSON P goFloat text
  | .binary bytes =>
    match W.parseText bytes with
    | .error e => .error e
    | .ok text => UnmarshalJSON P goFloat text

-- The response bodies, `proto.Marshal` and `MarshalJSON` of the handler's response: a typed
-- nil response marshals as the empty message, `{}` in JSON.
def protoBody (W : ProtoWire Msg Wire) (resp : Option Msg) : Except String (Body Wire) :=
  (W.Marshal resp).map .binary

def jsonBody (P : ProtoJSON Msg) (goFloat : Number → Option Number) : Option Msg → Except String (Body Wire)
  | some m => (MarshalJSON P goFloat m).map .json
  | none => .ok (.json (convertTraceIDAndSpanIDBase64ToHex goFloat (.object []) ""))

-- A status with an `ErrorInfo` detail whose reason is an error's text.
def withReason (code : Code) (message reason : String) : Status := { code, message, details := [reason] }

-- What both serving paths do once the handler returned: its error becomes a status, its
-- response the body of a 200, or a 500 when it cannot be marshalled. Writing the bytes to
-- the buffer does not fail.
def writeResult (writeError : Status → HTTPResponse Wire) (encode : Option Msg → Except String (Body Wire))
    (contentType : String) : Outcome (Option Msg × Option GoError) → Outcome (HTTPResponse Wire)
  | .panicked r => .panicked r
  | .returned (_, some (.status st)) => .returned (writeError st)
  | .returned (_, some (.plain text)) => .returned (writeError { code := Code.internal, message := text })
  | .returned (resp, none) =>
    match encode resp with
    | .error e => .returned (writeError (withReason Code.internal "Unable to marshal response" e))
    | .ok body => .returned (.ok contentType body)

-- `serveHTTPWithProto` and `serveHTTPWithJSON`: read the body, decode it into a new request,
-- call the handler, write the result.
def serveHTTPWith (decode : Body Wire → Except String Msg) (unmarshalError : String → Status)
    (writeError : Status → HTTPResponse Wire) (encode : Option Msg → Except String (Body Wire))
    (contentType : String) (handler : SignalHandler Ctx Msg) (ctx : Ctx) :
    Except String (Body Wire) → Outcome (HTTPResponse Wire)
  | .error e => .returned (writeError (withReason Code.invalidArgument "Unable to read request body" e))
  | .ok body =>
    match decode body with
    | .error e => .returned (writeError (unmarshalError e))
    | .ok req => writeResult writeError encode contentType (handler ctx (some req))

-- The proto path reports a body that does not decode without the decoder's error.
def serveHTTPWithProto (W : ProtoWire Msg Wire) :
    SignalHandler Ctx Msg → Ctx → Except String (Body Wire) → Outcome (HTTPResponse Wire) :=
  serveHTTPWith (unmarshalProtoBody W)
    (fun _ => { code := Code.invalidArgument, message := "Unable to unmarshal request body" })
    errorProto (protoBody W) "application/x-protobuf"

def serveHTTPWithJSON (W : ProtoWire Msg Wire) (P : ProtoJSON Msg) (goFloat : Number → Option Number) :
    SignalHandler Ctx Msg → Ctx → Except String (Body Wire) → Outcome (HTTPResponse Wire) :=
  serveHTTPWith (unmarshalJSONBody W P goFloat) (withReason Code.invalidArgument "Unable to unmarshal request body")
    errorJSON (jsonBody P goFloat) "application/json"

-- `proxyHandler.ServeHTTP` around a signal's Export.
def proxyServeHTTP (W : ProtoWire Msg Wire) (P : ProtoJSON Msg) (goFloat : Number → Option Number)
    (handler : SignalHandler Ctx Msg) (ctx : Ctx) (r : HTTPRequest Wire) : Outcome (HTTPResponse Wire) :=
  if r.method ≠ "POST" then .returned (.httpError 405 "Method Not Allowed")
  else if r.contentType = "application/x-protobuf" then serveHTTPWithProto W handler ctx r.body
  else if r.contentType = "application/json" then serveHTTPWithJSON W P goFloat handler ctx r.body
  else .returned (.httpError 415 "Unsupported Media Type")

theorem serveHTTPWith_ok {decode : Body Wire → Except String Msg} {body : Body Wire} {m : Msg}
    (h : decode body = .ok m) (unmarshalError : String → Status) (writeError : Status → HTTPResponse Wire)
    (encode : Option Msg → Except String (Body Wire)) (contentType : String) (handler : SignalHandler Ctx Msg)
    (ctx : Ctx) :
    serveHTTPWith decode unmarshalError writeError encode contentType handler ctx (.ok body) =
      writeResult writeError encode contentType (handler ctx (some m)) := by
  rw [serveHTTPWith, h]

-- A POST of a body that decodes calls the handler with the decoded request, in the form
-- its content type names.
theorem proxyServeHTTP_protobuf (W : ProtoWire Msg Wire) (P : ProtoJSON Msg) (goFloat : Number → Option Number)
    (handler : SignalHandler Ctx Msg) (ctx : Ctx) (path : String) {body : Body Wire} {m : Msg}
    (h : unmarshalProtoBody W body = .ok m) :
    proxyServeHTTP W P goFloat handler ctx ⟨"POST", path, "application/x-protobuf", .ok body⟩ =
      writeResult errorProto (protoBody W) "application/x-protobuf" (handler ctx (some m)) := by
  rw [proxyServeHTTP, if_neg (not_not_intro rfl), if_pos rfl]
  exact serveHTTPWith_ok h _ _ _ _ handler ctx

theorem proxyServeHTTP_json (W : ProtoWire Msg Wire) (P : ProtoJSON Msg) (goFloat : Number → Option Number)
    (handler : SignalHandler Ctx Msg) (ctx : Ctx) (path : String) {body : Body Wire} {m : Msg}
    (h : unmarshalJSONBody W P goFloat body = .ok m) :
    proxyServeHTTP W P goFloat handler ctx ⟨"POST", path, "application/json", .ok body⟩ =
      writeResult errorJSON (jsonBody P goFloat) "application/json" (handler ctx (some m)) := by
  rw [proxyServeHTTP, if_neg (not_not_intro rfl), if_neg (show "application/json" ≠ "application/x-protobuf" by decide),
    if_pos rfl]
  exact serveHTTPWith_ok h _ _ _ _ handler ctx

-- A 200 is written only for a handler that returned no error, with a response that marshals.
theorem writeResult_ok {writeError : Status → HTTPResponse Wire} {encode : Option Msg → Except String (Body Wire)}
    {contentType ct : String} {o : Outcome (Option Msg × Option GoError)} {b : Body Wire}
    (hw : ∀ st, writeError st ≠ .ok ct b) (h : writeResult writeError encode contentType o = .returned (.ok ct b)) :
    ∃ resp, o = .returned (resp, none) ∧ encode resp = .ok b ∧ contentType = ct := by
  match o, h with
  | .returned (_, some (.status st)), h => exact absurd (Outcome.returned.inj h) (hw st)
  | .returned (_, some (.plain text)), h => exact absurd (Outcome.returned.inj h) (hw _)
  | .returned (resp, none), h =>
    simp only [writeResult] at h
    split at h
    · exact absurd (Outcome.returned.inj h) (hw _)
    · next body he =>
      cases h
      exact ⟨resp, rfl, he, rfl⟩

-- A 200 from a serving path: the body was read and decoded, and the handler accepted the
-- request with a response that marshals.
theorem serveHTTPWith_eq_ok {decode : Body Wire → Except String Msg} {unmarshalError : String → Status}
    {writeError : Status → HTTPResponse Wire} {encode : Option Msg → Except String (Body Wire)}
    {contentType ct : String} {handler : SignalHandler Ctx Msg} {ctx : Ctx} {body : Except String (Body Wire)}
    {b : Body Wire} (hw : ∀ st, writeError st ≠ .ok ct b)
    (h : serveHTTPWith decode unmarshalError writeError encode contentType handler ctx body = .returned (.ok ct b)) :
    ∃ bytes m resp, body = .ok bytes ∧ decode bytes = .ok m ∧ handler ctx (some m) = .returned (resp, none) ∧
      encode resp = .ok b ∧ contentType = ct := by
  match body, h with
  | .error _, h => exact absurd (Outcome.returned.inj h) (hw _)
  | .ok bytes, h =>
    simp only [serveHTTPWith] at h
    split at h
    · exact absurd (Outcome.returned.inj h) (hw _)
    · next m hd =>
      obtain ⟨resp, ho, hb, hc⟩ := writeResult_ok hw h
      exact ⟨bytes, m, resp, rfl, hd, ho, hb, hc⟩

-- The proxy answers a 200 only to a POST whose body it read, in the form its content type
-- names, as a request the handler then accepted.
theorem proxyServeHTTP_ok {W : ProtoWire Msg Wire} {P : ProtoJSON Msg} {goFloat : Number → Option Number}
    {handler : SignalHandler Ctx Msg} {ctx : Ctx} {r : HTTPRequest Wire} {ct : String} {b : Body Wire}
    (h : proxyServeHTTP W P goFloat handler ctx r = .returned (.ok ct b)) :
    r.method = "POST" ∧ r.contentType = ct ∧ ∃ body m resp, r.body = .ok body ∧
      handler ctx (some m) = .returned (resp, none) ∧
      ((ct = "application/x-protobuf" ∧ unmarshalProtoBody W body = .ok m ∧ protoBody W resp = .ok b) ∨
        (ct = "application/json" ∧ unmarshalJSONBody W P goFloat body = .ok m ∧ jsonBody P goFloat resp = .ok b)) := by
  unfold proxyServeHTTP at h
  split_ifs at h with hm hp hj
  · cases h
  · obtain ⟨body, m, resp, hr, hd, ho, hb, rfl⟩ := serveHTTPWith_eq_ok (fun _ => HTTPResponse.noConfusion) h
    exact ⟨not_not.mp hm, hp, body, m, resp, hr, ho, .inl ⟨rfl, hd, hb⟩⟩
  · obtain ⟨body, m, resp, hr, hd, ho, hb, rfl⟩ := serveHTTPWith_eq_ok (fun _ => HTTPResponse.noConfusion) h
    exact ⟨not_not.mp hm, hj, body, m, resp, hr, ho, .inr ⟨rfl, hd, hb⟩⟩
  · cases h

theorem writeResult_ne_redirect {writeError : Status → HTTPResponse Wire} {code : Nat} {location : String}
    (hw : ∀ st, writeError st ≠ .redirect code location) (encode : Option Msg → Except String (Body Wire))
    (contentType : String) (o : Outcome (Option Msg × Option GoError)) :
    writeResult writeError encode contentType o ≠ .returned (.redirect code location) := by
  intro h
  match o, h with
  | .panicked _, h => cases h
  | .returned (_, some (.status st)), h => exact hw st (Outcome.returned.inj h)
  | .returned (_, some (.plain _)), h => exact hw _ (Outcome.returned.inj h)
  | .returned (resp, none), h =>
    simp only [writeResult] at h
    split at h
    · exact hw _ (Outcome.returned.inj h)
    · cases h

-- The proxy never redirects.
theorem proxyServeHTTP_ne_redirect (W : ProtoWire Msg Wire) (P : ProtoJSON Msg) (goFloat : Number → Option Number)
    (handler : SignalHandler Ctx Msg) (ctx : Ctx) (r : HTTPRequest Wire) (code : Nat) (location : String) :
    proxyServeHTTP W P goFloat handler ctx r ≠ .returned (.redirect code location) := by
  have hw : ∀ {writeError : Status → HTTPResponse Wire}, (∀ st, writeError st ≠ .redirect code location) →
      ∀ decode unmarshalError encode contentType body,
      serveHTTPWith decode unmarshalError writeError encode contentType handler ctx body ≠
        .returned (.redirect code location) := by
    intro writeError hw decode unmarshalError encode contentType body h
    match body, h with
    | .error _, h => exact hw _ (Outcome.returned.inj h)
    | .ok b, h =>
      simp only [serveHTTPWith] at h
      split at h
      · exact hw _ (Outcome.returned.inj h)
      · exact writeResult_ne_redirect hw encode contentType _ h
  unfold proxyServeHTTP
  split_ifs
  · exact fun h => HTTPResponse.noConfusion (Outcome.returned.inj h)
  · exact hw (fun _ => HTTPResponse.noConfusion) _ _ _ _ _
  · exact hw (fun _ => HTTPResponse.noConfusion) _ _ _ _ _
  · exact fun h => HTTPResponse.noConfusion (Outcome.returned.inj h)

end Proxy

-- The signal whose pattern `httpMux.Handler` finds for a cleaned path: patterns without a
-- trailing slash match their path exactly.
def pathSignal (path : String) : Option Signal :=
  [Signal.traces, .metrics, .logs].find? (·.httpPath = path)

@[simp] theorem pathSignal_httpPath (s : Signal) : pathSignal s.httpPath = some s := by
  cases s <;> rfl

theorem httpPath_of_pathSignal {path : String} {s : Signal} (h : pathSignal path = some s) : s.httpPath = path := by
  unfold pathSignal at h
  simpa using List.find?_some h

section Mux

variable {Ctx Msg Wire : Type}

-- The answer to a path no entry registered, in the form the content type asks for.
def notFound (contentType : String) : HTTPResponse Wire :=
  let st : Status := { code := Code.notFound, message := "no handler registered for path" }
  if contentType = "application/x-protobuf" then errorProto st
  else if contentType = "application/json" then errorJSON st
  else .httpError 404 "Not Found"

-- `ServerMux.ServeHTTP`: an entry's pattern exists once the entry does, and the entry's
-- handler is the proxy around its Export. `httpMux.Handler` matches the cleaned path, and
-- answers a path that cleans to a pattern but is not clean with a redirect to the clean one.
-- The request headers reach the handler's context as incoming metadata.
def ServerMux.ServeHTTP (mux : ServerMux Ctx Msg) (W : ProtoWire Msg Wire) (P : ProtoJSON Msg)
    (goFloat : Number → Option Number) (ctx : Ctx) (r : HTTPRequest Wire) : Outcome (HTTPResponse Wire) :=
  match (pathSignal (cleanPath r.path)).bind mux.signalExport with
  | some exp =>
    if cleanPath r.path = r.path then proxyServeHTTP W P goFloat exp ctx r
    else .returned (.redirect 307 (cleanPath r.path))
  | none => .returned (notFound r.contentType)

-- The Export method the gRPC server `Register` sets up calls: grpc-go reads the request
-- with `proto.Unmarshal`, and answers a service that was not registered as unimplemented.
def ServerMux.serveGRPC (mux : ServerMux Ctx Msg) (W : ProtoWire Msg Wire) (s : Signal) (ctx : Ctx)
    (wire : Wire) : Outcome (Option Msg × Option GoError) :=
  match mux.signalExport s with
  | none => .returned (none, some (statusError Code.unimplemented ("unknown service " ++ s.serviceName)))
  | some exp =>
    match W.unmarshal wire with
    | .error e => .returned (none, some (statusError Code.internal ("grpc: error unmarshalling request: " ++ e)))
    | .ok m => exp ctx (some m)

theorem ServerMux.ServeHTTP_httpPath (mux : ServerMux Ctx Msg) (W : ProtoWire Msg Wire) (P : ProtoJSON Msg)
    (goFloat : Number → Option Number) (ctx : Ctx) (s : Signal) (method contentType : String)
    (body : Except String (Body Wire)) :
    mux.ServeHTTP W P goFloat ctx ⟨method, s.httpPath, contentType, body⟩ =
      match mux.signalExport s with
      | some exp => proxyServeHTTP W P goFloat exp ctx ⟨method, s.httpPath, contentType, body⟩
      | none => .returned (notFound contentType) := by
  simp only [ServerMux.ServeHTTP, cleanPath_httpPath, pathSignal_httpPath, Option.some_bind, if_true]

-- A path that cleans to a signal's path, but is not it, is sent there.
theorem ServerMux.ServeHTTP_redirect {mux : ServerMux Ctx Msg} (W : ProtoWire Msg Wire) (P : ProtoJSON Msg)
    (goFloat : Number → Option Number) (ctx : Ctx) {r : HTTPRequest Wire} {s : Signal} {exp : SignalHandler Ctx Msg}
    (hx : mux.signalExport s = some exp) (hc : cleanPath r.path = s.httpPath) (hne : r.path ≠ s.httpPath) :
    mux.ServeHTTP W P goFloat ctx r = .returned (.redirect 307 s.httpPath) := by
  simp only [ServerMux.ServeHTTP, hc, pathSignal_httpPath, Option.some_bind, hx, if_neg (Ne.symm hne)]

theorem notFound_ne_ok (contentType ct : String) (b : Body Wire) : notFound contentType ≠ .ok ct b := by
  unfold notFound errorProto errorJSON
  split_ifs <;> exact HTTPResponse.noConfusion

end Mux

end OtlpHelper.Server
