import OtlpHelper.Server.Proxy
import OtlpHelper.Client.Exchange
import OtlpHelper.Json.RoundTrip
import OtlpHelper.Client.Stdlib

-- An upload from the client to a mux, over each protocol the client allows: what the
-- signal's Export is called with.
namespace OtlpHelper.Transport

open GoJson Codec Client Server Convert Trace

-- The status grpc-go sends for a handler's error (`status.FromError`): its own, or `Unknown`
-- with its text.
def grpcStatus : GoError → Status
  | .status st => st
  | .plain text => { code := Code.unknown, message := text }

section Grpc

variable {Ctx Msg Wire : Type} {W : ProtoWire Msg Wire}

-- grpc-go between the server's method and the client's `Export`: an error reaches the
-- client as its status, a reply is marshalled and read into a new response, and a panic in
-- the method is not recovered: it stops the server.
def grpcCall (W : ProtoWire Msg Wire) :
    Outcome (Option Msg × Option GoError) → Outcome (Option Msg × Option GoError)
  | .panicked r => .panicked r
  | .returned (_, some err) => .returned (none, some (.status (grpcStatus err)))
  | .returned (resp, none) =>
    match W.Marshal resp with
    | .error e => .returned (none, some (statusError Code.internal ("grpc: error while marshaling: " ++ e)))
    | .ok wire =>
      match W.unmarshal wire with
      | .ok m => .returned (some m, none)
      | .error e =>
        .returned (none, some (statusError Code.internal ("grpc: failed to unmarshal the received message: " ++ e)))

-- What the client's `Export` call returns for the outcome of the server's method.
def grpcReply (partialSuccess : Msg → Option PartialSuccess) (W : ProtoWire Msg Wire)
    (o : Outcome (Option Msg × Option GoError)) : Outcome (Option (UploadError Msg)) :=
  match grpcCall W o with
  | .returned reply => .returned (readReply partialSuccess reply)
  | .panicked r => .panicked r

variable {mux : ServerMux Ctx Msg} {s : Signal} {exp : SignalHandler Ctx Msg}

-- Over gRPC the server reads `proto.Marshal` of the request back.
theorem serveGRPC_marshal (hW : W.Lawful) (hx : mux.signalExport s = some exp) (ctx : Ctx) {data : Msg}
    (he : W.marshalError data = none) (hd : W.nesting data ≤ recursionLimit) :
    mux.serveGRPC W s ctx (W.marshal (some data)) = exp ctx (some data) := by
  rw [ServerMux.serveGRPC, hx, hW data he hd]

-- A started client's gRPC upload is the client's reading of the Export's outcome on `data`.
theorem uploadWithGRPCExchange_serveGRPC (partialSuccess : Msg → Option PartialSuccess) (hW : W.Lawful)
    (hx : mux.signalExport s = some exp) {sha512Hex : String → String} {c : Client} {key : String} {conn : Nat}
    (hk : connKey sha512Hex (c.o.signal s) = some key) (hc : c.conns.lookup key = some conn) (ctx : Ctx)
    {data : Msg} (he : W.marshalError data = none) (hd : W.nesting data ≤ recursionLimit) :
    uploadWithGRPCExchange partialSuccess sha512Hex W (fun _ wire => grpcCall W (mux.serveGRPC W s ctx wire)) s c
        data = grpcReply partialSuccess W (exp ctx (some data)) := by
  rw [uploadWithGRPCExchange_started partialSuccess _ hk hc, exchangeWithGRPC, ProtoWire.Marshal_of_none he]
  dsimp only
  rw [serveGRPC_marshal hW hx ctx he hd]
  rfl

end Grpc

section Http

variable {Ctx Msg Wire : Type} {W : ProtoWire Msg Wire} {P : ProtoJSON Msg} {goFloat : Number → Option Number}
  {mux : ServerMux Ctx Msg} {s : Signal} {exp : SignalHandler Ctx Msg}

-- A request to an endpoint that serves the signal reaches the signal's proxy, directly or
-- after the mux's redirect to the clean path.
theorem clientDo_ServeHTTP (hx : mux.signalExport s = some exp) (E : ErrorBodies Wire) (closed : String)
    (ctx : Ctx) {req : ClientRequest Wire} (hu : req.url.ServesSignal s) :
    clientDo E closed (mux.ServeHTTP W P goFloat ctx) req =
      roundTrip E closed (proxyServeHTTP W P goFloat exp ctx ⟨req.method, s.httpPath, req.contentType, .ok req.body⟩) := by
  obtain ⟨hs, hh, hc⟩ := hu
  have hfinal : ∀ fuel, followRedirects E closed (mux.ServeHTTP W P goFloat ctx) req.url fuel
      ⟨req.method, s.httpPath, req.contentType, .ok req.body⟩ =
        roundTrip E closed (proxyServeHTTP W P goFloat exp ctx ⟨req.method, s.httpPath, req.contentType, .ok req.body⟩) :=
    fun _ => followRedirects_of_serve E closed _ (by rw [ServerMux.ServeHTTP_httpPath, hx])
      (proxyServeHTTP_ne_redirect W P goFloat exp ctx _)
  have hscheme : ¬ (req.url.scheme ≠ "http" ∧ req.url.scheme ≠ "https") := by
    rintro ⟨h1, h2⟩
    rcases hs with h | h
    exacts [h1 h, h2 h]
  rw [clientDo, if_neg hscheme, if_neg hh]
  by_cases hp : req.url.requestPath = s.httpPath
  · rw [ClientRequest.toServer, hp]
    exact hfinal 10
  · rw [followRedirects, ServerMux.ServeHTTP_redirect W P goFloat ctx hx hc hp]
    exact hfinal 9

variable {so : SignalOptions} {u : URL}

-- The request an HTTP upload posts to an endpoint that serves the signal reaches the
-- signal's proxy with the content type the protocol names.
theorem clientDo_uploadWithHTTP (hx : mux.signalExport s = some exp)
    (hh : ∀ e ∈ so.headers, canonicalMIMEHeaderKey e.1 ≠ "Content-Type") (hu : u.ServesSignal s)
    (E : ErrorBodies Wire) (closed : String) (ctx : Ctx) (body : Body Wire) :
    clientDo E closed (mux.ServeHTTP W P goFloat ctx)
        { method := "POST", url := u, contentType := requestContentType so, body } =
      roundTrip E closed (proxyServeHTTP W P goFloat exp ctx ⟨"POST", s.httpPath, so.httpContentType, .ok body⟩) := by
  rw [clientDo_ServeHTTP hx E closed ctx hu, requestContentType_eq hh]

end Http

section Delivery

variable {Ctx Msg Wire : Type} {W : ProtoWire Msg Wire} {P : ProtoJSON Msg}
  {goFloat : Number → Option Number} {mux : ServerMux Ctx Msg} {s : Signal} {exp : SignalHandler Ctx Msg}

end Delivery

-- How many messages a trace request nests: the request, its resource spans, their scope
-- spans and their spans.
def requestNesting (m : ExportTraceServiceRequest) : Nat :=
  1 + (m.resourceSpans.map fun rs => 1 + (rs.scopeSpans.map fun ss => if ss.spans = [] then 1 else 2).foldr max 0).foldr
    max 0

-- A wire format whose bytes are the message itself: it reads back what it writes.
def messageWire : ProtoWire ExportTraceServiceRequest ExportTraceServiceRequest where
  marshal m := m.getD {}
  marshalError _ := none
  nesting := requestNesting
  unmarshal m := .ok m
  parseText _ := .error "invalid character looking for beginning of value"
  unmarshalText _ := .error "proto: cannot parse invalid wire-format data"

theorem messageWire_lawful : messageWire.Lawful := fun _ _ _ => rfl

-- Error bodies for the wire whose bytes are a trace request: they carry nothing.
def emptyErrorBodies : ErrorBodies ExportTraceServiceRequest := ⟨fun _ => {}, fun _ => .object [], fun _ => {}⟩

-- A mux whose trace handler answers each request with the request itself.
def echoMux : ServerMux Unit ExportTraceServiceRequest :=
  ServerMux.run {} [.signalHandle .traces fun _ req => .returned (req, none)]

def echoExport : SignalHandler Unit ExportTraceServiceRequest :=
  Entry.signalExport .traces { h := some fun _ req => .returned (req, none) } []

-- Trace options for http/json to a collector at the default path.
def jsonTracesOptions : SignalOptions :=
  { protocol := "http/json", endpoint := some ⟨"http", "localhost:4318", "/v1/traces"⟩ }

def jsonTracesClient : Client := { o := { traces := jsonTracesOptions } }

-- Under http/json the client posts protojson's text: the ids of the canonical request are
-- base64, where OTLP/JSON writes them in hexadecimal.
theorem uploadTracesWithHTTP_canonicalRequest (W : ProtoWire ExportTraceServiceRequest Wire) :
    uploadTracesWithHTTP W requestJSON jsonTracesClient canonicalRequest =
      .returned (.ok
        { method := "POST", url := ⟨"http", "localhost:4318", "/v1/traces"⟩, contentType := "application/json",
          body := .json (.object [("resourceSpans", .array [.object [("scopeSpans", .array [.object
            [("spans", .array [.object [("traceId", .string "AAECAwQFBgcICQoLDA0ODw=="),
              ("spanId", .string "AAECAwQFBgc="), ("name", .string "span")]])]])]])]) }) :=
  rfl

end OtlpHelper.Transport
