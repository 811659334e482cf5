import OtlpHelper.Client.Lifecycle
import OtlpHelper.Http
import OtlpHelper.Json.Codec

-- The request the client posts for an upload over HTTP.
namespace OtlpHelper.Client

open Codec

def SignalOptions.isHTTPProtocol (so : SignalOptions) : Bool := goHasPrefix so.protocol "http/"

def SignalOptions.httpContentType (so : SignalOptions) : String :=
  if !so.isHTTPProtocol then ""
  else if so.protocol = "http/json" then "application/json"
  else if so.protocol = "http/protobuf" then "application/x-protobuf"
  else ""

theorem SignalOptions.httpContentType_json {so : SignalOptions} (h : so.protocol = "http/json") :
    so.httpContentType = "application/json" := by
  simp only [httpContentType, isHTTPProtocol, h]
  decide

theorem SignalOptions.httpContentType_protobuf {so : SignalOptions} (h : so.protocol = "http/protobuf") :
    so.httpContentType = "application/x-protobuf" := by
  simp only [httpContentType, isHTTPProtocol, h]
  decide

-- The bytes a header key may hold: letters, digits and !#$%&'*+-.^_`|~ (the apostrophe is
-- character 39, the backquote 96).
def isTokenChar (c : Char) : Bool :=
  c.isAlphanum || ['!', '#', '$', '%', '&', '*', '+', '-', '.', '^', '_', '|', '~'].contains c ||
    c.toNat = 39 || c.toNat = 96

-- Letters upper case at the start and after a hyphen, lower case elsewhere.
def canonicalChars (upper : Bool) : List Char → List Char
  | [] => []
  | c :: cs =>
    let c := if upper then c.toUpper else c.toLower
    c :: canonicalChars (c == '-') cs

-- `textproto.CanonicalMIMEHeaderKey`, which `http.Header.Set` applies to its key: a key
-- holding a byte that may not stand in a header key is kept as it is.
def canonicalMIMEHeaderKey (s : String) : String :=
  if s.toList.all isTokenChar then String.mk (canonicalChars true s.toList) else s

example : canonicalMIMEHeaderKey "content-TYPE" = "Content-Type" := by decide

-- The Content-Type the posted request carries: `Header.Set` of the protocol's content type,
-- then of each custom header, in the order the map is iterated (here, its entries' order).
def requestContentType (so : SignalOptions) : String :=
  so.headers.foldl (fun ct e => if canonicalMIMEHeaderKey e.1 = "Content-Type" then e.2 else ct)
    so.httpContentType

-- Without a custom header under the key Content-Type, the request carries the protocol's.
theorem requestContentType_eq {so : SignalOptions}
    (h : ∀ e ∈ so.headers, canonicalMIMEHeaderKey e.1 ≠ "Content-Type") :
    requestContentType so = so.httpContentType := by
  unfold requestContentType
  generalize so.httpContentType = ct
  generalize so.headers = hs at h
  induction hs generalizing ct with
  | nil => rfl
  | cons e es ih =>
    rw [List.foldl_cons, if_neg (h e (.head _))]
    exact ih ct (fun e' he' => h e' (.tail _ he'))

section Upload

variable {Msg Wire : Type}

-- `uploadTracesWithHTTP` and its siblings up to `client.Do`: the request they post. The body
-- is `proto.Marshal` for the protobuf content type and `protojson.Marshal` otherwise, and
-- its error is returned wrapped. `endpoint.String()` of a nil endpoint panics;
-- `http.NewRequestWithContext` parses that text back, which gives the endpoint again.
def uploadWithHTTP (W : ProtoWire Msg Wire) (P : ProtoJSON Msg) (so : SignalOptions) (data : Msg) :
    Outcome (Except String (ClientRequest Wire)) :=
  let contentType := so.httpContentType
  let body := if contentType = "application/x-protobuf" then (W.Marshal (some data)).map Body.binary
    else (P.Marshal data).map Body.json
  match body with
  | .error e => .returned (.error ("failed to marshal body: " ++ e))
  | .ok body =>
    match so.endpoint with
    | none => .panicked nilDereference
    | some u => .returned (.ok { method := "POST", url := u, contentType := requestContentType so, body })

def uploadTracesWithHTTP (W : ProtoWire Msg Wire) (P : ProtoJSON Msg) (c : Client) :
    Msg → Outcome (Except String (ClientRequest Wire)) :=
  uploadWithHTTP W P c.o.traces

def uploadMetricsWithHTTP (W : ProtoWire Msg Wire) (P : ProtoJSON Msg) (c : Client) :
    Msg → Outcome (Except String (ClientRequest Wire)) :=
  uploadWithHTTP W P c.o.metrics

def uploadLogsWithHTTP (W : ProtoWire Msg Wire) (P : ProtoJSON Msg) (c : Client) :
    Msg → Outcome (Except String (ClientRequest Wire)) :=
  uploadWithHTTP W P c.o.logs

variable (W : ProtoWire Msg Wire) (P : ProtoJSON Msg) {so : SignalOptions} {u : URL} {data : Msg}

-- Under http/json the body is protojson's text of the request, as it is.
theorem uploadWithHTTP_json (hp : so.protocol = "http/json") (hu : so.endpoint = some u)
    (he : P.marshalError data = none) :
    uploadWithHTTP W P so data =
      .returned (.ok { method := "POST", url := u, contentType := requestContentType so,
                       body := .json (P.marshal data) }) := by
  simp only [uploadWithHTTP, SignalOptions.httpContentType_json hp, ProtoJSON.Marshal_of_none he, hu]
  rfl

theorem uploadWithHTTP_protobuf (hp : so.protocol = "http/protobuf") (hu : so.endpoint = some u)
    (he : W.marshalError data = none) :
    uploadWithHTTP W P so data =
      .returned (.ok { method := "POST", url := u, contentType := requestContentType so,
                       body := .binary (W.marshal (some data)) }) := by
  simp only [uploadWithHTTP, SignalOptions.httpContentType_protobuf hp, ProtoWire.Marshal_of_none he, hu]
  rfl

end Upload

end OtlpHelper.Client
