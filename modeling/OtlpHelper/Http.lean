import OtlpHelper.Json.Value

-- The HTTP exchange between the client's uploads and the server's proxy handlers.
namespace OtlpHelper

-- A body: a JSON text, or protobuf wire bytes of type `Wire`.
inductive Body (Wire : Type) where
  | json (text : Json)
  | binary (bytes : Wire)

-- `proto.Marshal` and `proto.Unmarshal` of a message type. `none` is a typed nil pointer,
-- which marshals as the empty message; `marshalError m` is what stops `Marshal` (a string
-- field that is not UTF-8, in a message read from the wire), and `nesting m` counts the
-- messages on the longest path down `m`, itself included. A body read the other way than it
-- was written goes through `parseText`, what `json.Unmarshal` makes of wire bytes (a syntax
-- error, or the text they spell), and `unmarshalText`, what `proto.Unmarshal` makes of a
-- text's bytes.
structure ProtoWire (Msg Wire : Type) where
  marshal : Option Msg → Wire
  marshalError : Msg → Option String
  nesting : Msg → Nat
  unmarshal : Wire → Except String Msg
  parseText : Wire → Except String Json
  unmarshalText : Json → Except String Msg

def ProtoWire.Marshal {Msg Wire : Type} (W : ProtoWire Msg Wire) : Option Msg → Except String Wire
  | none => .ok (W.marshal none)
  | some m =>
    match W.marshalError m with
    | some e => .error e
    | none => .ok (W.marshal (some m))

theorem ProtoWire.Marshal_of_none {Msg Wire : Type} {W : ProtoWire Msg Wire} {m : Msg}
    (h : W.marshalError m = none) : W.Marshal (some m) = .ok (W.marshal (some m)) := by
  rw [ProtoWire.Marshal, h]

-- `proto.Unmarshal`'s default `RecursionLimit`: a message nesting deeper fails to read.
def recursionLimit : Nat := 10000

-- Protobuf's binary format reads back what it writes, up to the recursion limit.
def ProtoWire.Lawful {Msg Wire : Type} (W : ProtoWire Msg Wire) : Prop :=
  ∀ m, W.marshalError m = none → W.nesting m ≤ recursionLimit → W.unmarshal (W.marshal (some m)) = .ok m

-- `http.Request` as the handlers read it: the path the request line carries and what
-- `io.ReadAll(r.Body)` gives, the body or the error reading it stopped at. The other headers
-- reach the handler in its context.
structure HTTPRequest (Wire : Type) where
  method : String
  path : String
  contentType : String
  body : Except String (Body Wire)

-- What a handler writes: `http.Error`, `errorProto` or `errorJSON` with the HTTP status and
-- the gRPC status, a redirect, or a 200 with a body.
inductive HTTPResponse (Wire : Type) where
  | httpError (code : Nat) (text : String)
  | errorProto (code : Nat) (st : Status)
  | errorJSON (code : Nat) (st : Status)
  | redirect (code : Nat) (location : String)
  | ok (contentType : String) (body : Body Wire)

-- An HTTP response as `client.Do` returns it: the status code, the Content-Type header and
-- the body. Reading the body does not fail.
structure Received (Wire : Type) where
  statusCode : Nat
  contentType : String
  body : Body Wire

-- The bodies a handler writes besides a message's: `proto.Marshal` and `MarshalJSON` of a
-- status's proto, and the text of `http.Error`.
structure ErrorBodies (Wire : Type) where
  statusProto : Status → Wire
  statusJSON : Status → Json
  text : String → Wire

-- What the client receives for what a handler wrote: `http.Error` writes its text and a
-- newline as "text/plain; charset=utf-8", the status writers their content type; a redirect
-- of a POST has no body and no Content-Type.
def HTTPResponse.received {Wire : Type} (E : ErrorBodies Wire) : HTTPResponse Wire → Received Wire
  | .httpError code text => ⟨code, "text/plain; charset=utf-8", .binary (E.text (text ++ "\n"))⟩
  | .errorProto code st => ⟨code, "application/x-protobuf", .binary (E.statusProto st)⟩
  | .errorJSON code st => ⟨code, "application/json", .json (E.statusJSON st)⟩
  | .redirect code _ => ⟨code, "", .binary (E.text "")⟩
  | .ok contentType body => ⟨200, contentType, body⟩

-- `client.Do` against a server: net/http sends back what the handler wrote; it recovers a
-- handler's panic by closing the connection, which the client reads as the error `closed`.
def roundTrip {Wire : Type} (E : ErrorBodies Wire) (closed : String) :
    Outcome (HTTPResponse Wire) → Except String (Received Wire)
  | .returned resp => .ok (resp.received E)
  | .panicked _ => .error closed

-- `URL.String()`: `//` before a host, and `/` between a host and a relative path.
def URL.toString (u : URL) : String :=
  (if u.scheme = "" then "" else u.scheme ++ ":") ++
    (if u.scheme = "" ∧ u.host = "" then "" else if u.host = "" ∧ u.path = "" then "" else "//" ++ u.host) ++
    (if u.host ≠ "" ∧ u.path ≠ "" ∧ !goHasPrefix u.path "/" then "/" else "") ++ u.path

-- The path the server reads from the request line, `URL.RequestURI()` of the request's URL
-- parsed back from `String()`: a relative path under a host gains its `/`, and an empty
-- path is `/`.
def URL.requestPath (u : URL) : String :=
  if u.path = "" then "/" else if goHasPrefix u.path "/" then u.path else "/" ++ u.path

-- `strings.Split(p, "/")`, on characters.
def splitSlash : List Char → List (List Char)
  | [] => [[]]
  | c :: cs =>
    if c = '/' then [] :: splitSlash cs
    else match splitSlash cs with
      | [] => [[c]]
      | seg :: segs => (c :: seg) :: segs

-- `path.Clean`'s rules on the segments of a rooted path, kept on a stack: an empty or `.`
-- segment goes, and `..` takes the segment below it off (none at the root).
def cleanSegments (stack : List (List Char)) : List (List Char) → List (List Char)
  | [] => stack.reverse
  | seg :: segs =>
    cleanSegments (if seg = [] ∨ seg = ['.'] then stack else if seg = ['.', '.'] then stack.tail else seg :: stack)
      segs

-- `path.Clean` of a rooted path: its segments rejoined, `/` when none is left.
def pathClean (p : List Char) : List Char :=
  match cleanSegments [] (splitSlash p) with
  | [] => ['/']
  | segs => segs.foldr (fun seg acc => '/' :: seg ++ acc) []

-- `cleanPath` of net/http's ServeMux: a `/` put in front, `path.Clean`, and a trailing `/`
-- kept.
def cleanPath (p : String) : String :=
  if p = "" then "/"
  else
    let p := if goHasPrefix p "/" then p.toList else '/' :: p.toList
    let np := pathClean p
    String.mk (if p.getLast? = some '/' ∧ np ≠ ['/'] then np ++ ['/'] else np)

example : cleanPath "v1//traces/../traces" = "/v1/traces" := by decide

@[simp] theorem cleanPath_httpPath (s : Signal) : cleanPath s.httpPath = s.httpPath := by
  cases s <;> decide

-- An endpoint `client.Do` posts to (an http or https scheme, and a host) whose request path
-- the mux cleans to the signal's path.
def URL.ServesSignal (u : URL) (s : Signal) : Prop :=
  (u.scheme = "http" ∨ u.scheme = "https") ∧ u.host ≠ "" ∧ cleanPath u.requestPath = s.httpPath

instance (u : URL) (s : Signal) : Decidable (u.ServesSignal s) :=
  inferInstanceAs (Decidable (_ ∧ _ ∧ _))

-- A request as `http.NewRequestWithContext` builds it on the client, to a URL.
structure ClientRequest (Wire : Type) where
  method : String
  url : URL
  contentType : String
  body : Body Wire

-- What the server reads of it.
def ClientRequest.toServer {Wire : Type} (r : ClientRequest Wire) : HTTPRequest Wire :=
  ⟨r.method, r.url.requestPath, r.contentType, .ok r.body⟩

section Do

variable {Wire : Type} (E : ErrorBodies Wire) (closed : String)
  (serve : HTTPRequest Wire → Outcome (HTTPResponse Wire))

-- `url.Error` of a POST: the operation, the URL and the cause.
def postError (u : URL) (text : String) : String := "Post " ++ goQuote u.toString ++ ": " ++ text

-- The client follows a redirect with the same method and body (a 307 keeps both, and the
-- body is a `bytes.Reader`, which it can send again), at most ten times.
def followRedirects (u : URL) : Nat → HTTPRequest Wire → Except String (Received Wire)
  | fuel, r =>
    match serve r with
    | .returned (.redirect _ location) =>
      match fuel with
      | 0 => .error (postError { u with path := location } "stopped after 10 redirects")
      | n + 1 => followRedirects u n { r with path := location }
    | o => roundTrip E closed o

-- `client.Do`: net/http sends nothing to a URL whose scheme is not http or https, or that has
-- no host.
def clientDo (req : ClientRequest Wire) : Except String (Received Wire) :=
  if req.url.scheme ≠ "http" ∧ req.url.scheme ≠ "https" then
    .error (postError req.url ("unsupported protocol scheme " ++ goQuote req.url.scheme))
  else if req.url.host = "" then .error (postError req.url "http: no Host in request URL")
  else followRedirects E closed serve req.url 10 req.toServer

-- A server that does not redirect the request is asked once.
theorem followRedirects_of_serve {u : URL} {fuel : Nat} {r : HTTPRequest Wire} {o : Outcome (HTTPResponse Wire)}
    (h : serve r = o) (hr : ∀ code location, o ≠ .returned (.redirect code location)) :
    followRedirects E closed serve u fuel r = roundTrip E closed o := by
  cases fuel <;> (rw [followRedirects, h]; split <;> first | rfl | exact absurd rfl (hr _ _))

end Do

end OtlpHelper
