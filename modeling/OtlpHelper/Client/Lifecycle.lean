import OtlpHelper.Client.Env
import OtlpHelper.Client.Stdlib

namespace OtlpHelper.Client

-- The `grpc.DialOption`s `buildGRPCConnectionInfo` passes.
inductive DialOption where
  | userAgent (ua : String)
  | insecure
  | tls
  | gzip
deriving DecidableEq, Repr

-- What `grpcConnectionInfo` returns: the dial target, the dial options, and the key.
structure ConnectionInfo where
  target : String
  dialOptions : List DialOption
  connHash : String
deriving DecidableEq, Repr

def SignalOptions.isGRPCProtocol (so : SignalOptions) : Bool := so.protocol = "grpc"

-- The bytes `buildGRPCConnectionInfo` writes to the hash, in the order it writes them.
def connectionBytes (u : URL) (userAgent : String) (gzip : Bool) : String :=
  u.host ++ userAgent ++ (if u.scheme ≠ "https" then "insecure" else "tls") ++
    (if gzip then "gzip" else "")

def dialOptions (u : URL) (userAgent : String) (gzip : Bool) : List DialOption :=
  [.userAgent userAgent, if u.scheme ≠ "https" then .insecure else .tls] ++
    (if gzip then [.gzip] else [])

-- `buildGRPCConnectionInfo`; `sha512Hex` is `%x` of the SHA-512 sum of the bytes written.
-- `grpcConnectionInfo` caches the result in the options, which never change after `build`.
def buildGRPCConnectionInfo (sha512Hex : String → String) (so : SignalOptions) :
    Outcome ConnectionInfo :=
  match so.endpoint, so.gzip with
  | none, _ => .panicked nilDereference
  | some _, none => .panicked nilDereference
  | some u, some gzip =>
    .returned ⟨u.host, dialOptions u so.userAgent gzip, sha512Hex (connectionBytes u so.userAgent gzip)⟩

-- The connection key of a signal, when computing it does not panic.
def connKey (sha512Hex : String → String) (so : SignalOptions) : Option String :=
  match buildGRPCConnectionInfo sha512Hex so with
  | .returned info => some info.connHash
  | .panicked _ => none

-- The errors the client's calls return; Go compares them by identity.
inductive CtxErr where
  | canceled
  | deadlineExceeded
deriving DecidableEq, Repr

inductive ClientError where
  | alreadyClosed
  | notStarted
  | ctx (e : CtxErr)
  | startFailed (s : Signal) (err : String)
deriving DecidableEq, Repr

def ClientError.message : ClientError → String
  | .alreadyClosed => "already closed"
  | .notStarted => "not started"
  | .ctx .canceled => "context canceled"
  | .ctx .deadlineExceeded => "context deadline exceeded"
  | .startFailed s err => "start " ++ s.signalType ++ " gRPC client: " ++ err

-- What the client's calls do besides returning: dial and close connections, cancel stop
-- contexts, and send uploads.
inductive Event where
  | dial (connHash target : String) (dialOptions : List DialOption) (conn : Nat)
  | close (conn : Nat)
  | cancel (ctx : Nat)
  | upload (s : Signal) (conn : Nat)
deriving DecidableEq, Repr

end OtlpHelper.Client

namespace OtlpHelper

-- `Client`: the built options and the three maps keyed by connection key, as association
-- lists. A connection and the stop context `startGRPC` creates with it share one id, drawn
-- from `fresh`; a `CancelFunc` is known by the context it cancels.
structure Client where
  o : Client.ClientOptions
  conns : List (String × Nat) := []
  stopContexts : List (String × Nat) := []
  stopFuncs : List (String × Nat) := []
  fresh : Nat := 0
  events : List Client.Event := []

end OtlpHelper

namespace OtlpHelper.Client

-- `m[k] = v` on a Go map.
def mapSet {α : Type} (m : List (String × α)) (k : String) (v : α) : List (String × α) :=
  (k, v) :: m.filter fun e => e.1 ≠ k

def NewClient (lib : Lib) (endpoint : String) (opts : List ClientOption) : GoResult Client :=
  newClientOptions lib endpoint opts >>= fun o => .ok { o }

-- Without an endpoint anywhere, an HTTP protocol makes `fillDefaults` call `JoinPath` on the
-- nil base endpoint: NewClient panics before it can report the missing endpoint.
theorem NewClient_httpWithoutEndpoint (lib : Lib) :
    NewClient lib "" [WithProtocol "http/json"] = .panic nilDereference ∧
    NewClient lib "" [WithProtocol "http/protobuf"] = .panic nilDereference :=
  ⟨rfl, rfl⟩

-- The entries `startGRPC` adds for a new connection under the key `info.connHash`.
def addConn (c : Client) (info : ConnectionInfo) : Client :=
  { c with
    stopContexts := mapSet c.stopContexts info.connHash c.fresh
    stopFuncs := mapSet c.stopFuncs info.connHash c.fresh
    conns := mapSet c.conns info.connHash c.fresh
    fresh := c.fresh + 1
    events := c.events ++ [.dial info.connHash info.target info.dialOptions c.fresh] }

section Calls

variable (sha512Hex : String → String)

-- `startGRPC`; `dial` is `grpc.NewClient`, which returns an error or a new connection.
def startGRPC (dial : String → List DialOption → Option String) (c : Client) (so : SignalOptions) :
    Outcome (Client × Option String) :=
  match buildGRPCConnectionInfo sha512Hex so with
  | .panicked r => .panicked r
  | .returned info =>
    if (c.conns.lookup info.connHash).isSome then .returned (c, none)
    else
      match dial info.target info.dialOptions with
      | some err => .returned (c, some err)
      | none => .returned (c.addConn info, none)

-- One of the three blocks of `Start`.
def startSignal (dial : String → List DialOption → Option String) (s : Signal) (c : Client) :
    Outcome (Client × Option ClientError) :=
  if (c.o.signal s).isGRPCProtocol then
    match startGRPC sha512Hex dial c (c.o.signal s) with
    | .returned (c', err) => .returned (c', err.map (.startFailed s))
    | .panicked r => .panicked r
  else .returned (c, none)

-- The blocks of `Start` in order; the first error returns.
def startSignals (dial : String → List DialOption → Option String) :
    List Signal → Client → Outcome (Client × Option ClientError)
  | [], c => .returned (c, none)
  | s :: rest, c =>
    match startSignal sha512Hex dial s c with
    | .returned (c', none) => startSignals dial rest c'
    | r => r

def Start (dial : String → List DialOption → Option String) (c : Client) :
    Outcome (Client × Option ClientError) :=
  startSignals sha512Hex dial [.traces, .metrics, .logs] c

-- The part of `Stop` after its `select`: close every connection and reset the maps.
def closeConns (c : Client) (err : Option ClientError) : Client × Option ClientError :=
  if c.conns.isEmpty then (c, some .alreadyClosed)
  else
    let closed : Client := { c with
      conns := []
      stopFuncs := []
      stopContexts := []
      events := c.events ++ c.conns.map fun e => .close e.2 }
    (closed, err)

-- `Stop`: `ctxErr` is `ctx.Err()`; when the context is done, `selectDone` says whether
-- `select` takes the `ctx.Done()` case, the only one that calls the `CancelFunc`s.
def Stop (ctxErr : Option CtxErr) (selectDone : Bool) (c : Client) : Client × Option ClientError :=
  let c := if ctxErr.isSome && selectDone then
      { c with events := c.events ++ c.stopFuncs.map (fun e => .cancel e.2) }
    else c
  closeConns c (ctxErr.map .ctx)

-- What an upload returns: an error, or that it went out over a connection or by HTTP.
-- The RPC's and the HTTP exchange's own results are not modelled.
inductive Reply where
  | result (err : Option ClientError)
  | sent (conn : Nat)
  | posted
deriving DecidableEq, Repr

-- `upload<Signal>WithGRPC`, up to the RPC.
def uploadWithGRPC (s : Signal) (c : Client) : Outcome (Client × Reply) :=
  match buildGRPCConnectionInfo sha512Hex (c.o.signal s) with
  | .panicked r => .panicked r
  | .returned info =>
    match c.conns.lookup info.connHash with
    | none => .returned (c, .result (some .notStarted))
    | some conn => .returned ({ c with events := c.events ++ [.upload s conn] }, .sent conn)

-- `Upload<Signal>`.
def Upload (s : Signal) (c : Client) : Outcome (Client × Reply) :=
  if (c.o.signal s).isGRPCProtocol then uploadWithGRPC sha512Hex s c else .returned (c, .posted)

inductive Call where
  | start (dial : String → List DialOption → Option String)
  | stop (ctxErr : Option CtxErr) (selectDone : Bool)
  | upload (s : Signal)

def step (c : Client) : Call → Outcome (Client × Reply)
  | .start dial =>
    match Start sha512Hex dial c with
    | .returned (c', err) => .returned (c', .result err)
    | .panicked r => .panicked r
  | .stop ctxErr selectDone => .returned ((Stop ctxErr selectDone c).1, .result (Stop ctxErr selectDone c).2)
  | .upload s => Upload sha512Hex s c

-- The clients a finite sequential run of calls reaches from one `NewClient` returned.
inductive Reachable (lib : Lib) : Client → Prop
  | new {endpoint : String} {opts : List ClientOption} {c : Client} :
      NewClient lib endpoint opts = .ok c → Reachable lib c
  | step {c c' : Client} {call : Call} {r : Reply} :
      Reachable lib c → c.step sha512Hex call = .returned (c', r) → Reachable lib c'

end Calls

end OtlpHelper.Client
