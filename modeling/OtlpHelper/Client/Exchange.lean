import OtlpHelper.Client.Upload
import OtlpHelper.Server.Proxy

-- What an upload returns once its request went out: the end of `upload<Signal>WithHTTP`,
-- which reads the HTTP response, and of `upload<Signal>WithGRPC`, which reads the reply.
namespace OtlpHelper.Client

open Codec Server

-- The `partial_success` of an export response: how many items the server rejected
-- (`rejected_spans`, `rejected_data_points` or `rejected_log_records`) and its message.
structure PartialSuccess where
  rejected : Int
  errorMessage : String
deriving DecidableEq, Repr

-- `Error()` of `UploadTracesPartialSuccessError` and its siblings; the getters of a nil
-- `partial_success` return zero values.
def partialSuccessErrorText (noun : String) (ps : Option PartialSuccess) : String :=
  let ps := ps.getD ⟨0, ""⟩
  "failed to export " ++ toString ps.rejected ++ " " ++ noun ++ ": " ++ ps.errorMessage

def UploadTracesPartialSuccessError.Error : Option PartialSuccess → String :=
  partialSuccessErrorText "spans"

def UploadMetricsPartialSuccessError.Error : Option PartialSuccess → String :=
  partialSuccessErrorText "metrics"

def UploadLogsPartialSuccessError.Error : Option PartialSuccess → String :=
  partialSuccessErrorText "logs"

-- An upload's error once the request went out: the `*Upload<Signal>PartialSuccessError`
-- carrying the response, the RPC's error as it is, or an error `fmt.Errorf` made, by its text.
inductive UploadError (Resp : Type) where
  | partialSuccess (resp : Resp)
  | rpc (err : GoError)
  | failed (text : String)
  | notStarted
deriving DecidableEq, Repr

section Read

variable {Resp Wire : Type} (partialSuccess : Resp → Option PartialSuccess)

-- `respData.PartialSuccess != nil`: the response is returned inside the error.
def checkPartialSuccess (resp : Resp) : Option (UploadError Resp) :=
  if (partialSuccess resp).isSome then some (.partialSuccess resp) else none

-- `protojson.Unmarshal` of a body into a new response; wire bytes are read as a JSON text
-- first.
def protojsonBody (W : ProtoWire Resp Wire) (P : ProtoJSON Resp) : Body Wire → Except String Resp
  | .json text => P.unmarshal text
  | .binary bytes =>
    match W.parseText bytes with
    | .error e => .error e
    | .ok text => P.unmarshal text

-- One case of the switch on the response's Content-Type, once its decoder ran.
def decodeResponse : Except String Resp → Option (UploadError Resp)
  | .error e => some (.failed ("failed to unmarshal response: " ++ e))
  | .ok resp => checkPartialSuccess partialSuccess resp

-- The end of `uploadTracesWithHTTP` and its siblings, from what `client.Do` returned.
def readResponse (W : ProtoWire Resp Wire) (P : ProtoJSON Resp) :
    Except String (Received Wire) → Option (UploadError Resp)
  | .error e => some (.failed ("failed to send request: " ++ e))
  | .ok r =>
    if r.statusCode ≠ 200 then some (.failed ("unexpected status code: " ++ toString r.statusCode))
    else if r.contentType = "application/x-protobuf" then
      decodeResponse partialSuccess (unmarshalProtoBody W r.body)
    else if r.contentType = "application/json" then decodeResponse partialSuccess (protojsonBody W P r.body)
    else some (.failed ("unexpected content type: " ++ r.contentType))

-- The end of `uploadTracesWithGRPC` and its siblings, from what `Export` returned: an error
-- whose code is not OK is returned as it is.
def readReply : Option Resp × Option GoError → Option (UploadError Resp)
  | (resp, err) =>
    if err.isSome && codeOf err ≠ Code.ok then err.map .rpc
    else resp.bind (checkPartialSuccess partialSuccess)

-- `uploadTracesWithHTTP` and its siblings whole: build the request, post it with `send`,
-- which is `client.Do`, and read the response. Request and response have their own message
-- types.
def exchangeWithHTTP {Req : Type} (W : ProtoWire Req Wire) (P : ProtoJSON Req) (WR : ProtoWire Resp Wire)
    (PR : ProtoJSON Resp) (so : SignalOptions) (send : ClientRequest Wire → Except String (Received Wire))
    (data : Req) : Outcome (Option (UploadError Resp)) :=
  match uploadWithHTTP W P so data with
  | .panicked r => .panicked r
  | .returned (.error e) => .returned (some (.failed e))
  | .returned (.ok req) => .returned (readResponse partialSuccess WR PR (send req))

-- `upload<Signal>WithGRPC` from the RPC on: `invoke` is the generated client's `Export`, which
-- sends `proto.Marshal` of the request over the connection; grpc-go fails a request it
-- cannot marshal with `Internal` before sending it.
def exchangeWithGRPC {Req : Type} (W : ProtoWire Req Wire)
    (invoke : Wire → Outcome (Option Resp × Option GoError)) (data : Req) : Outcome (Option (UploadError Resp)) :=
  match W.Marshal (some data) with
  | .error e => .returned (some (.rpc (statusError Code.internal ("grpc: error while marshaling: " ++ e))))
  | .ok wire =>
    match invoke wire with
    | .returned reply => .returned (readReply partialSuccess reply)
    | .panicked r => .panicked r

-- `upload<Signal>WithGRPC` whole: the connection `uploadWithGRPC` looks up, then the RPC over
-- it, `invoke conn`.
def uploadWithGRPCExchange {Req : Type} (sha512Hex : String → String) (W : ProtoWire Req Wire)
    (invoke : Nat → Wire → Outcome (Option Resp × Option GoError)) (s : Signal) (c : Client) (data : Req) :
    Outcome (Option (UploadError Resp)) :=
  match uploadWithGRPC sha512Hex s c with
  | .panicked r => .panicked r
  | .returned (_, .sent conn) => exchangeWithGRPC partialSuccess W (invoke conn) data
  | .returned _ => .returned (some .notStarted)

-- On a client whose connection for the signal exists, the upload is the RPC over it.
theorem uploadWithGRPCExchange_started {Req : Type} {sha512Hex : String → String} {W : ProtoWire Req Wire}
    (invoke : Nat → Wire → Outcome (Option Resp × Option GoError)) {s : Signal} {c : Client} {key : String}
    {conn : Nat} (hk : connKey sha512Hex (c.o.signal s) = some key) (hc : c.conns.lookup key = some conn)
    (data : Req) :
    uploadWithGRPCExchange partialSuccess sha512Hex W invoke s c data =
      exchangeWithGRPC partialSuccess W (invoke conn) data := by
  unfold connKey at hk
  unfold uploadWithGRPCExchange uploadWithGRPC
  split at hk
  · next info hi =>
    cases hk
    rw [hi]
    dsimp only
    rw [hc]
  · cases hk

-- What each response means to the client.

-- A response other than 200 is reported by its status code alone.
theorem readResponse_status {W : ProtoWire Resp Wire} {P : ProtoJSON Resp} {r : Received Wire}
    (h : r.statusCode ≠ 200) :
    readResponse partialSuccess W P (.ok r) =
      some (.failed ("unexpected status code: " ++ toString r.statusCode)) :=
  if_pos h

theorem readResponse_protobuf (W : ProtoWire Resp Wire) (P : ProtoJSON Resp) (b : Body Wire) :
    readResponse partialSuccess W P (.ok ⟨200, "application/x-protobuf", b⟩) =
      decodeResponse partialSuccess (unmarshalProtoBody W b) := by
  simp [readResponse]

theorem readResponse_json (W : ProtoWire Resp Wire) (P : ProtoJSON Resp) (b : Body Wire) :
    readResponse partialSuccess W P (.ok ⟨200, "application/json", b⟩) =
      decodeResponse partialSuccess (protojsonBody W P b) := by
  simp only [readResponse, ne_eq, not_true_eq_false, if_false]
  rw [if_neg (by decide)]
  rfl

-- A decoded body reports nothing only when it decoded and carries no partial success.
theorem decodeResponse_eq_none {d : Except String Resp} (h : decodeResponse partialSuccess d = none) :
    ∃ resp, d = .ok resp ∧ partialSuccess resp = none := by
  cases d with
  | error e => cases h
  | ok resp => exact ⟨resp, rfl, by simpa [decodeResponse, checkPartialSuccess] using h⟩

-- An upload over HTTP reports success only for a 200 whose Content-Type the client reads,
-- whose body decodes, and whose response carries no partial success.
theorem readResponse_eq_none {W : ProtoWire Resp Wire} {P : ProtoJSON Resp} {x : Except String (Received Wire)}
    (h : readResponse partialSuccess W P x = none) :
    ∃ r resp, x = .ok r ∧ r.statusCode = 200 ∧
      ((r.contentType = "application/x-protobuf" ∧ unmarshalProtoBody W r.body = .ok resp) ∨
        (r.contentType = "application/json" ∧ protojsonBody W P r.body = .ok resp)) ∧
      partialSuccess resp = none := by
  rcases x with e | r
  · cases h
  · simp only [readResponse] at h
    split_ifs at h with hs hp hj <;> obtain ⟨resp, hd, hn⟩ := decodeResponse_eq_none partialSuccess h
    · exact ⟨r, resp, rfl, not_not.mp hs, .inl ⟨hp, hd⟩, hn⟩
    · exact ⟨r, resp, rfl, not_not.mp hs, .inr ⟨hj, hd⟩, hn⟩

end Read

end OtlpHelper.Client
