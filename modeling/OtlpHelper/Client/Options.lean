import OtlpHelper.Basic

namespace OtlpHelper.Client

-- An `*http.Client`, known by its identity.
structure HTTPClient where
  id : Nat
deriving DecidableEq, Repr

-- The library functions and the constants the options code calls but src/ does not hold.
structure Lib where
  urlParse : String → Except String URL
  joinPath : URL → String → URL
  parseDuration : String → Except String Int
  version : String
  goVersion : String
  defaultClient : HTTPClient

-- A Go `map[string]string`, as the list of its entries; `set` keeps keys unique.
abbrev StringMap := List (String × String)

def StringMap.set (m : StringMap) (k v : String) : StringMap :=
  if m.any (fun e => e.1 = k) then m.map (fun e => if e.1 = k then (k, v) else e) else m ++ [(k, v)]

namespace StringMap

theorem lookup_map_set (m : StringMap) (k v k' : String) :
    (m.map fun e => if e.1 = k then (k, v) else e).lookup k' =
      if k' = k then (m.lookup k').map fun _ => v else m.lookup k' := by
  induction m with
  | nil => split <;> rfl
  | cons e m ih =>
    obtain ⟨a, b⟩ := e
    simp only [List.map_cons]
    by_cases ha : a = k
    · subst ha
      rw [if_pos rfl]
      by_cases hk : k' = a
      · subst hk; simp [List.lookup_cons]
      · have : (k' == a) = false := by simpa using hk
        simp [List.lookup_cons, this, ih, hk]
    · rw [if_neg ha]
      by_cases hk : k' = k
      · subst hk
        have : (k' == a) = false := by simpa using Ne.symm ha
        simp [List.lookup_cons, this, ih]
      · simp [List.lookup_cons, ih, hk]

theorem lookup_isSome_of_any (m : StringMap) (k : String) (h : m.any (fun e => e.1 = k)) :
    (m.lookup k).isSome := by
  induction m with
  | nil => cases h
  | cons e m ih =>
    obtain ⟨a, b⟩ := e
    by_cases he : k = a
    · subst he; simp [List.lookup_cons]
    · have hb : (k == a) = false := by simpa using he
      simp only [List.any_cons, Bool.or_eq_true, decide_eq_true_eq] at h
      rw [List.lookup_cons, hb]
      exact ih (h.resolve_left (Ne.symm he))

theorem lookup_eq_none_of_not_any (m : StringMap) (k : String)
    (h : ¬ m.any (fun e => e.1 = k)) : m.lookup k = none := by
  induction m with
  | nil => rfl
  | cons e m ih =>
    obtain ⟨a, b⟩ := e
    simp only [List.any_cons, Bool.or_eq_true, decide_eq_true_eq, not_or] at h
    have hb : (k == a) = false := beq_false_of_ne fun h' => h.1 h'.symm
    rw [List.lookup_cons, hb]
    exact ih h.2

theorem lookup_set (m : StringMap) (k v k' : String) :
    (m.set k v).lookup k' = if k' = k then some v else m.lookup k' := by
  unfold set
  split
  · next h =>
    rw [lookup_map_set]
    split
    · next hk =>
      subst hk
      obtain ⟨x, hx⟩ := Option.isSome_iff_exists.mp (lookup_isSome_of_any m k' h)
      simp [hx]
    · rfl
  · next h =>
    have hn := lookup_eq_none_of_not_any m k h
    by_cases hk : k' = k
    · subst hk; simp [List.lookup_append, hn, List.lookup_cons]
    · have : (k' == k) = false := by simpa using hk
      simp [List.lookup_append, List.lookup_cons, hk, this]
end StringMap

-- The fields `clientOptions` and `clientSignalsOptions` share. Zero values stand for
-- "not set": `""`, `0`, `nil` (`none`), and the nil map (`[]`).
@[ext] structure Fields where
  endpoint : Option URL := none
  protocol : String := ""
  userAgent : String := ""
  headers : StringMap := []
  gzip : Option Bool := none
  exportTimeout : Int := 0
  httpClient : Option HTTPClient := none
deriving DecidableEq, Repr

-- `clientSignalsOptions`; the cached `target`, `connHash` and `dialOptions` are
-- recomputed by `grpcConnectionInfo` instead.
structure SignalOptions extends Fields where
  signalType : String := ""
deriving DecidableEq, Repr

-- `clientOptions` without its logger.
structure ClientOptions where
  base : Fields := {}
  traces : SignalOptions := {}
  metrics : SignalOptions := {}
  logs : SignalOptions := {}
deriving DecidableEq, Repr

-- Which fields a `With…` option writes: the shared ones, or one signal's.
inductive Scope where
  | base
  | signal (s : Signal)
deriving DecidableEq, Repr

namespace ClientOptions

def signal (o : ClientOptions) : Signal → SignalOptions
  | .traces => o.traces
  | .metrics => o.metrics
  | .logs => o.logs

def setSignal (o : ClientOptions) (so : SignalOptions) : Signal → ClientOptions
  | .traces => { o with traces := so }
  | .metrics => { o with metrics := so }
  | .logs => { o with logs := so }

def fields (o : ClientOptions) : Scope → Fields
  | .base => o.base
  | .signal s => (o.signal s).toFields

def modify (o : ClientOptions) (f : Fields → Fields) : Scope → ClientOptions
  | .base => { o with base := f o.base }
  | .signal s => o.setSignal { o.signal s with toFields := f (o.signal s).toFields } s

-- Modifying one scope's fields leaves the other scopes' fields alone.
theorem fields_modify (o : ClientOptions) (f : Fields → Fields) (sc sc' : Scope) :
    (o.modify f sc).fields sc' = if sc = sc' then f (o.fields sc) else o.fields sc' := by
  rcases sc with _ | ⟨_ | _ | _⟩ <;> rcases sc' with _ | ⟨_ | _ | _⟩ <;> rfl

theorem fields_empty (sc : Scope) : ({} : ClientOptions).fields sc = {} := by
  rcases sc with _ | ⟨_ | _ | _⟩ <;> rfl

end ClientOptions

-- `ClientOption`: a function that updates the options or fails.
abbrev ClientOption := ClientOptions → GoResult ClientOptions

def allowedProtocols : List String := ["grpc", "http/json", "http/protobuf"]

-- The prefix each scope's messages carry: `"traces "` for `WithTracesProtocol`, and so on.
def Scope.label : Scope → String
  | .base => ""
  | .signal .traces => "traces "
  | .signal .metrics => "metrics "
  | .signal .logs => "logs "

-- The `With…` options that store their argument: one definition, written out below for
-- each member.
def withField (scope : Scope) (f : Fields → Fields) : ClientOption :=
  fun o => .ok (o.modify f scope)

def WithUserAgent (userAgent : String) : ClientOption :=
  withField .base fun f => { f with userAgent }
def WithTracesUserAgent (userAgent : String) : ClientOption :=
  withField (.signal .traces) fun f => { f with userAgent }
def WithMetricsUserAgent (userAgent : String) : ClientOption :=
  withField (.signal .metrics) fun f => { f with userAgent }
def WithLogsUserAgent (userAgent : String) : ClientOption :=
  withField (.signal .logs) fun f => { f with userAgent }

def WithGzip (gzip : Bool) : ClientOption :=
  withField .base fun f => { f with gzip := some gzip }
def WithTracesGzip (gzip : Bool) : ClientOption :=
  withField (.signal .traces) fun f => { f with gzip := some gzip }
def WithMetricsGzip (gzip : Bool) : ClientOption :=
  withField (.signal .metrics) fun f => { f with gzip := some gzip }
def WithLogsGzip (gzip : Bool) : ClientOption :=
  withField (.signal .logs) fun f => { f with gzip := some gzip }

def WithHeaders (headers : StringMap) : ClientOption :=
  withField .base fun f => { f with headers }
def WithTracesHeaders (headers : StringMap) : ClientOption :=
  withField (.signal .traces) fun f => { f with headers }
def WithMetricsHeaders (headers : StringMap) : ClientOption :=
  withField (.signal .metrics) fun f => { f with headers }
def WithLogsHeaders (headers : StringMap) : ClientOption :=
  withField (.signal .logs) fun f => { f with headers }

def WithExportTimeout (exportTimeout : Int) : ClientOption :=
  withField .base fun f => { f with exportTimeout }
def WithTracesExportTimeout (exportTimeout : Int) : ClientOption :=
  withField (.signal .traces) fun f => { f with exportTimeout }
def WithMetricsExportTimeout (exportTimeout : Int) : ClientOption :=
  withField (.signal .metrics) fun f => { f with exportTimeout }
def WithLogsExportTimeout (exportTimeout : Int) : ClientOption :=
  withField (.signal .logs) fun f => { f with exportTimeout }

def WithHTTPClient (httpClient : Option HTTPClient) : ClientOption :=
  withField .base fun f => { f with httpClient }
def WithTracesHTTPClient (httpClient : Option HTTPClient) : ClientOption :=
  withField (.signal .traces) fun f => { f with httpClient }
def WithMetricsHTTPClient (httpClient : Option HTTPClient) : ClientOption :=
  withField (.signal .metrics) fun f => { f with httpClient }
def WithLogsHTTPClient (httpClient : Option HTTPClient) : ClientOption :=
  withField (.signal .logs) fun f => { f with httpClient }

-- `WithProtocol` and its siblings check the value against `allowedProtocols` first.
def withProtocolAt (scope : Scope) (protocol : String) : ClientOption :=
  fun o =>
    if protocol ∈ allowedProtocols then withField scope (fun f => { f with protocol }) o
    else .error (scope.label ++ "protocol " ++ goQuote protocol ++ " is not allowed")

def WithProtocol : String → ClientOption := withProtocolAt .base
def WithTracesProtocol : String → ClientOption := withProtocolAt (.signal .traces)
def WithMetricsProtocol : String → ClientOption := withProtocolAt (.signal .metrics)
def WithLogsProtocol : String → ClientOption := withProtocolAt (.signal .logs)

-- `strings.Split` with a one-character separator.
def splitChars (sep : Char) : List Char → List (List Char)
  | [] => [[]]
  | c :: cs =>
    if c = sep then [] :: splitChars sep cs
    else match splitChars sep cs with
      | w :: ws => (c :: w) :: ws
      | [] => [[c]]

def goSplit (s : String) (sep : Char) : List String :=
  (splitChars sep s.toList).map String.mk

-- `strings.SplitN(s, sep, 2)` with a one-character separator.
def goSplitN2 (s : String) (sep : Char) : List String :=
  match s.toList.span (· ≠ sep) with
  | (before, _ :: after) => [String.mk before, String.mk after]
  | (_, []) => [s]

def parseHeadersString (headers : String) : GoResult StringMap :=
  (goSplit headers ',').foldlM (fun h part =>
    match goSplitN2 part '=' with
    | [k, v] => .ok (h.set k v)
    | _ => .error ("header " ++ goQuote part ++ " is invalid")) []

def withHeadersStringAt (withHeaders : StringMap → ClientOption) (headers : String) :
    ClientOption :=
  fun o => parseHeadersString headers >>= fun h => withHeaders h o

def WithHeadersString : String → ClientOption := withHeadersStringAt WithHeaders
def WithTracesHeadersString : String → ClientOption := withHeadersStringAt WithTracesHeaders
def WithMetricsHeadersString : String → ClientOption := withHeadersStringAt WithMetricsHeaders
def WithLogsHeadersString : String → ClientOption := withHeadersStringAt WithLogsHeaders

section Build

variable (lib : Lib)

def parseEndpoint (endpoint : String) : GoResult URL :=
  match lib.urlParse endpoint with
  | .error e => .error ("endpoint parse error: " ++ e)
  | .ok u =>
    if u.scheme = "" then .error "endpoint scheme is required"
    else if u.scheme ≠ "http" ∧ u.scheme ≠ "https" then
      .error ("endpoint scheme " ++ goQuote u.scheme ++ " is not allowed")
    else .ok u

def withEndpointAt (scope : Scope) (endpoint : String) : ClientOption :=
  fun o =>
    match parseEndpoint lib endpoint with
    | .ok u => withField scope (fun f => { f with endpoint := some u }) o
    | .error e => .error (scope.label ++ "endpoint parse error: " ++ e)
    | .panic r => .panic r

def WithEndpoint : String → ClientOption := withEndpointAt lib .base
def WithTracesEndpoint : String → ClientOption := withEndpointAt lib (.signal .traces)
def WithMetricsEndpoint : String → ClientOption := withEndpointAt lib (.signal .metrics)
def WithLogsEndpoint : String → ClientOption := withEndpointAt lib (.signal .logs)

def defaultUserAgent : String :=
  "go-otlp-helper/" ++ lib.version ++ " (github.com/mashiike/go-otlp-helper/otlp.Client) go/" ++
    lib.goVersion

-- Base headers fill the keys the signal's map does not have.
def mergeHeaders (base signal : StringMap) : StringMap :=
  base.foldl (fun h e => if (h.lookup e.1).isNone then h.set e.1 e.2 else h) signal

-- Key-wise, the signal's map overrides the base map.
theorem lookup_mergeHeaders (base m : StringMap) (k : String) :
    (mergeHeaders base m).lookup k = (m.lookup k).or (base.lookup k) := by
  induction base generalizing m with
  | nil => simp [mergeHeaders]
  | cons e base ih =>
    obtain ⟨a, b⟩ := e
    simp only [mergeHeaders, List.foldl_cons] at ih ⊢
    rw [ih]
    by_cases hk : k = a
    · subst hk
      cases hm : m.lookup k <;> simp [hm, StringMap.lookup_set, List.lookup_cons]
    · have hb : (k == a) = false := beq_false_of_ne hk
      split <;> simp [StringMap.lookup_set, hk, List.lookup_cons, hb]

theorem lookup_isSome_of_mem (l : StringMap) (e : String × String) (he : e ∈ l) :
    (l.lookup e.1).isSome :=
  StringMap.lookup_isSome_of_any l e.1 (List.any_eq_true.mpr ⟨e, he, by simp⟩)

theorem mergeHeaders_of_present (base m : StringMap) (h : ∀ e ∈ base, (m.lookup e.1).isSome) :
    mergeHeaders base m = m := by
  induction base with
  | nil => rfl
  | cons e base ih =>
    have he : (m.lookup e.1).isNone = false := by
      have := h e (List.mem_cons_self _ _)
      cases hm : m.lookup e.1 with
      | none => simp [hm] at this
      | some => rfl
    simp only [mergeHeaders, List.foldl_cons, he] at ih ⊢
    exact ih fun e' he' => h e' (List.mem_cons_of_mem _ he')

theorem mergeHeaders_idem (base m : StringMap) :
    mergeHeaders base (mergeHeaders base m) = mergeHeaders base m := by
  apply mergeHeaders_of_present
  intro e he
  rw [lookup_mergeHeaders]
  have := lookup_isSome_of_mem base e he
  cases m.lookup e.1 <;> simp_all

-- The endpoint `fillDefaults` gives a signal without its own.
def defaultEndpoint (base : Fields) (protocol signalType : String) : GoResult (Option URL) :=
  if goHasPrefix protocol "http/" then
    match base.endpoint with
    | some u => .ok (some (lib.joinPath u ("v1/" ++ signalType)))
    | none => .panic nilDereference
  else .ok base.endpoint

-- `clientSignalsOptions.fillDefaults`. `JoinPath` on a nil base endpoint dereferences
-- nil; the missing-endpoint message is built with the verb `%S`.
def fillDefaults (base : Fields) (so : SignalOptions) : GoResult SignalOptions :=
  let userAgent := if so.userAgent = "" then base.userAgent else so.userAgent
  let protocol := if so.protocol = "" then base.protocol else so.protocol
  if protocol ∉ allowedProtocols then .error ("protocol " ++ goQuote protocol ++ " is not allowed")
  else
    let endpoint : GoResult (Option URL) :=
      match so.endpoint with
      | some u => .ok (some u)
      | none => defaultEndpoint lib base protocol so.signalType
    endpoint >>= fun
      | none => .error ("%!S(string=" ++ so.signalType ++ ") endpoint is required")
      | some u => .ok { so with
          userAgent, protocol,
          gzip := so.gzip.or base.gzip,
          exportTimeout := if so.exportTimeout = 0 then base.exportTimeout else so.exportTimeout,
          httpClient := so.httpClient.or base.httpClient,
          endpoint := some u,
          headers := mergeHeaders base.headers so.headers }

-- The defaults `build` gives the shared fields before filling each signal.
def baseDefaults (f : Fields) : Fields :=
  { f with
    userAgent := if f.userAgent = "" then defaultUserAgent lib else f.userAgent,
    gzip := if f.gzip = none then some false else f.gzip,
    protocol := if f.protocol = "" then "grpc" else f.protocol,
    httpClient := if f.httpClient = none then some lib.defaultClient else f.httpClient }

def build (o : ClientOptions) : GoResult ClientOptions := do
  let base := baseDefaults lib o.base
  let traces ← fillDefaults lib base { o.traces with signalType := "traces" }
  let metrics ← fillDefaults lib base { o.metrics with signalType := "metrics" }
  let logs ← fillDefaults lib base { o.logs with signalType := "logs" }
  pure { base, traces, metrics, logs }

def apply (o : ClientOptions) (opts : List ClientOption) : GoResult ClientOptions :=
  opts.foldlM (fun o opt => opt o) o >>= build lib

-- Everything a successful `fillDefaults` returns, field by field.
theorem fillDefaults_eq_ok {base : Fields} {so so' : SignalOptions}
    (h : fillDefaults lib base so = .ok so') :
    let protocol := if so.protocol = "" then base.protocol else so.protocol
    protocol ∈ allowedProtocols ∧
    ∃ u, (match so.endpoint with
          | some u => (.ok (some u) : GoResult (Option URL))
          | none => defaultEndpoint lib base protocol so.signalType) = .ok (some u) ∧
      so' = { so with
        userAgent := if so.userAgent = "" then base.userAgent else so.userAgent,
        protocol,
        gzip := so.gzip.or base.gzip,
        exportTimeout := if so.exportTimeout = 0 then base.exportTimeout else so.exportTimeout,
        httpClient := so.httpClient.or base.httpClient,
        endpoint := some u,
        headers := mergeHeaders base.headers so.headers } := by
  unfold fillDefaults at h
  dsimp only at h
  by_cases hp : (if so.protocol = "" then base.protocol else so.protocol) ∈ allowedProtocols
  · rw [if_neg (not_not_intro hp)] at h
    refine ⟨hp, ?_⟩
    obtain ⟨e, he, h⟩ := GoResult.bind_eq_ok.mp h
    cases e with
    | none => cases h
    | some u => exact ⟨u, he, (GoResult.ok.inj h).symm⟩
  · rw [if_pos hp] at h
    cases h

private theorem ite_empty_idem {α : Type} [DecidableEq α] (x b z : α) :
    (if (if x = z then b else x) = z then b else if x = z then b else x) =
      if x = z then b else x := by
  by_cases hx : x = z
  · simp only [hx, if_true]; split <;> simp_all
  · simp [hx]

private theorem or_or_self {α : Type} (a b : Option α) : (a.or b).or b = a.or b := by
  cases a <;> cases b <;> rfl

-- Filling an already filled signal changes nothing.
theorem fillDefaults_idem {base : Fields} {so so' : SignalOptions}
    (h : fillDefaults lib base so = .ok so') : fillDefaults lib base so' = .ok so' := by
  obtain ⟨hp, u, -, rfl⟩ := fillDefaults_eq_ok lib h
  have hne : (if so.protocol = "" then base.protocol else so.protocol) ≠ "" := by
    intro he; rw [he] at hp; simp [allowedProtocols] at hp
  unfold fillDefaults
  simp only [if_neg hne, if_neg (not_not_intro hp)]
  simp only [ite_empty_idem, or_or_self, mergeHeaders_idem]
  rfl

theorem baseDefaults_idem (f : Fields) : baseDefaults lib (baseDefaults lib f) = baseDefaults lib f := by
  simp only [baseDefaults, ite_empty_idem]

-- Everything a successful `build` returns.
theorem build_eq_ok {o o' : ClientOptions} (h : build lib o = .ok o') :
    ∃ t m l, fillDefaults lib (baseDefaults lib o.base) { o.traces with signalType := "traces" } = .ok t ∧
      fillDefaults lib (baseDefaults lib o.base) { o.metrics with signalType := "metrics" } = .ok m ∧
      fillDefaults lib (baseDefaults lib o.base) { o.logs with signalType := "logs" } = .ok l ∧
      o' = { base := baseDefaults lib o.base, traces := t, metrics := m, logs := l } := by
  simp only [build] at h
  obtain ⟨t, ht, h⟩ := GoResult.bind_eq_ok.mp h
  obtain ⟨m, hm, h⟩ := GoResult.bind_eq_ok.mp h
  obtain ⟨l, hl, h⟩ := GoResult.bind_eq_ok.mp h
  exact ⟨t, m, l, ht, hm, hl, (GoResult.ok.inj h).symm⟩

-- Each signal of a built configuration is its own options filled from the defaulted base.
theorem build_signal {o o' : ClientOptions} (h : build lib o = .ok o') (s : Signal) :
    fillDefaults lib (baseDefaults lib o.base) { o.signal s with signalType := s.signalType } =
      .ok (o'.signal s) := by
  obtain ⟨t, m, l, ht, hm, hl, rfl⟩ := build_eq_ok lib h
  cases s <;> assumption

-- `build` of a built configuration returns it unchanged.
theorem build_idem {o o' : ClientOptions} (h : build lib o = .ok o') : build lib o' = .ok o' := by
  obtain ⟨t, m, l, ht, hm, hl, rfl⟩ := build_eq_ok lib h
  have st : ∀ {so so' : SignalOptions} {n : String}, fillDefaults lib (baseDefaults lib o.base)
      { so with signalType := n } = .ok so' → { so' with signalType := n } = so' := by
    intro so so' n h
    obtain ⟨-, -, -, rfl⟩ := fillDefaults_eq_ok lib h
    rfl
  simp only [build, baseDefaults_idem, st ht, st hm, st hl, fillDefaults_idem lib ht,
    fillDefaults_idem lib hm, fillDefaults_idem lib hl]
  rfl

-- Building twice is building once.
theorem build_bind_build (o : ClientOptions) : (build lib o >>= build lib) = build lib o := by
  cases h : build lib o with
  | ok o' => exact build_idem lib h
  | error e => rfl
  | panic r => rfl

end Build

end OtlpHelper.Client
