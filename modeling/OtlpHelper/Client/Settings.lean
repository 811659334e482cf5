import OtlpHelper.Client.Env

namespace OtlpHelper.Client

-- One field an option writes, with the value it writes.
inductive Setting where
  | endpoint (u : URL)
  | protocol (p : String)
  | userAgent (ua : String)
  | headers (h : StringMap)
  | gzip (b : Bool)
  | exportTimeout (d : Int)
  | httpClient (c : Option HTTPClient)
deriving DecidableEq, Repr

def Setting.write : Setting → Fields → Fields
  | .endpoint u, f => { f with endpoint := some u }
  | .protocol p, f => { f with protocol := p }
  | .userAgent ua, f => { f with userAgent := ua }
  | .headers h, f => { f with headers := h }
  | .gzip b, f => { f with gzip := some b }
  | .exportTimeout d, f => { f with exportTimeout := d }
  | .httpClient c, f => { f with httpClient := c }

def writeAt (o : ClientOptions) (p : Scope × Setting) : ClientOptions :=
  o.modify p.2.write p.1

-- The options of the package other than the two that read the environment, as data.
-- `timeoutString` is the setter `OTLP_*TIMEOUT` maps to.
inductive Opt where
  | userAgent (scope : Scope) (ua : String)
  | gzip (scope : Scope) (b : Bool)
  | headers (scope : Scope) (h : StringMap)
  | headersString (scope : Scope) (s : String)
  | exportTimeout (scope : Scope) (d : Int)
  | timeoutString (scope : Scope) (s : String)
  | httpClient (scope : Scope) (c : Option HTTPClient)
  | protocol (scope : Scope) (p : String)
  | endpoint (scope : Scope) (e : String)
  | logger

-- Picks the member of a family of four by scope.
def byScope {α : Type} (scope : Scope) (b t m l : α) : α :=
  match scope with
  | .base => b
  | .signal .traces => t
  | .signal .metrics => m
  | .signal .logs => l

section Denotation

variable (lib : Lib)

-- The package function each `Opt` stands for.
def Opt.toOption : Opt → ClientOption
  | .userAgent sc ua => byScope sc WithUserAgent WithTracesUserAgent WithMetricsUserAgent
      WithLogsUserAgent ua
  | .gzip sc b => byScope sc WithGzip WithTracesGzip WithMetricsGzip WithLogsGzip b
  | .headers sc h => byScope sc WithHeaders WithTracesHeaders WithMetricsHeaders WithLogsHeaders h
  | .headersString sc s => byScope sc WithHeadersString WithTracesHeadersString
      WithMetricsHeadersString WithLogsHeadersString s
  | .exportTimeout sc d => byScope sc WithExportTimeout WithTracesExportTimeout
      WithMetricsExportTimeout WithLogsExportTimeout d
  | .timeoutString sc s => byScope sc (timeoutSetter lib .base WithExportTimeout)
      (timeoutSetter lib (.signal .traces) WithTracesExportTimeout)
      (timeoutSetter lib (.signal .metrics) WithMetricsExportTimeout)
      (timeoutSetter lib (.signal .logs) WithLogsExportTimeout) s
  | .httpClient sc c => byScope sc WithHTTPClient WithTracesHTTPClient WithMetricsHTTPClient
      WithLogsHTTPClient c
  | .protocol sc p => byScope sc WithProtocol WithTracesProtocol WithMetricsProtocol
      WithLogsProtocol p
  | .endpoint sc e => byScope sc (WithEndpoint lib) (WithTracesEndpoint lib)
      (WithMetricsEndpoint lib) (WithLogsEndpoint lib) e
  | .logger => WithLogger

-- What each option writes into the options at its scope, or the error it returns.
def Opt.settings : Opt → GoResult (List (Scope × Setting))
  | .userAgent sc ua => .ok [(sc, .userAgent ua)]
  | .gzip sc b => .ok [(sc, .gzip b)]
  | .headers sc h => .ok [(sc, .headers h)]
  | .headersString sc s => parseHeadersString s >>= fun h => .ok [(sc, .headers h)]
  | .exportTimeout sc d => .ok [(sc, .exportTimeout d)]
  | .timeoutString sc s =>
    match lib.parseDuration s with
    | .ok d => .ok [(sc, .exportTimeout d)]
    | .error e => .error (sc.label ++ "export timeout parse error: " ++ e)
  | .httpClient sc c => .ok [(sc, .httpClient c)]
  | .protocol sc p =>
    if p ∈ allowedProtocols then .ok [(sc, .protocol p)]
    else .error (sc.label ++ "protocol " ++ goQuote p ++ " is not allowed")
  | .endpoint sc e =>
    match parseEndpoint lib e with
    | .ok u => .ok [(sc, .endpoint u)]
    | .error m => .error (sc.label ++ "endpoint parse error: " ++ m)
    | .panic r => .panic r
  | .logger => .ok []

-- The table of `envSetters`, as options.
def envOpts : List (String × (String → Opt)) :=
  [("OTLP_PROTOCOL", .protocol .base),
   ("OTLP_TRACES_PROTOCOL", .protocol (.signal .traces)),
   ("OTLP_METRICS_PROTOCOL", .protocol (.signal .metrics)),
   ("OTLP_LOGS_PROTOCOL", .protocol (.signal .logs)),
   ("OTLP_ENDPOINT", .endpoint .base),
   ("OTLP_TRACES_ENDPOINT", .endpoint (.signal .traces)),
   ("OTLP_METRICS_ENDPOINT", .endpoint (.signal .metrics)),
   ("OTLP_LOGS_ENDPOINT", .endpoint (.signal .logs)),
   ("OTLP_TIMEOUT", .timeoutString .base),
   ("OTLP_TRACES_TIMEOUT", .timeoutString (.signal .traces)),
   ("OTLP_METRICS_TIMEOUT", .timeoutString (.signal .metrics)),
   ("OTLP_LOGS_TIMEOUT", .timeoutString (.signal .logs)),
   ("OTLP_HEADERS", .headersString .base),
   ("OTLP_TRACES_HEADERS", .headersString (.signal .traces)),
   ("OTLP_METRICS_HEADERS", .headersString (.signal .metrics)),
   ("OTLP_LOGS_HEADERS", .headersString (.signal .logs))]

theorem envSetters_eq : envSetters lib = envOpts.map fun e => (e.1, fun v => (e.2 v).toOption lib) :=
  rfl

-- Each option does exactly what its settings say.
theorem Opt.toOption_eq (opt : Opt) (o : ClientOptions) :
    opt.toOption lib o = opt.settings lib >>= fun sts => .ok (sts.foldl writeAt o) := by
  cases opt with
  | logger => rfl
  | userAgent sc _ | gzip sc _ | headers sc _ | exportTimeout sc _ | httpClient sc _ =>
    rcases sc with _ | ⟨_ | _ | _⟩ <;> rfl
  | headersString sc s =>
    rcases sc with _ | ⟨_ | _ | _⟩ <;>
      simp only [Opt.toOption, Opt.settings, byScope, WithHeadersString, WithTracesHeadersString,
        WithMetricsHeadersString, WithLogsHeadersString, withHeadersStringAt] <;>
      cases parseHeadersString s <;> rfl
  | timeoutString sc s =>
    rcases sc with _ | ⟨_ | _ | _⟩ <;> simp only [Opt.toOption, Opt.settings, byScope, timeoutSetter] <;>
      cases lib.parseDuration s <;> rfl
  | protocol sc p =>
    rcases sc with _ | ⟨_ | _ | _⟩ <;> by_cases hp : p ∈ allowedProtocols <;>
      simp [Opt.toOption, Opt.settings, byScope, WithProtocol, WithTracesProtocol,
        WithMetricsProtocol, WithLogsProtocol, withProtocolAt, hp] <;> rfl
  | endpoint sc e =>
    rcases sc with _ | ⟨_ | _ | _⟩ <;>
      simp only [Opt.toOption, Opt.settings, byScope, WithEndpoint, WithTracesEndpoint,
        WithMetricsEndpoint, WithLogsEndpoint, withEndpointAt] <;>
      cases parseEndpoint lib e <;> rfl

-- The settings of a list of steps, concatenated in order; the first failure stops it.
def collectSettings {β : Type} (sets : β → GoResult (List (Scope × Setting))) (l : List β) :
    GoResult (List (Scope × Setting)) :=
  l.foldlM (fun acc b => sets b >>= fun sts => .ok (acc ++ sts)) []

theorem collectSettings_concat {β : Type} (sets : β → GoResult (List (Scope × Setting)))
    (l : List β) (b : β) :
    collectSettings sets (l ++ [b]) =
      collectSettings sets l >>= fun acc => sets b >>= fun sts => .ok (acc ++ sts) := by
  simp only [collectSettings, List.foldlM_append, List.foldlM_cons, List.foldlM_nil, bind_pure]

private theorem foldlM_writes_acc {β : Type} (l : List β) (step : β → ClientOption)
    (sets : β → GoResult (List (Scope × Setting)))
    (h : ∀ b ∈ l, ∀ o, step b o = sets b >>= fun sts => .ok (sts.foldl writeAt o))
    (o : ClientOptions) (acc : List (Scope × Setting)) :
    l.foldlM (fun o b => step b o) (acc.foldl writeAt o) =
      l.foldlM (fun acc b => sets b >>= fun sts => .ok (acc ++ sts)) acc >>=
        fun sts => .ok (sts.foldl writeAt o) := by
  induction l generalizing acc with
  | nil => rfl
  | cons b l ih =>
    simp only [List.foldlM_cons, h b (List.mem_cons_self b l)]
    cases sets b with
    | ok sts =>
      simpa [List.foldl_append] using
        ih (fun b hb => h b (List.mem_cons_of_mem _ hb)) (acc ++ sts)
    | error m => rfl
    | panic r => rfl

-- Running steps that each write their settings writes all their settings, in order.
theorem foldlM_eq_collectSettings {β : Type} (l : List β) (step : β → ClientOption)
    (sets : β → GoResult (List (Scope × Setting)))
    (h : ∀ b ∈ l, ∀ o, step b o = sets b >>= fun sts => .ok (sts.foldl writeAt o))
    (o : ClientOptions) :
    l.foldlM (fun o b => step b o) o = collectSettings sets l >>= fun sts => .ok (sts.foldl writeAt o) :=
  foldlM_writes_acc l step sets h o []

-- The value `lookupEnvValue` finds for a name.
def envValue (env : Env) (name : String) (envPrefixes : List String) : Option String :=
  ((if envPrefixes = [] then [""] else envPrefixes).flatMap (envCandidates name)).findSome? env

-- The settings of the table entries that `value` gives a value, in table order.
def tableSettings (value : String → Option String) (table : List (String × (String → Opt))) :
    GoResult (List (Scope × Setting)) :=
  collectSettings (fun e => match value e.1 with
    | some v => (e.2 v).settings lib
    | none => .ok []) table

private theorem foldlM_table (value : String → Option String) (table : List (String × (String → Opt)))
    (o : ClientOptions) :
    table.foldlM (fun o e => match value e.1 with
        | some v => (e.2 v).toOption lib o
        | none => .ok o) o =
      tableSettings lib value table >>= fun sts => .ok (sts.foldl writeAt o) := by
  refine foldlM_eq_collectSettings table _ _ (fun e _ o => ?_) o
  cases value e.1 with
  | some v => exact Opt.toOption_eq lib (e.2 v) o
  | none => rfl

theorem DefaultClientOptions_eq (env : Env) (ps : List String) (o : ClientOptions) :
    DefaultClientOptions lib env ps o =
      tableSettings lib (fun n => envValue env n ps) envOpts >>= fun sts => .ok (sts.foldl writeAt o) := by
  rw [← foldlM_table, DefaultClientOptions, envSetters_eq, List.foldlM_map]
  rfl

-- The value a flag gives an entry of the table: a non-empty string.
def flagValue (flags : FlagValues) (flagPrefix name : String) : Option String :=
  if flags (flagNameString name flagPrefix) ≠ "" then some (flags (flagNameString name flagPrefix))
  else none

theorem flagOptions_eq (flags : FlagValues) (pre : String) (o : ClientOptions) :
    ((envSetters lib).map (flagOption flags pre)).foldlM (fun o opt => opt o) o =
      tableSettings lib (flagValue flags pre) envOpts >>= fun sts => .ok (sts.foldl writeAt o) := by
  rw [← foldlM_table, envSetters_eq, List.map_map, List.foldlM_map]
  congr 1
  funext o e
  simp only [Function.comp, flagOption, flagValue]
  split <;> rfl

-- A `ClientOption` of the package, as data: a plain option, `DefaultClientOptions`, or
-- `ClientOptionsWithFlagSet`.
inductive OptionSpec where
  | opt (o : Opt)
  | defaults (envPrefixes : List String)
  | flagSet (flags : FlagValues) (flagPrefix : String) (envPrefixes : List String)

def OptionSpec.isFlagSet : OptionSpec → Bool
  | .flagSet .. => true
  | _ => false

variable (env : Env)

def OptionSpec.toOption : OptionSpec → ClientOption
  | .opt o => o.toOption lib
  | .defaults ps => DefaultClientOptions lib env ps
  | .flagSet flags pre ps => ClientOptionsWithFlagSet lib env flags pre ps

-- The settings of an option: the environment's settings, then the flags' for a flag set.
def OptionSpec.settings : OptionSpec → GoResult (List (Scope × Setting))
  | .opt o => o.settings lib
  | .defaults ps => tableSettings lib (fun n => envValue env n ps) envOpts
  | .flagSet flags pre ps => do
    let fromEnv ← tableSettings lib (fun n => envValue env n ps) envOpts
    let fromFlags ← tableSettings lib (flagValue flags pre) envOpts
    pure (fromEnv ++ fromFlags)

def allSettings (opts : List OptionSpec) : GoResult (List (Scope × Setting)) :=
  collectSettings (·.settings lib env) opts

theorem OptionSpec.toOption_eq {opt : OptionSpec} (h : opt.isFlagSet = false) (o : ClientOptions) :
    opt.toOption lib env o = opt.settings lib env >>= fun sts => .ok (sts.foldl writeAt o) := by
  cases opt with
  | opt o' => exact Opt.toOption_eq lib o' o
  | defaults ps => exact DefaultClientOptions_eq lib env ps o
  | flagSet => cases h

-- A flag set writes its settings and then builds, since it runs `apply`.
theorem OptionSpec.toOption_flagSet (flags : FlagValues) (pre : String) (ps : List String)
    (o : ClientOptions) :
    (OptionSpec.flagSet flags pre ps).toOption lib env o =
      (OptionSpec.flagSet flags pre ps).settings lib env >>= fun sts => build lib (sts.foldl writeAt o) := by
  simp only [OptionSpec.toOption, OptionSpec.settings, ClientOptionsWithFlagSet, apply,
    List.foldlM_cons, DefaultClientOptions_eq, flagOptions_eq]
  cases tableSettings lib (fun n => envValue env n ps) envOpts <;>
    cases tableSettings lib (flagValue flags pre) envOpts <;> simp [List.foldl_append]

-- `apply` over options with a flag set at most last: build what all their settings write.
theorem apply_eq {opts : List OptionSpec} (hflag : ∀ opt ∈ opts.dropLast, opt.isFlagSet = false)
    (o : ClientOptions) :
    apply lib o (opts.map (·.toOption lib env)) =
      allSettings lib env opts >>= fun sts => build lib (sts.foldl writeAt o) := by
  rcases List.eq_nil_or_concat opts with rfl | ⟨pre, last, rfl⟩
  · rfl
  rw [List.concat_eq_append, List.dropLast_concat] at hflag
  have hpre := foldlM_eq_collectSettings pre (·.toOption lib env) (·.settings lib env)
    (fun opt h o => OptionSpec.toOption_eq lib env (hflag opt h) o) o
  simp only [apply, allSettings, List.concat_eq_append, List.map_append, List.foldlM_append,
    List.foldlM_map, hpre, collectSettings_concat, bind_assoc]
  cases collectSettings (·.settings lib env) pre with
  | error e => rfl
  | panic r => rfl
  | ok acc =>
    simp only [GoResult.ok_bind, List.map_cons, List.map_nil, List.foldlM_cons, List.foldlM_nil,
      bind_pure]
    cases hl : last.isFlagSet
    · rw [OptionSpec.toOption_eq lib env hl]
      cases last.settings lib env <;> simp [List.foldl_append]
    · obtain ⟨flags, pre', ps, rfl⟩ : ∃ flags pre' ps, last = .flagSet flags pre' ps := by
        cases last <;> simp_all [OptionSpec.isFlagSet]
      rw [OptionSpec.toOption_flagSet]
      cases (OptionSpec.flagSet flags pre' ps).settings lib env <;>
        simp [List.foldl_append, build_bind_build]

-- The settings `NewClient` collects: its endpoint argument first, as a base endpoint.
def clientSettings (endpoint : String) (opts : List OptionSpec) : GoResult (List (Scope × Setting)) := do
  let start ← if endpoint ≠ "" then (Opt.endpoint .base endpoint).settings lib else .ok []
  let rest ← allSettings lib env opts
  pure (start ++ rest)

theorem newClientOptions_eq {opts : List OptionSpec}
    (hflag : ∀ opt ∈ opts.dropLast, opt.isFlagSet = false) (endpoint : String) :
    newClientOptions lib endpoint (opts.map (·.toOption lib env)) =
      clientSettings lib env endpoint opts >>= fun sts => build lib (sts.foldl writeAt {}) := by
  unfold newClientOptions clientSettings
  by_cases he : endpoint ≠ ""
  · simp only [if_pos he, Opt.settings]
    cases parseEndpoint lib endpoint with
    | ok u =>
      simp only [GoResult.ok_bind]
      refine (apply_eq lib env hflag ([(Scope.base, Setting.endpoint u)].foldl writeAt {})).trans ?_
      cases allSettings lib env opts <;> simp [List.foldl_append]
    | error m => rfl
    | panic r => rfl
  · simp only [if_neg he, GoResult.ok_bind, apply_eq lib env hflag]
    cases allSettings lib env opts <;> rfl

end Denotation

end OtlpHelper.Client
