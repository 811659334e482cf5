import OtlpHelper.Client.Options

namespace OtlpHelper.Client

-- The process environment, as `os.LookupEnv` reads it.
abbrev Env := String → Option String

-- A parsed `flag.FlagSet`: the value of each string flag, `""` when it was not given.
abbrev FlagValues := String → String

-- `WithLogger` sets only the logger, which the model leaves out.
def WithLogger : ClientOption := fun o => .ok o

section Env

variable (lib : Lib)

-- The `OTLP_*TIMEOUT` setters parse the value with `time.ParseDuration` first.
def timeoutSetter (scope : Scope) (withTimeout : Int → ClientOption) (s : String) : ClientOption :=
  fun o =>
    match lib.parseDuration s with
    | .ok d => withTimeout d o
    | .error e => .error (scope.label ++ "export timeout parse error: " ++ e)

-- `envSetters`, in the order the source lists them; Go ranges over the map in an
-- unspecified order.
def envSetters : List (String × (String → ClientOption)) :=
  [("OTLP_PROTOCOL", WithProtocol),
   ("OTLP_TRACES_PROTOCOL", WithTracesProtocol),
   ("OTLP_METRICS_PROTOCOL", WithMetricsProtocol),
   ("OTLP_LOGS_PROTOCOL", WithLogsProtocol),
   ("OTLP_ENDPOINT", WithEndpoint lib),
   ("OTLP_TRACES_ENDPOINT", WithTracesEndpoint lib),
   ("OTLP_METRICS_ENDPOINT", WithMetricsEndpoint lib),
   ("OTLP_LOGS_ENDPOINT", WithLogsEndpoint lib),
   ("OTLP_TIMEOUT", timeoutSetter lib .base WithExportTimeout),
   ("OTLP_TRACES_TIMEOUT", timeoutSetter lib (.signal .traces) WithTracesExportTimeout),
   ("OTLP_METRICS_TIMEOUT", timeoutSetter lib (.signal .metrics) WithMetricsExportTimeout),
   ("OTLP_LOGS_TIMEOUT", timeoutSetter lib (.signal .logs) WithLogsExportTimeout),
   ("OTLP_HEADERS", WithHeadersString),
   ("OTLP_TRACES_HEADERS", WithTracesHeadersString),
   ("OTLP_METRICS_HEADERS", WithMetricsHeadersString),
   ("OTLP_LOGS_HEADERS", WithLogsHeadersString)]

-- The four names `lookupEnvValue` tries for one prefix, in order.
def envCandidates (name pre : String) : List String :=
  let upperName := goToUpper (goReplaceAll name '-' '_')
  let lowerName := goToLower (goReplaceAll name '-' '_')
  [goToUpper pre ++ upperName, goToUpper pre ++ lowerName, pre ++ upperName, pre ++ lowerName]

-- `lookupEnvValue`: the first variable found, over the prefixes in order, goes to the setter.
def lookupEnvValue (env : Env) (name : String) (envPrefixes : List String)
    (setter : String → ClientOption) : ClientOption :=
  fun o =>
    let prefixes := if envPrefixes = [] then [""] else envPrefixes
    match (prefixes.flatMap (envCandidates name)).findSome? env with
    | some s => setter s o
    | none => .ok o

def DefaultClientOptions (env : Env) (envPrefixes : List String) : ClientOption :=
  fun o => (envSetters lib).foldlM (fun o e => lookupEnvValue env e.1 envPrefixes e.2 o) o

def flagNameString (name flagPrefix : String) : String :=
  goToLower (flagPrefix ++ goReplaceAll name '_' '-')

-- One option per flag: a non-empty value goes to the setter.
def flagOption (flags : FlagValues) (flagPrefix : String) (e : String × (String → ClientOption)) :
    ClientOption :=
  fun o =>
    let value := flags (flagNameString e.1 flagPrefix)
    if value ≠ "" then e.2 value o else .ok o

-- `ClientOptionsWithFlagSet`: the returned option runs `o.apply`, which ends with `build`.
def ClientOptionsWithFlagSet (env : Env) (flags : FlagValues) (flagPrefix : String)
    (envPrefixes : List String) : ClientOption :=
  fun o => apply lib o
    (DefaultClientOptions lib env envPrefixes :: (envSetters lib).map (flagOption flags flagPrefix))

-- The options part of `NewClient`: the endpoint argument, then `o.apply(opts...)`.
def newClientOptions (endpoint : String) (opts : List ClientOption) : GoResult ClientOptions :=
  let start : GoResult ClientOptions :=
    if endpoint ≠ "" then
      match parseEndpoint lib endpoint with
      | .ok u => .ok { base := { endpoint := some u } }
      | .error e => .error ("endpoint parse error: " ++ e)
      | .panic r => .panic r
    else .ok {}
  start >>= fun o => apply lib o opts

end Env

end OtlpHelper.Client
