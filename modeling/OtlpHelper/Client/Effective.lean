import OtlpHelper.Client.Settings
import OtlpHelper.Client.Stdlib

namespace OtlpHelper.Client

-- A field of `Fields` as the options write it: its projection, its zero value (the value
-- that counts as unset), and the value each setting writes to it.
structure Field (α : Type) where
  get : Fields → α
  zero : α
  pick : Setting → Option α
  get_write : ∀ st f, get (st.write f) = (pick st).getD (get f)
  get_empty : get {} = zero

namespace Field

def endpoint : Field (Option URL) where
  get f := f.endpoint
  zero := none
  pick := fun | .endpoint u => some (some u) | _ => none
  get_write st _ := by cases st <;> rfl
  get_empty := rfl

def protocol : Field String where
  get f := f.protocol
  zero := ""
  pick := fun | .protocol p => some p | _ => none
  get_write st _ := by cases st <;> rfl
  get_empty := rfl

def userAgent : Field String where
  get f := f.userAgent
  zero := ""
  pick := fun | .userAgent ua => some ua | _ => none
  get_write st _ := by cases st <;> rfl
  get_empty := rfl

def headers : Field StringMap where
  get f := f.headers
  zero := []
  pick := fun | .headers h => some h | _ => none
  get_write st _ := by cases st <;> rfl
  get_empty := rfl

def gzip : Field (Option Bool) where
  get f := f.gzip
  zero := none
  pick := fun | .gzip b => some (some b) | _ => none
  get_write st _ := by cases st <;> rfl
  get_empty := rfl

def exportTimeout : Field Int where
  get f := f.exportTimeout
  zero := 0
  pick := fun | .exportTimeout d => some d | _ => none
  get_write st _ := by cases st <;> rfl
  get_empty := rfl

def httpClient : Field (Option HTTPClient) where
  get f := f.httpClient
  zero := none
  pick := fun | .httpClient c => some c | _ => none
  get_write st _ := by cases st <;> rfl
  get_empty := rfl

end Field

-- The value the last setting of a scope writes to a field, if a setting of that scope
-- writes it.
def lastSetting {α : Type} (sts : List (Scope × Setting)) (sc : Scope) (pick : Setting → Option α) :
    Option α :=
  (sts.filterMap fun p => if p.1 = sc then pick p.2 else none).getLast?

-- What the settings leave in a scope's field: the last setting's value, else the zero value.
def Field.raw {α : Type} (F : Field α) (sts : List (Scope × Setting)) (sc : Scope) : α :=
  (lastSetting sts sc F.pick).getD F.zero

-- The value a default fills in: the field's own unless it is the zero value.
def Field.orUnset {α : Type} [DecidableEq α] (F : Field α) (v d : α) : α :=
  if v = F.zero then d else v

-- A field of signal `s`: its last signal-specific setting unless that is unset, else the last
-- base setting unless that is unset, else the built-in default.
def Field.resolve {α : Type} [DecidableEq α] (F : Field α) (sts : List (Scope × Setting))
    (s : Signal) (default : α) : α :=
  F.orUnset (F.raw sts (.signal s)) (F.orUnset (F.raw sts .base) default)

private theorem lastSetting_cons {α : Type} (p : Scope × Setting) (sts : List (Scope × Setting))
    (sc : Scope) (pick : Setting → Option α) :
    lastSetting (p :: sts) sc pick =
      (lastSetting sts sc pick).or (if p.1 = sc then pick p.2 else none) := by
  unfold lastSetting
  rw [List.filterMap_cons]
  split
  · next h => rw [h]; cases (sts.filterMap _).getLast? <;> rfl
  · next b h => rw [h, ← List.singleton_append, List.getLast?_append]; rfl

-- After a run of settings, a field holds the last value a setting of its scope wrote.
theorem Field.get_foldl_writeAt {α : Type} (F : Field α) (sts : List (Scope × Setting))
    (o : ClientOptions) (sc : Scope) :
    F.get ((sts.foldl writeAt o).fields sc) = (lastSetting sts sc F.pick).getD (F.get (o.fields sc)) := by
  induction sts generalizing o with
  | nil => rfl
  | cons p sts ih =>
    rw [List.foldl_cons, ih, lastSetting_cons, writeAt, ClientOptions.fields_modify]
    cases lastSetting sts sc F.pick with
    | some v => rfl
    | none =>
      split
      · next h => subst h; simp [F.get_write]
      · rfl

theorem Field.get_settings {α : Type} (F : Field α) (sts : List (Scope × Setting)) (sc : Scope) :
    F.get ((sts.foldl writeAt {}).fields sc) = F.raw sts sc := by
  rw [F.get_foldl_writeAt, ClientOptions.fields_empty, F.get_empty]
  rfl

-- The fields a run of settings leaves in a scope, each from its last setting.
def rawFields (sts : List (Scope × Setting)) (sc : Scope) : Fields where
  endpoint := Field.endpoint.raw sts sc
  protocol := Field.protocol.raw sts sc
  userAgent := Field.userAgent.raw sts sc
  headers := Field.headers.raw sts sc
  gzip := Field.gzip.raw sts sc
  exportTimeout := Field.exportTimeout.raw sts sc
  httpClient := Field.httpClient.raw sts sc

theorem fields_settings (sts : List (Scope × Setting)) (sc : Scope) :
    (sts.foldl writeAt {}).fields sc = rawFields sts sc :=
  Fields.ext (Field.endpoint.get_settings sts sc) (Field.protocol.get_settings sts sc)
    (Field.userAgent.get_settings sts sc) (Field.headers.get_settings sts sc)
    (Field.gzip.get_settings sts sc) (Field.exportTimeout.get_settings sts sc)
    (Field.httpClient.get_settings sts sc)

section Resolve

variable (lib : Lib)

-- One signal's configuration as the settings `sts` determine it, field by field.
structure Effective (sts : List (Scope × Setting)) (s : Signal) (so : SignalOptions) : Prop where
  protocol : so.protocol = Field.protocol.resolve sts s "grpc"
  userAgent : so.userAgent = Field.userAgent.resolve sts s (defaultUserAgent lib)
  gzip : so.gzip = Field.gzip.resolve sts s (some false)
  exportTimeout : so.exportTimeout = Field.exportTimeout.resolve sts s 0
  httpClient : so.httpClient = Field.httpClient.resolve sts s (some lib.defaultClient)
  endpoint : so.endpoint = Field.endpoint.orUnset (Field.endpoint.raw sts (.signal s))
    (if goHasPrefix so.protocol "http/" then
      (Field.endpoint.raw sts .base).map fun u => lib.joinPath u ("v1/" ++ s.signalType)
    else Field.endpoint.raw sts .base)
  headers : ∀ k, so.headers.lookup k =
    ((Field.headers.raw sts (.signal s)).lookup k).or ((Field.headers.raw sts .base).lookup k)

private theorem or_eq_orUnset {α : Type} [DecidableEq α] (F : Field (Option α)) (hz : F.zero = none)
    (a b : Option α) : a.or b = F.orUnset a b := by
  cases a <;> simp [Field.orUnset, hz]

-- The endpoint `fillDefaults` settles on, whatever the protocol.
private theorem endpoint_of_fill {sig : Option URL} {base : Fields} {protocol signalType : String}
    {u : URL}
    (hu : (match sig with
      | some u => (.ok (some u) : GoResult (Option URL))
      | none => defaultEndpoint lib base protocol signalType) = .ok (some u)) :
    some u = Field.endpoint.orUnset sig (if goHasPrefix protocol "http/" then
      base.endpoint.map fun u => lib.joinPath u ("v1/" ++ signalType) else base.endpoint) := by
  cases sig with
  | some v => cases hu; exact (if_neg (Option.some_ne_none u)).symm
  | none =>
    rw [Field.orUnset, if_pos (show (none : Option URL) = Field.endpoint.zero from rfl)]
    unfold defaultEndpoint at hu
    cases hp : goHasPrefix protocol "http/" <;> cases hb : base.endpoint <;>
      simp only [hp, hb, if_true, if_false] at hu ⊢ <;> cases hu <;> rfl

-- `fillDefaults` of a signal's raw fields, from the defaulted raw base, gives the effective
-- configuration: each field is the signal's own setting, else the base's, else the default.
theorem effective_of_fillDefaults {sts : List (Scope × Setting)} {s : Signal} {raw so : SignalOptions}
    (hraw : raw.toFields = rawFields sts (.signal s))
    (h : fillDefaults lib (baseDefaults lib (rawFields sts .base))
      { raw with signalType := s.signalType } = .ok so) :
    Effective lib sts s so := by
  obtain ⟨-, u, hu, rfl⟩ := fillDefaults_eq_ok lib h
  simp only [hraw] at hu ⊢
  refine ⟨?_, ?_, ?_, ?_, ?_, ?_, ?_⟩
  · rfl
  · rfl
  · exact or_eq_orUnset Field.gzip rfl _ _
  · have hz : Field.exportTimeout.zero = 0 := rfl
    by_cases h0 : Field.exportTimeout.raw sts .base = 0 <;>
      simp [Field.resolve, Field.orUnset, hz, rawFields, baseDefaults, h0]
  · exact or_eq_orUnset Field.httpClient rfl _ _
  · exact endpoint_of_fill lib hu
  · intro k
    exact lookup_mergeHeaders _ _ k

variable (env : Env)

-- When `NewClient` succeeds on options whose only flag set, if any, is the last one, every
-- signal's configuration is what the endpoint argument and the options' settings determine.
theorem newClientOptions_effective {endpoint : String} {opts : List OptionSpec}
    (hflag : ∀ opt ∈ opts.dropLast, opt.isFlagSet = false) {o : ClientOptions}
    (h : newClientOptions lib endpoint (opts.map (·.toOption lib env)) = .ok o) :
    ∃ sts, clientSettings lib env endpoint opts = .ok sts ∧ ∀ s, Effective lib sts s (o.signal s) := by
  rw [newClientOptions_eq lib env hflag] at h
  obtain ⟨sts, hsts, hb⟩ := GoResult.bind_eq_ok.mp h
  refine ⟨sts, hsts, fun s => effective_of_fillDefaults lib (fields_settings sts (.signal s)) ?_⟩
  rw [← fields_settings sts .base]
  exact build_signal lib hb s

end Resolve

-- A base protocol, a traces protocol set twice, a metrics user agent and, last, a flag set
-- that reads the metrics protocol from a flag and the logs protocol from the environment.
theorem newClientOptions_effective_flagLast :
    let specs : List OptionSpec :=
      [.opt (.protocol .base "http/protobuf"), .opt (.protocol (.signal .traces) "http/json"),
       .opt (.userAgent (.signal .metrics) "m"), .opt (.protocol (.signal .traces) "grpc"),
       .flagSet (fun k => if k = "otlp-metrics-protocol" then "http/json" else "") "" []]
    let env : Env := fun k => if k = "OTLP_LOGS_PROTOCOL" then some "http/protobuf" else none
    match newClientOptions Stdlib.lib "http://localhost:4318" (specs.map (·.toOption Stdlib.lib env)) with
    | .ok o => ∃ sts, clientSettings Stdlib.lib env "http://localhost:4318" specs = .ok sts ∧
        ∀ s, Effective Stdlib.lib sts s (o.signal s)
    | _ => False :=
  newClientOptions_effective Stdlib.lib _ (by decide) rfl

-- A flag set runs `build`, which fills every signal from the base: a base protocol set after
-- it does not reach the signals.
theorem flagSet_then_withProtocol :
    (newClientOptions Stdlib.lib "http://localhost:4318"
        [ClientOptionsWithFlagSet Stdlib.lib (fun _ => none) (fun _ => "") "" [],
         WithProtocol "http/json"] >>= fun o => .ok (o.base.protocol, o.traces.protocol)) =
      .ok ("http/json", "grpc") := by
  rfl

end OtlpHelper.Client
