namespace OtlpHelper

-- The three OTLP signals; `signalType` of the client options.
inductive Signal where
  | traces
  | metrics
  | logs
deriving DecidableEq, Repr

-- The `signalType` `build` gives each signal's options.
def Signal.signalType : Signal → String
  | .traces => "traces"
  | .metrics => "metrics"
  | .logs => "logs"

-- The Go types of the signal's request and response, as the runtime writes them: the
-- generated packages are all named `v1`.
def Signal.requestTypeName : Signal → String
  | .traces => "*v1.ExportTraceServiceRequest"
  | .metrics => "*v1.ExportMetricsServiceRequest"
  | .logs => "*v1.ExportLogsServiceRequest"

def Signal.responseTypeName : Signal → String
  | .traces => "*v1.ExportTraceServiceResponse"
  | .metrics => "*v1.ExportMetricsServiceResponse"
  | .logs => "*v1.ExportLogsServiceResponse"

-- The path `newTraceEntry` and its siblings register with the HTTP mux.
def Signal.httpPath : Signal → String
  | .traces => "/v1/traces"
  | .metrics => "/v1/metrics"
  | .logs => "/v1/logs"

-- The gRPC service whose Export method `Register` installs for the signal.
def Signal.serviceName : Signal → String
  | .traces => "opentelemetry.proto.collector.trace.v1.TraceService"
  | .metrics => "opentelemetry.proto.collector.metrics.v1.MetricsService"
  | .logs => "opentelemetry.proto.collector.logs.v1.LogsService"

-- `*url.URL`, with the components the package reads: `Scheme`, `Host` and the path that
-- `JoinPath` extends. Userinfo, query and fragment are left out, and the path needs no
-- escaping.
structure URL where
  scheme : String
  host : String
  path : String
deriving DecidableEq, Repr

-- The runtime's message for a nil pointer dereference.
def nilDereference : String := "runtime error: invalid memory address or nil pointer dereference"

-- What a Go call does: it returns, or it panics.
inductive Outcome (α : Type) where
  | returned (value : α)
  | panicked (reason : String)
deriving DecidableEq, Repr

-- What a Go function with an `error` result does: returns a value, returns an error,
-- or panics.
inductive GoResult (α : Type) where
  | ok (value : α)
  | error (message : String)
  | panic (reason : String)
deriving DecidableEq, Repr

namespace GoResult

def bind {α β : Type} : GoResult α → (α → GoResult β) → GoResult β
  | ok a, f => f a
  | error e, _ => error e
  | panic r, _ => panic r

instance : Monad GoResult where
  pure := ok
  bind := bind

@[simp] theorem pure_eq {α : Type} (a : α) : (pure a : GoResult α) = ok a := rfl

@[simp] theorem ok_bind {α β : Type} (a : α) (f : α → GoResult β) : (ok a >>= f) = f a := rfl

@[simp] theorem error_bind {α β : Type} (e : String) (f : α → GoResult β) :
    (error e >>= f) = error e := rfl

@[simp] theorem panic_bind {α β : Type} (r : String) (f : α → GoResult β) :
    (panic r >>= f) = panic r := rfl

instance : LawfulMonad GoResult :=
  LawfulMonad.mk' GoResult (fun x => by cases x <;> rfl) (fun _ _ => rfl)
    (fun x _ _ => by cases x <;> rfl)

theorem bind_eq_ok {α β : Type} {x : GoResult α} {f : α → GoResult β} {b : β} :
    (x >>= f) = ok b ↔ ∃ a, x = ok a ∧ f a = ok b := by
  cases x <;> simp [Bind.bind, bind]

end GoResult

-- Go's `strings` functions the code calls, on character lists so that they evaluate.
-- Case mapping covers ASCII letters only.
def goHasPrefix (s pre : String) : Bool := pre.toList.isPrefixOf s.toList

def goHasSuffix (s suf : String) : Bool := suf.toList.reverse.isPrefixOf s.toList.reverse

def goToLower (s : String) : String := String.mk (s.toList.map Char.toLower)

def goToUpper (s : String) : String := String.mk (s.toList.map Char.toUpper)

-- `strings.ReplaceAll` for a one-character pattern.
def goReplaceAll (s : String) (old new : Char) : String :=
  String.mk (s.toList.map fun c => if c = old then new else c)

-- `strings.Contains`, on character lists.
def containsChars (sub : List Char) : List Char → Bool
  | [] => sub.isEmpty
  | c :: cs => sub.isPrefixOf (c :: cs) || containsChars sub cs

def goContains (s substr : String) : Bool := containsChars substr.toList s.toList

-- `%q` of fmt for the strings the messages quote.
def goQuote (s : String) : String := "\"" ++ s ++ "\""

-- `codes.Code` of grpc-go: a `uint32` with named values `0..16`.
structure Code where
  value : UInt32
deriving DecidableEq, Repr

namespace Code

def ok : Code := ⟨0⟩
def canceled : Code := ⟨1⟩
def unknown : Code := ⟨2⟩
def invalidArgument : Code := ⟨3⟩
def deadlineExceeded : Code := ⟨4⟩
def notFound : Code := ⟨5⟩
def alreadyExists : Code := ⟨6⟩
def permissionDenied : Code := ⟨7⟩
def resourceExhausted : Code := ⟨8⟩
def failedPrecondition : Code := ⟨9⟩
def aborted : Code := ⟨10⟩
def outOfRange : Code := ⟨11⟩
def unimplemented : Code := ⟨12⟩
def internal : Code := ⟨13⟩
def unavailable : Code := ⟨14⟩
def dataLoss : Code := ⟨15⟩
def unauthenticated : Code := ⟨16⟩

end Code

-- A `status.Status`; its details are kept as the reasons of `errdetails.ErrorInfo`.
structure Status where
  code : Code
  message : String
  details : List String := []
deriving DecidableEq, Repr

-- The Go `error` values the model distinguishes: a status error, and any other.
inductive GoError where
  | status (st : Status)
  | plain (text : String)
deriving DecidableEq, Repr

-- `status.Error(code, msg)`.
def statusError (code : Code) (message : String) : GoError :=
  .status { code, message }

-- `status.FromError`: the status carried by an error, if any.
def GoError.fromError : GoError → Option Status
  | .status st => some st
  | .plain _ => none

-- `status.Code(err)` of grpc-go: `OK` for no error, `Unknown` for a non-status error.
def codeOf : Option GoError → Code
  | none => Code.ok
  | some (.status st) => st.code
  | some (.plain _) => Code.unknown

-- Go maps as association lists.

section Maps

variable {V : Type}

-- `List.lookup` on a cons, read with `=` on the keys.
theorem lookup_cons_eq (k k₀ : String) (v : V) (m : List (String × V)) :
    ((k₀, v) :: m).lookup k = if k = k₀ then some v else m.lookup k := by
  rw [List.lookup_cons]
  by_cases h : k = k₀
  · simp [h]
  · rw [if_neg h, beq_false_of_ne h]

-- With distinct keys, an entry's value is what its key reads.
theorem lookup_of_mem {m : List (String × V)} (hn : (m.map (·.1)).Nodup) {e : String × V} (he : e ∈ m) :
    m.lookup e.1 = some e.2 := by
  induction m with
  | nil => cases he
  | cons e₀ m ih =>
    obtain ⟨hnot, hn⟩ := List.nodup_cons.mp hn
    rcases List.mem_cons.mp he with rfl | he
    · rw [lookup_cons_eq, if_pos rfl]
    · have hne : e.1 ≠ e₀.1 := fun h => hnot (List.mem_map.mpr ⟨e, he, h⟩)
      rw [lookup_cons_eq, if_neg hne, ih hn he]

-- A filter that keeps every entry under a key leaves what that key reads.
theorem lookup_filter_of_keeps (m : List (String × V)) {p : String × V → Bool} {k : String}
    (hp : ∀ e ∈ m, e.1 = k → p e) : (m.filter p).lookup k = m.lookup k := by
  induction m with
  | nil => rfl
  | cons e m ih =>
    obtain ⟨k₀, v⟩ := e
    have ih := ih fun e he => hp e (.tail _ he)
    by_cases he : p (k₀, v)
    · rw [List.filter_cons_of_pos he, lookup_cons_eq, lookup_cons_eq, ih]
    · have hk : k ≠ k₀ := fun h => he (hp _ (.head _) h.symm)
      rw [List.filter_cons_of_neg he, ih, lookup_cons_eq, if_neg hk]

end Maps

end OtlpHelper
