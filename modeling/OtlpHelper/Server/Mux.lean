import OtlpHelper.Basic

namespace OtlpHelper.Server

-- A non-nil `proto.Message` interface value: the dynamic type's full name and the
-- pointer it holds, which may itself be nil.
structure Typed (Msg : Type) where
  typeName : String
  body : Option Msg
deriving DecidableEq, Repr

section Handlers

variable (Ctx Msg : Type)

-- `ProtoHandlerFunc`: the interface value `none` is a nil `proto.Message`.
abbrev ProtoHandlerFunc :=
  Ctx → Option (Typed Msg) → Outcome (Option (Typed Msg) × Option GoError)

abbrev MiddlewareFunc := ProtoHandlerFunc Ctx Msg → ProtoHandlerFunc Ctx Msg

-- `TraceHandler`, `MetricsHandler`, `LogsHandler`: request pointer in, response pointer out.
abbrev SignalHandler := Ctx → Option Msg → Outcome (Option Msg × Option GoError)

abbrev SignalMiddlewareFunc := SignalHandler Ctx Msg → SignalHandler Ctx Msg

-- `traceEntry`, `metricsEntry`, `logsEntry` without their locks and HTTP handler.
structure Entry where
  middlewares : List (SignalMiddlewareFunc Ctx Msg) := []
  h : Option (SignalHandler Ctx Msg) := none

structure ServerMux where
  trace : Option (Entry Ctx Msg) := none
  metrics : Option (Entry Ctx Msg) := none
  logs : Option (Entry Ctx Msg) := none
  middlewares : List (MiddlewareFunc Ctx Msg) := []

end Handlers

variable {Ctx Msg : Type}

-- `ServerMux.chainedMiddleware`: start from the last middleware and wrap it, going down
-- the indices, in `mw(next(h))` closures.
def chainedMiddleware (middlewares : List (MiddlewareFunc Ctx Msg)) : MiddlewareFunc Ctx Msg :=
  match middlewares.reverse with
  | [] => fun next => next
  | last :: rest => rest.foldl (fun next mw => fun h => mw (next h)) last

namespace Entry

-- `traceEntry.Use` and its siblings.
def use (e : Entry Ctx Msg) (m : List (SignalMiddlewareFunc Ctx Msg)) : Entry Ctx Msg :=
  { e with middlewares := e.middlewares ++ m }

-- `traceEntry.Handle` (and `HandleFunc`, which wraps the function first).
def handle (e : Entry Ctx Msg) (handler : SignalHandler Ctx Msg) : Entry Ctx Msg :=
  { e with h := some handler }

-- `traceEntry.getHandler`: the loop runs the indices downwards, so it visits the
-- middlewares in reverse order.
def getHandler (e : Entry Ctx Msg) : Option (SignalHandler Ctx Msg) :=
  e.h.map fun h => e.middlewares.reverse.foldl (fun wrapped m => m wrapped) h

end Entry

-- What a handler returns, as the chain sees it: the response pointer as a `proto.Message`
-- of the signal's response type.
def typedResult (s : Signal) : Outcome (Option Msg × Option GoError) → Outcome (Option (Typed Msg) × Option GoError)
  | .returned (resp, err) => .returned (some ⟨s.responseTypeName, resp⟩, err)
  | .panicked reason => .panicked reason

-- The closure `Export` hands to the cross-signal chain: `req.(*TraceRequest)` panics with the
-- runtime's `TypeAssertionError` unless the interface holds the signal's request type.
def innerHandler (s : Signal) (base : SignalHandler Ctx Msg) : ProtoHandlerFunc Ctx Msg :=
  fun ctx req =>
    match req with
    | some r =>
      if r.typeName = s.requestTypeName then typedResult s (base ctx r.body)
      else .panicked ("interface conversion: protoreflect.ProtoMessage is " ++ r.typeName ++ ", not " ++
        s.requestTypeName)
    | none => .panicked ("interface conversion: protoreflect.ProtoMessage is nil, not " ++ s.requestTypeName)

-- The tail of `Export` after the chain returned.
def exportResult (s : Signal) :
    Option (Typed Msg) × Option GoError → Option Msg × Option GoError
  | (_, some err) => (none, some err)
  | (some r, none) =>
    if r.typeName = s.responseTypeName then (r.body, none)
    else (none, some (statusError Code.internal "unexpected response type"))
  | (none, none) => (none, some (statusError Code.internal "unexpected response type"))

-- `traceEntry.Export`, `metricsEntry.Export` and `logsEntry.Export` differ only in the
-- message types: one definition with the signal as parameter.
def Entry.signalExport (s : Signal) (e : Entry Ctx Msg) (middlewares : List (MiddlewareFunc Ctx Msg))
    (ctx : Ctx) (req : Option Msg) : Outcome (Option Msg × Option GoError) :=
  match e.getHandler with
  | none => .returned (none, some (statusError Code.unimplemented "method Export not implemented"))
  | some base =>
    match chainedMiddleware middlewares (innerHandler s base) ctx (some ⟨s.requestTypeName, req⟩) with
    | .returned result => .returned (exportResult s result)
    | .panicked reason => .panicked reason

def traceEntryExport : Entry Ctx Msg → List (MiddlewareFunc Ctx Msg) → Ctx → Option Msg →
    Outcome (Option Msg × Option GoError) := Entry.signalExport .traces

def metricsEntryExport : Entry Ctx Msg → List (MiddlewareFunc Ctx Msg) → Ctx → Option Msg →
    Outcome (Option Msg × Option GoError) := Entry.signalExport .metrics

def logsEntryExport : Entry Ctx Msg → List (MiddlewareFunc Ctx Msg) → Ctx → Option Msg →
    Outcome (Option Msg × Option GoError) := Entry.signalExport .logs

namespace ServerMux

def entry (mux : ServerMux Ctx Msg) : Signal → Option (Entry Ctx Msg)
  | .traces => mux.trace
  | .metrics => mux.metrics
  | .logs => mux.logs

def setEntry (mux : ServerMux Ctx Msg) (e : Entry Ctx Msg) : Signal → ServerMux Ctx Msg
  | .traces => { mux with trace := some e }
  | .metrics => { mux with metrics := some e }
  | .logs => { mux with logs := some e }

-- `mux.Use`.
def use (mux : ServerMux Ctx Msg) (m : List (MiddlewareFunc Ctx Msg)) : ServerMux Ctx Msg :=
  { mux with middlewares := mux.middlewares ++ m }

-- `mux.Trace()` and its siblings create the entry on first use; `f` is then applied to it.
def withEntry (mux : ServerMux Ctx Msg) (s : Signal) (f : Entry Ctx Msg → Entry Ctx Msg) :
    ServerMux Ctx Msg :=
  mux.setEntry (f ((mux.entry s).getD {})) s

-- The Export method of the signal's entry, when the entry exists.
def signalExport (mux : ServerMux Ctx Msg) (s : Signal) :
    Option (Ctx → Option Msg → Outcome (Option Msg × Option GoError)) :=
  (mux.entry s).map fun e => e.signalExport s mux.middlewares

end ServerMux

-- The registration calls a program makes on a mux.
inductive MuxCall (Ctx Msg : Type) where
  | use (m : List (MiddlewareFunc Ctx Msg))
  | signalUse (s : Signal) (m : List (SignalMiddlewareFunc Ctx Msg))
  | signalHandle (s : Signal) (h : SignalHandler Ctx Msg)

namespace ServerMux

def apply (mux : ServerMux Ctx Msg) : MuxCall Ctx Msg → ServerMux Ctx Msg
  | .use m => mux.use m
  | .signalUse s m => mux.withEntry s (·.use m)
  | .signalHandle s h => mux.withEntry s (·.handle h)

def run (mux : ServerMux Ctx Msg) (calls : List (MuxCall Ctx Msg)) : ServerMux Ctx Msg :=
  calls.foldl apply mux

end ServerMux

-- Registration order as nesting: `nest [m₁, …, mₙ] h = m₁ (… (mₙ h))`.
def nest {α : Type} (ms : List (α → α)) : α → α :=
  ms.foldr (fun m k => m ∘ k) id

@[simp] theorem nest_nil {α : Type} : nest ([] : List (α → α)) = id := rfl

@[simp] theorem nest_cons {α : Type} (m : α → α) (ms : List (α → α)) :
    nest (m :: ms) = m ∘ nest ms := rfl

theorem nest_append {α : Type} (ms ns : List (α → α)) : nest (ms ++ ns) = nest ms ∘ nest ns := by
  induction ms with
  | nil => rfl
  | cons m ms ih => simp only [List.cons_append, nest_cons, ih]; rfl

-- The closure-building loop of `chainedMiddleware`, read as nesting.
private theorem foldl_wrap_eq {α : Type} (l : List (α → α)) (f : α → α) :
    l.foldl (fun next mw => fun h => mw (next h)) f = nest l.reverse ∘ f := by
  induction l generalizing f with
  | nil => rfl
  | cons mw l ih =>
    simp only [List.foldl_cons, List.reverse_cons, nest_append, ih]
    rfl

theorem chainedMiddleware_eq (ms : List (MiddlewareFunc Ctx Msg)) :
    chainedMiddleware ms = nest ms := by
  unfold chainedMiddleware
  split
  · next h => rw [List.reverse_eq_nil_iff.mp h]; rfl
  · next last rest h =>
    rw [foldl_wrap_eq, ← List.reverse_reverse ms, h, List.reverse_cons, nest_append]
    rfl

-- The downward loop of `getHandler`, read as nesting.
private theorem foldl_apply_eq {α : Type} (l : List (α → α)) (h : α) :
    l.foldl (fun wrapped m => m wrapped) h = nest l.reverse h := by
  induction l generalizing h with
  | nil => rfl
  | cons m l ih => simp [ih, nest_append]

theorem Entry.getHandler_eq (e : Entry Ctx Msg) :
    e.getHandler = e.h.map (nest e.middlewares) := by
  unfold Entry.getHandler
  congr 1
  funext h
  rw [foldl_apply_eq, List.reverse_reverse]

namespace MuxCall

def crossMiddlewares : MuxCall Ctx Msg → List (MiddlewareFunc Ctx Msg)
  | .use m => m
  | _ => []

def signalMiddlewares (s : Signal) : MuxCall Ctx Msg → List (SignalMiddlewareFunc Ctx Msg)
  | .signalUse s' m => if s' = s then m else []
  | _ => []

-- Whether the call goes through `mux.Trace()` (or its sibling for `s`).
def touches (s : Signal) : MuxCall Ctx Msg → Bool
  | .use _ => false
  | .signalUse s' _ => s' = s
  | .signalHandle s' _ => s' = s

def handlerFor (s : Signal) : MuxCall Ctx Msg → Option (SignalHandler Ctx Msg)
  | .signalHandle s' h => if s' = s then some h else none
  | _ => none

end MuxCall

-- The handler of the last `Handle` call for the signal.
def lastHandler (s : Signal) (calls : List (MuxCall Ctx Msg)) : Option (SignalHandler Ctx Msg) :=
  calls.foldl (fun acc c => (c.handlerFor s).or acc) none

-- The handler a request meets by the design: the cross-signal layer, first registration
-- outermost, around the signal's layer, first registration outermost, around `h`.
def layeredHandler (cs : List (MiddlewareFunc Ctx Msg)) (ps : List (SignalMiddlewareFunc Ctx Msg))
    (s : Signal) (h : SignalHandler Ctx Msg) : ProtoHandlerFunc Ctx Msg :=
  nest cs (innerHandler s (nest ps h))

-- `Export` after a handler was found: run the chain on the request, then check the response.
def exportThrough (s : Signal) (handler : ProtoHandlerFunc Ctx Msg) (ctx : Ctx) (req : Option Msg) :
    Outcome (Option Msg × Option GoError) :=
  match handler ctx (some ⟨s.requestTypeName, req⟩) with
  | .returned result => .returned (exportResult s result)
  | .panicked reason => .panicked reason

def unimplementedExport : Outcome (Option Msg × Option GoError) :=
  .returned (none, some (statusError Code.unimplemented "method Export not implemented"))

-- The Export a run of registration calls gives a signal by the design: the layered
-- handler around the last handler registered, or unimplemented without one.
def layeredExport (calls : List (MuxCall Ctx Msg)) (s : Signal) : SignalHandler Ctx Msg :=
  fun ctx req =>
    match lastHandler s calls with
    | none => unimplementedExport
    | some h => exportThrough s (layeredHandler (calls.flatMap (·.crossMiddlewares))
        (calls.flatMap (·.signalMiddlewares s)) s h) ctx req

theorem Entry.signalExport_eq (s : Signal) (e : Entry Ctx Msg) (cs : List (MiddlewareFunc Ctx Msg))
    (ctx : Ctx) (req : Option Msg) :
    e.signalExport s cs ctx req =
      match e.h with
      | none => unimplementedExport
      | some h => exportThrough s (layeredHandler cs e.middlewares s h) ctx req := by
  unfold Entry.signalExport
  rw [Entry.getHandler_eq, chainedMiddleware_eq]
  cases e.h <;> rfl

-- A cross-signal middleware that hands the chain a nil message, or a request of another
-- type, makes Export panic at the unchecked conversion `req.(*TraceRequest)` of its inner
-- closure, whatever the handler.
theorem signalExport_foreignRequest_panics (s : Signal) {e : Entry Ctx Msg} {h : SignalHandler Ctx Msg}
    (he : e.h = some h) (ctx : Ctx) (req : Option Msg) :
    e.signalExport s [fun next ctx _ => next ctx none] ctx req =
      .panicked ("interface conversion: protoreflect.ProtoMessage is nil, not " ++ s.requestTypeName) ∧
    ∀ r : Typed Msg, r.typeName ≠ s.requestTypeName →
      e.signalExport s [fun next ctx _ => next ctx (some r)] ctx req =
        .panicked ("interface conversion: protoreflect.ProtoMessage is " ++ r.typeName ++ ", not " ++
          s.requestTypeName) := by
  refine ⟨?_, fun r hr => ?_⟩
  · simp [Entry.signalExport_eq, he, exportThrough, layeredHandler, innerHandler]
  · simp [Entry.signalExport_eq, he, exportThrough, layeredHandler, innerHandler, hr]

-- A trace entry whose handler echoes its request, under a middleware that passes on nil or
-- a metrics request.
theorem signalExport_foreignRequest_panics_traces :
    ({ h := some fun _ req => .returned (req, none) } : Entry Unit Unit).signalExport .traces
        [fun next ctx _ => next ctx none] () (some ()) =
      .panicked "interface conversion: protoreflect.ProtoMessage is nil, not *v1.ExportTraceServiceRequest" ∧
    ({ h := some fun _ req => .returned (req, none) } : Entry Unit Unit).signalExport .traces
        [fun next ctx _ => next ctx (some ⟨Signal.metrics.requestTypeName, some ()⟩)] () (some ()) =
      .panicked ("interface conversion: protoreflect.ProtoMessage is *v1.ExportMetricsServiceRequest, " ++
        "not *v1.ExportTraceServiceRequest") :=
  ⟨(signalExport_foreignRequest_panics .traces rfl () (some ())).1,
    (signalExport_foreignRequest_panics .traces rfl () (some ())).2 _ (by decide)⟩

namespace ServerMux

@[simp] theorem entry_setEntry (mux : ServerMux Ctx Msg) (e : Entry Ctx Msg) (s s' : Signal) :
    (mux.setEntry e s).entry s' = if s' = s then some e else mux.entry s' := by
  cases s <;> cases s' <;> rfl

@[simp] theorem middlewares_setEntry (mux : ServerMux Ctx Msg) (e : Entry Ctx Msg) (s : Signal) :
    (mux.setEntry e s).middlewares = mux.middlewares := by
  cases s <;> rfl

@[simp] theorem entry_use (mux : ServerMux Ctx Msg) (m : List (MiddlewareFunc Ctx Msg)) (s : Signal) :
    (mux.use m).entry s = mux.entry s := by
  cases s <;> rfl

-- One call: the cross-signal list grows by the call's middlewares.
theorem apply_middlewares (mux : ServerMux Ctx Msg) (c : MuxCall Ctx Msg) :
    (mux.apply c).middlewares = mux.middlewares ++ c.crossMiddlewares := by
  cases c <;> simp [apply, use, withEntry, MuxCall.crossMiddlewares]

-- One call: the signal's entry exists afterwards if the call went through it, and its
-- list and handler change as the call says.
theorem apply_entry (mux : ServerMux Ctx Msg) (c : MuxCall Ctx Msg) (s : Signal) :
    (mux.apply c).entry s =
      if c.touches s then
        some { middlewares := ((mux.entry s).getD {}).middlewares ++ c.signalMiddlewares s,
               h := (c.handlerFor s).or ((mux.entry s).getD {}).h }
      else mux.entry s := by
  cases c with
  | use m => simp [apply, MuxCall.touches]
  | signalUse s' m =>
    by_cases hs : s = s' <;>
      simp [apply, withEntry, Entry.use, MuxCall.touches, MuxCall.signalMiddlewares,
        MuxCall.handlerFor, hs, eq_comm]
  | signalHandle s' h =>
    by_cases hs : s = s' <;>
      simp [apply, withEntry, Entry.handle, MuxCall.touches, MuxCall.signalMiddlewares,
        MuxCall.handlerFor, hs, eq_comm]

theorem run_middlewares (mux : ServerMux Ctx Msg) (calls : List (MuxCall Ctx Msg)) :
    (mux.run calls).middlewares = mux.middlewares ++ calls.flatMap MuxCall.crossMiddlewares := by
  induction calls generalizing mux with
  | nil => simp [run]
  | cons c calls ih =>
    simp only [run, List.foldl_cons] at ih ⊢
    rw [ih, apply_middlewares, List.flatMap_cons, List.append_assoc]

-- A whole run: the entry exists iff some call went through it; its middlewares are those
-- of the calls in order, and its handler the last one registered.
theorem run_entry (mux : ServerMux Ctx Msg) (calls : List (MuxCall Ctx Msg)) (s : Signal) :
    ((mux.run calls).entry s).isSome = ((mux.entry s).isSome || calls.any (·.touches s)) ∧
    ((mux.run calls).entry s).getD {} =
      { middlewares := ((mux.entry s).getD {}).middlewares ++ calls.flatMap (·.signalMiddlewares s),
        h := calls.foldl (fun acc c => (c.handlerFor s).or acc) ((mux.entry s).getD {}).h } := by
  induction calls generalizing mux with
  | nil => simp [run]
  | cons c calls ih =>
    simp only [run, List.foldl_cons] at ih ⊢
    obtain ⟨ih₁, ih₂⟩ := ih (mux.apply c)
    rw [ih₁, ih₂, apply_entry]
    by_cases ht : c.touches s
    · simp [ht]
    · obtain ⟨hm, hh⟩ : c.signalMiddlewares s = [] ∧ c.handlerFor s = none := by
        cases c with
        | use m => exact ⟨rfl, rfl⟩
        | signalUse s' m => exact ⟨if_neg (by simpa [MuxCall.touches] using ht), rfl⟩
        | signalHandle s' h => exact ⟨rfl, if_neg (by simpa [MuxCall.touches] using ht)⟩
      simp [ht, hm, hh]

-- After any run of registrations on a new mux, the Export of a signal's entry nests the
-- middlewares of all `Use` calls, in call order, around those of the signal's `Use` calls,
-- in call order, around the handler of its last `Handle` call.
theorem signalExport_run (calls : List (MuxCall Ctx Msg)) (s : Signal) :
    (run {} calls).signalExport s = if calls.any (·.touches s) then some (layeredExport calls s) else none := by
  obtain ⟨hsome, hentry⟩ := run_entry {} calls s
  have hnone : ({} : ServerMux Ctx Msg).entry s = none := by cases s <;> rfl
  simp only [hnone, Option.isSome_none, Bool.false_or, Option.getD_none, List.nil_append] at hsome hentry
  unfold signalExport
  rw [run_middlewares]
  cases he : (run {} calls).entry s with
  | none =>
    simp only [he, Option.isSome_none] at hsome
    rw [← hsome]
    rfl
  | some e =>
    simp only [he, Option.isSome_some, Option.getD_some] at hsome hentry
    rw [← hsome, if_pos rfl, Option.map_some']
    congr 1
    funext ctx req
    rw [Entry.signalExport_eq, hentry]
    rfl

end ServerMux

end OtlpHelper.Server
