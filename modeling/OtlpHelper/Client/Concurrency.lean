import OtlpHelper.Client.Connections

-- The client's calls running at once. `Start` and `Stop` take `c.mu` for writing, the
-- uploads for reading. A goroutine running a call is a thread whose steps are the lock
-- operations and the work between them; a run is any interleaving of the steps of any calls.
namespace OtlpHelper.Client

-- The `ctx.Done()` case of `Stop`'s `select`: call every `CancelFunc` of `c.stopFuncs`.
def cancelStopFuncs (c : Client) : Client :=
  { c with events := c.events ++ c.stopFuncs.map fun e => .cancel e.2 }

-- The sequential `Stop` is that case, when its select takes it, then the close.
theorem Stop_eq_closeConns (ctxErr : Option CtxErr) (selectDone : Bool) (c : Client) :
    Stop ctxErr selectDone c =
      closeConns (if ctxErr.isSome && selectDone then cancelStopFuncs c else c) (ctxErr.map .ctx) :=
  rfl

-- Threads.

-- `Upload<Signal>`: before `c.mu.RLock()`, holding the read lock before the body, holding it
-- with the body's reply (for `.sent conn`, the RPC in flight on `conn`), and returned.
inductive UploadPc where
  | rlock
  | body
  | reply (r : Reply)
  | done (r : Reply)

-- `Start`: before `c.mu.Lock()`, holding the lock before the body and after it, returned.
inductive StartPc where
  | lock
  | body
  | unlock (err : Option ClientError)
  | done (err : Option ClientError)

-- `Stop`: its helper goroutine takes `c.mu.Lock()` while its `select` waits for that or for
-- the context. `begin`: neither happened; `cancelled`: the select took `ctx.Done()` first;
-- `locked`: the helper holds the lock; `holding`: both; then the maps closed, and returned.
inductive StopPc where
  | begin
  | cancelled
  | locked
  | holding
  | closed (err : Option ClientError)
  | done (err : Option ClientError)

inductive Thread where
  | upload (s : Signal) (pc : UploadPc)
  | start (dial : String → List DialOption → Option String) (pc : StartPc)
  | stop (ctxErr : Option CtxErr) (pc : StopPc)

namespace Thread

-- The threads holding `c.mu` for writing: `Start` between `Lock` and `Unlock`, `Stop` once
-- its helper took the lock.
def writes : Thread → Bool
  | .start _ .body | .start _ (.unlock _) => true
  | .stop _ .locked | .stop _ .holding | .stop _ (.closed _) => true
  | _ => false

def reads : Thread → Bool
  | .upload _ .body | .upload _ (.reply _) => true
  | _ => false

-- The connection an upload's RPC is in flight on.
def inFlight : Thread → Option Nat
  | .upload _ (.reply (.sent conn)) => some conn
  | _ => none

theorem reads_of_inFlight {t : Thread} {conn : Nat} (h : t.inFlight = some conn) : t.reads := by
  rcases t with ⟨s, _ | _ | r | r⟩ | _ | _ <;> first | rfl | cases h

-- A call just started.
def spawn : Call → Thread
  | .start dial => .start dial .lock
  | .stop ctxErr _ => .stop ctxErr .begin
  | .upload s => .upload s .rlock

section Steps

variable (sha512Hex : String → String)

-- One step of a thread, with the client it leaves: `wfree` says `c.mu.Lock()` can return,
-- `rfree` that `c.mu.RLock()` can. A body that panics takes no step.
inductive Step (wfree rfree : Bool) (c : Client) : Thread → Thread → Client → Prop
  | rlock {s : Signal} : rfree → Step wfree rfree c (.upload s .rlock) (.upload s .body) c
  | upload {s : Signal} {c' : Client} {r : Reply} : Upload sha512Hex s c = .returned (c', r) →
      Step wfree rfree c (.upload s .body) (.upload s (.reply r)) c'
  | runlock {s : Signal} {r : Reply} : Step wfree rfree c (.upload s (.reply r)) (.upload s (.done r)) c
  | lock {dial : String → List DialOption → Option String} : wfree →
      Step wfree rfree c (.start dial .lock) (.start dial .body) c
  | start {dial : String → List DialOption → Option String} {c' : Client} {err : Option ClientError} :
      Start sha512Hex dial c = .returned (c', err) → Step wfree rfree c (.start dial .body) (.start dial (.unlock err)) c'
  | unlock {dial : String → List DialOption → Option String} {err : Option ClientError} :
      Step wfree rfree c (.start dial (.unlock err)) (.start dial (.done err)) c
  -- The helper goroutine of `Stop` takes the lock before the select chose.
  | stopLock {e : Option CtxErr} : wfree → Step wfree rfree c (.stop e .begin) (.stop e .locked) c
  -- The select takes `ctx.Done()` before the helper has the lock, and waits for it.
  | stopCancel {e : Option CtxErr} : e.isSome → Step wfree rfree c (.stop e .begin) (.stop e .cancelled) (cancelStopFuncs c)
  | stopLockCancelled {e : Option CtxErr} : wfree → Step wfree rfree c (.stop e .cancelled) (.stop e .holding) c
  -- With the lock taken, the select takes `<-acquired`, or `ctx.Done()` when it is done too.
  | stopAcquired {e : Option CtxErr} : Step wfree rfree c (.stop e .locked) (.stop e .holding) c
  | stopCancelLocked {e : Option CtxErr} : e.isSome →
      Step wfree rfree c (.stop e .locked) (.stop e .holding) (cancelStopFuncs c)
  | close {e : Option CtxErr} :
      Step wfree rfree c (.stop e .holding) (.stop e (.closed (closeConns c (e.map .ctx)).2)) (closeConns c (e.map .ctx)).1
  | stopUnlock {e : Option CtxErr} {err : Option ClientError} :
      Step wfree rfree c (.stop e (.closed err)) (.stop e (.done err)) c

-- What a step does to the client.
inductive Effect (c : Client) : Thread → Thread → Client → Prop
  | keep {t t' : Thread} : t'.inFlight = none → Effect c t t' c
  | cancel {t t' : Thread} : t'.inFlight = none → Effect c t t' (cancelStopFuncs c)
  | upload {s : Signal} {c' : Client} {r : Reply} : Upload sha512Hex s c = .returned (c', r) →
      Effect c (.upload s .body) (.upload s (.reply r)) c'
  | start {dial : String → List DialOption → Option String} {c' : Client} {err : Option ClientError} :
      Start sha512Hex dial c = .returned (c', err) → Effect c (.start dial .body) (.start dial (.unlock err)) c'
  | close {e : Option CtxErr} :
      Effect c (.stop e .holding) (.stop e (.closed (closeConns c (e.map .ctx)).2)) (closeConns c (e.map .ctx)).1

variable {sha512Hex} {wfree rfree : Bool} {c c' : Client} {t t' : Thread}

theorem writes_reads : ∀ t : Thread, t.writes → t.reads = false
  | .upload _ _, h => by cases h
  | .start _ _, _ => rfl
  | .stop _ _, _ => rfl

-- A thread comes to hold the lock for writing only when no thread holds it, for reading only
-- when no thread holds it for writing.
theorem Step.acquires (h : Step sha512Hex wfree rfree c t t' c') :
    (t'.writes → t.writes ∨ wfree) ∧ (t'.reads → t.reads ∨ rfree) := by
  cases h <;> simp_all [writes, reads]

theorem Step.effect (h : Step sha512Hex wfree rfree c t t' c') : Effect sha512Hex c t t' c' := by
  cases h with
  | upload hu => exact .upload hu
  | start hs => exact .start hs
  | close => exact .close
  | stopCancel _ | stopCancelLocked _ => exact .cancel rfl
  | rlock _ | runlock | lock _ | unlock | stopLock _ | stopLockCancelled _ | stopAcquired | stopUnlock =>
    exact .keep rfl

end Steps

end Thread

-- What the bodies do to the connections and the log.

-- In the log, every upload on a connection comes before every close of it.
def UploadsBeforeClose (evs : List Event) : Prop :=
  ∀ (i j : Nat) (s : Signal) (conn : Nat), evs[i]? = some (.close conn) → evs[j]? = some (.upload s conn) →
    j < i

theorem UploadsBeforeClose.append {evs more : List Event} (h : UploadsBeforeClose evs)
    (hm : ∀ s conn, Event.upload s conn ∉ more) : UploadsBeforeClose (evs ++ more) := by
  intro i j s conn hi hj
  by_cases hjl : j < evs.length
  · by_cases hil : i < evs.length
    · rw [List.getElem?_append_left hil] at hi
      rw [List.getElem?_append_left hjl] at hj
      exact h i j s conn hi hj
    · omega
  · rw [List.getElem?_append_right (by omega)] at hj
    exact absurd (List.getElem?_mem hj) (hm s conn)

-- An upload on a connection no event closed yet keeps the order.
theorem UploadsBeforeClose.append_upload {evs : List Event} {conn : Nat} (h : UploadsBeforeClose evs)
    (hc : closes evs conn = 0) (s : Signal) : UploadsBeforeClose (evs ++ [.upload s conn]) := by
  intro i j s' conn' hi hj
  have hil : i < evs.length := by
    refine Nat.lt_of_not_le fun hil => ?_
    rw [List.getElem?_append_right hil] at hi
    cases List.mem_singleton.mp (List.getElem?_mem hi)
  rw [List.getElem?_append_left hil] at hi
  by_cases hjl : j < evs.length
  · rw [List.getElem?_append_left hjl] at hj
    exact h i j s' conn' hi hj
  · rw [List.getElem?_append_right (by omega)] at hj
    cases List.mem_singleton.mp (List.getElem?_mem hj)
    exact absurd (List.getElem?_mem hi) fun hm => by simpa using List.countP_eq_zero.mp hc _ hm

theorem closes_append (evs more : List Event) (conn : Nat) :
    closes (evs ++ more) conn = closes evs conn + closes more conn :=
  List.countP_append _ _ _

-- The log's hold on the connections: present ones were never closed, closed ones are older
-- than `fresh`, uploads come before closes, and no connection is closed twice.
structure ConnLog (c : Client) : Prop where
  present : ∀ e ∈ c.conns, closes c.events e.2 = 0
  old : ∀ conn, closes c.events conn ≠ 0 → conn < c.fresh
  order : UploadsBeforeClose c.events
  once : ∀ conn, closes c.events conn ≤ 1

theorem ConnLog.empty (o : ClientOptions) : ConnLog { o } :=
  ⟨fun _ h => (by cases h), fun _ h => absurd rfl h, fun _ _ _ _ h => (by cases h), fun _ => Nat.zero_le 1⟩

-- Events that close nothing and upload nothing, appended to the log.
theorem ConnLog.append {c : Client} (h : ConnLog c) {more : List Event}
    (hc : ∀ conn, closes more conn = 0) (hu : ∀ s conn, Event.upload s conn ∉ more) :
    ConnLog { c with events := c.events ++ more } :=
  ⟨fun e he => by simpa [closes_append, hc] using h.present e he,
    fun conn hn => h.old conn (by simpa [closes_append, hc] using hn), h.order.append hu,
    fun conn => by simpa [closes_append, hc] using h.once conn⟩

theorem ConnLog.cancel {c : Client} (h : ConnLog c) : ConnLog (cancelStopFuncs c) :=
  h.append (fun _ => by simp [closes]) (fun _ _ => by simp)

theorem ConnLog.addConn {c : Client} (h : ConnLog c) (info : ConnectionInfo) : ConnLog (c.addConn info) := by
  have h' := @ConnLog.append c h [.dial info.connHash info.target info.dialOptions c.fresh]
    (fun _ => rfl) (fun _ _ hm => by cases List.mem_singleton.mp hm)
  refine ⟨fun e he => ?_, fun conn hn => Nat.lt_succ_of_lt (h'.old conn hn), h'.order, h'.once⟩
  rcases List.mem_cons.mp he with rfl | he
  · exact Decidable.byContradiction fun hn => Nat.lt_irrefl _ (h'.old _ hn)
  · exact h'.present e (List.mem_filter.mp he).1

section Bodies

variable {sha512Hex : String → String}

theorem AddsConn.connLog {c c' : Client} (h : AddsConn sha512Hex c c') (hl : ConnLog c) : ConnLog c' := by
  rcases h with rfl | ⟨info, -, -, rfl⟩
  · exact hl
  · exact hl.addConn info

-- The connection and its stop context and `CancelFunc` go in under one key and one number.
theorem AddsConn.stopFuncs_conns {c c' : Client} (h : AddsConn sha512Hex c c') (hc : c.stopFuncs = c.conns) :
    c'.stopFuncs = c'.conns := by
  rcases h with rfl | ⟨info, -, -, rfl⟩
  · exact hc
  · exact congrArg (mapSet · info.connHash c.fresh) hc

-- What every `startGRPC` keeps, `Start`'s loop keeps.
theorem startSignals_preserves {P : Client → Prop} (hP : ∀ {c c' : Client}, AddsConn sha512Hex c c' → P c → P c')
    {dial : String → List DialOption → Option String} :
    ∀ {ss : List Signal} {c c' : Client} {err : Option ClientError},
    startSignals sha512Hex dial ss c = .returned (c', err) → P c → P c'
  | [], c, c', err, h, hl => by cases h; exact hl
  | s :: ss, c, c', err, h, hl => by
    unfold startSignals at h
    cases h₁ : startSignal sha512Hex dial s c with
    | panicked r => rw [h₁] at h; cases h
    | returned p =>
      obtain ⟨c₁, err₁⟩ := p
      have hl₁ := hP (startSignal_cases sha512Hex h₁).1 hl
      cases err₁ with
      | some e => rw [h₁] at h; cases h; exact hl₁
      | none => rw [h₁] at h; exact startSignals_preserves hP h hl₁

-- `Upload<Signal>` reads the maps: it changes nothing, or logs an upload on a present
-- connection and replies that it was sent.
theorem Upload_cases {s : Signal} {c c' : Client} {r : Reply} (h : Upload sha512Hex s c = .returned (c', r)) :
    (c' = c ∧ ∀ conn, r ≠ .sent conn) ∨
    ∃ conn, r = .sent conn ∧ conn ∈ c.conns.map (·.2) ∧ c' = { c with events := c.events ++ [.upload s conn] } := by
  unfold Upload uploadWithGRPC at h
  split at h
  · cases hb : buildGRPCConnectionInfo sha512Hex (c.o.signal s) with
    | panicked _ => rw [hb] at h; cases h
    | returned info =>
      simp only [hb] at h
      cases hl : c.conns.lookup info.connHash with
      | none => rw [hl] at h; cases h; exact .inl ⟨rfl, fun _ h => by cases h⟩
      | some conn =>
        rw [hl] at h; cases h
        obtain ⟨l₁, l₂, hc, -⟩ := List.lookup_eq_some_iff.mp hl
        exact .inr ⟨conn, rfl, List.mem_map.mpr ⟨(info.connHash, conn), by simp [hc], rfl⟩, rfl⟩
  · cases h; exact .inl ⟨rfl, fun _ h => by cases h⟩

theorem Inv.cancel {c : Client} (hi : Inv sha512Hex c) : Inv sha512Hex (cancelStopFuncs c) :=
  ⟨hi.stopContexts_keys, hi.stopFuncs_keys, hi.grpc_keys, hi.conns_nodup, hi.conns_fresh⟩

theorem Inv.close {c : Client} (hi : Inv sha512Hex c) (e : Option CtxErr) :
    Inv sha512Hex (closeConns c (e.map .ctx)).1 := by
  simpa [Stop_eq_closeConns] using Stop_inv sha512Hex hi e false

-- Closing empties the map and logs only closes of the connections it held.
theorem ConnLog.close {c : Client} (hi : Inv sha512Hex c) (hl : ConnLog c) (e : Option CtxErr) :
    ConnLog (closeConns c (e.map .ctx)).1 := by
  have hs : StopSpec c (closeConns c (e.map .ctx)).1 (closeConns c (e.map .ctx)).2 := by
    simpa [Stop_eq_closeConns] using Stop_spec sha512Hex hi e false
  have hfresh : (closeConns c (e.map .ctx)).1.fresh = c.fresh := by
    unfold closeConns; split <;> rfl
  refine ⟨fun e he => (by rw [hs.conns] at he; cases he), fun conn hn => ?_, ?_, fun conn => ?_⟩
  · rw [hfresh]
    by_cases hm : conn ∈ c.conns.map (·.2)
    · obtain ⟨e, he, rfl⟩ := List.mem_map.mp hm
      exact hi.conns_fresh e he
    · exact hl.old conn (by rwa [← hs.closes_other conn hm])
  · unfold closeConns
    split
    · exact hl.order
    · exact hl.order.append fun _ _ hm => by simp at hm
  · by_cases hm : conn ∈ c.conns.map (·.2)
    · obtain ⟨e, he, rfl⟩ := List.mem_map.mp hm
      exact Nat.le_of_eq (by rw [hs.closes_present _ hm, hl.present e he])
    · exact Nat.le_trans (Nat.le_of_eq (hs.closes_other conn hm)) (hl.once conn)

-- Closing empties the two maps together, or leaves both as they are.
theorem closeConns_stopFuncs_conns {c : Client} (hc : c.stopFuncs = c.conns) (err : Option ClientError) :
    (closeConns c err).1.stopFuncs = (closeConns c err).1.conns := by
  unfold closeConns
  split
  · exact hc
  · rfl

-- An upload logs its RPC on a connection that is present, hence not closed.
theorem ConnLog.upload {s : Signal} {c c' : Client} {r : Reply} (hl : ConnLog c)
    (h : Upload sha512Hex s c = .returned (c', r)) : ConnLog c' := by
  rcases Upload_cases h with ⟨rfl, -⟩ | ⟨conn, -, hconn, rfl⟩
  · exact hl
  · obtain ⟨e, he, rfl⟩ := List.mem_map.mp hconn
    have hc : ∀ conn, closes (c.events ++ [.upload s e.2]) conn = closes c.events conn :=
      fun conn => closes_append _ _ conn
    exact ⟨fun e' he' => (hc _).trans (hl.present e' he'), fun conn hn => hl.old conn (by rwa [hc] at hn),
      hl.order.append_upload (hl.present e he) s, fun conn => Nat.le_trans (Nat.le_of_eq (hc conn)) (hl.once conn)⟩

end Bodies

-- Runs.

-- The client and the goroutines running calls on it.
structure World where
  c : Client
  threads : List Thread

namespace World

-- `c.mu.Lock()` can return: no thread holds the lock.
def wfree (w : World) : Bool :=
  w.threads.countP Thread.writes == 0 && w.threads.countP Thread.reads == 0

-- `c.mu.RLock()` can return: no thread holds it for writing.
def rfree (w : World) : Bool :=
  w.threads.countP Thread.writes == 0

section Runs

variable (sha512Hex : String → String)

-- The worlds of a client `NewClient` returned: a call starts at any time, and any thread
-- takes its next step.
inductive Reachable (lib : Lib) : World → Prop
  | new {endpoint : String} {opts : List ClientOption} {c : Client} :
      NewClient lib endpoint opts = .ok c → Reachable lib ⟨c, []⟩
  | spawn {w : World} (call : Call) : Reachable lib w → Reachable lib ⟨w.c, w.threads ++ [Thread.spawn call]⟩
  | step {w : World} {i : Nat} {t t' : Thread} {c' : Client} : Reachable lib w → w.threads[i]? = some t →
      Thread.Step sha512Hex w.wfree w.rfree w.c t t' c' → Reachable lib ⟨c', w.threads.set i t'⟩

-- What holds in every reachable world: the maps' invariant, the log's hold on the
-- connections, the lock's exclusion, that each RPC in flight runs on a present connection,
-- and that each connection's `CancelFunc` is under its key with its number.
structure Safe (w : World) : Prop where
  inv : Inv sha512Hex w.c
  log : ConnLog w.c
  writers : w.threads.countP Thread.writes ≤ 1
  exclusive : 0 < w.threads.countP Thread.writes → w.threads.countP Thread.reads = 0
  inFlight : ∀ t ∈ w.threads, ∀ conn, t.inFlight = some conn → conn ∈ w.c.conns.map (·.2)
  stopFuncs_conns : w.c.stopFuncs = w.c.conns

variable {sha512Hex}

-- A thread that steps takes the lock only as `wfree` and `rfree` allow, so the counts keep
-- at most one writer and no reader beside it.
theorem lock_set {ts : List Thread} {i : Nat} {t t' : Thread} (ht : ts[i]? = some t)
    (hw : ts.countP Thread.writes ≤ 1) (hx : 0 < ts.countP Thread.writes → ts.countP Thread.reads = 0)
    (hacq : (t'.writes → t.writes ∨ (ts.countP Thread.writes == 0 && ts.countP Thread.reads == 0)) ∧
      (t'.reads → t.reads ∨ ts.countP Thread.writes == 0)) :
    (ts.set i t').countP Thread.writes ≤ 1 ∧
      (0 < (ts.set i t').countP Thread.writes → (ts.set i t').countP Thread.reads = 0) := by
  obtain ⟨hi, rfl⟩ := List.getElem?_eq_some_iff.mp ht
  have hlw := List.boole_getElem_le_countP Thread.writes ts i hi
  have hlr := List.boole_getElem_le_countP Thread.reads ts i hi
  have h₁ := Thread.writes_reads ts[i]
  have h₂ := Thread.writes_reads t'
  rw [List.countP_set _ _ _ _ hi, List.countP_set _ _ _ _ hi]
  revert hacq hlw hlr h₁ h₂ hx hw
  generalize ts[i].writes = a, ts[i].reads = b, t'.writes = a', t'.reads = b'
  generalize ts.countP Thread.writes = W, ts.countP Thread.reads = R
  cases a <;> cases b <;> cases a' <;> cases b' <;> simp <;> omega

theorem Safe.step {w : World} {i : Nat} {t t' : Thread} {c' : Client} (hs : Safe sha512Hex w)
    (ht : w.threads[i]? = some t) (h : Thread.Step sha512Hex w.wfree w.rfree w.c t t' c') :
    Safe sha512Hex ⟨c', w.threads.set i t'⟩ := by
  obtain ⟨hw, hx⟩ := lock_set ht hs.writers hs.exclusive h.acquires
  -- The RPCs in flight after the step: the other threads', and the stepping thread's.
  have hset : ∀ {conns : List Nat}, (∀ u ∈ w.threads, ∀ conn, u.inFlight = some conn → conn ∈ conns) →
      (∀ conn, t'.inFlight = some conn → conn ∈ conns) →
      ∀ u ∈ w.threads.set i t', ∀ conn, u.inFlight = some conn → conn ∈ conns :=
    fun hold hnew u hu conn hc => (List.mem_or_eq_of_mem_set hu).elim (hold u · conn hc) fun h => hnew conn (h ▸ hc)
  have hnone : t'.inFlight = none → ∀ (conns : List Nat) conn, t'.inFlight = some conn → conn ∈ conns :=
    fun hn _ conn hc => by rw [hn] at hc; cases hc
  -- Nothing is in flight beside a thread that holds the lock for writing.
  have hwrite : t.writes → ∀ (conns : List Nat), ∀ u ∈ w.threads, ∀ conn, u.inFlight = some conn → conn ∈ conns :=
    fun htw _ u hu _ hc => absurd (Thread.reads_of_inFlight hc)
      (List.countP_eq_zero.mp (hs.exclusive (List.countP_pos_iff.mpr ⟨t, List.getElem?_mem ht, htw⟩)) u hu)
  cases h.effect with
  | keep hn => exact ⟨hs.inv, hs.log, hw, hx, hset hs.inFlight (hnone hn _), hs.stopFuncs_conns⟩
  | cancel hn =>
    exact ⟨hs.inv.cancel, hs.log.cancel, hw, hx, hset hs.inFlight (hnone hn _), hs.stopFuncs_conns⟩
  | @upload s c₁ r hu =>
    have hinv := Upload_inv sha512Hex hs.inv hu
    have hlog := hs.log.upload hu
    rcases Upload_cases hu with ⟨rfl, hr⟩ | ⟨conn', rfl, hconn, rfl⟩
    · refine ⟨hinv, hlog, hw, hx, hset hs.inFlight fun conn hc => ?_, hs.stopFuncs_conns⟩
      cases r with
      | sent c₀ => exact absurd rfl (hr c₀)
      | _ => cases hc
    · exact ⟨hinv, hlog, hw, hx, hset hs.inFlight fun conn hc => by cases hc; exact hconn, hs.stopFuncs_conns⟩
  | start hst =>
    exact ⟨(Start_spec sha512Hex hst hs.inv).1, startSignals_preserves (fun h => h.connLog) hst hs.log, hw, hx,
      hset (hwrite rfl _) (hnone rfl _), startSignals_preserves (fun h => h.stopFuncs_conns) hst hs.stopFuncs_conns⟩
  | @close e =>
    exact ⟨hs.inv.close e, hs.log.close hs.inv e, hw, hx, hset (hwrite rfl _) (hnone rfl _),
      closeConns_stopFuncs_conns hs.stopFuncs_conns _⟩

theorem Safe.spawn {w : World} (hs : Safe sha512Hex w) (call : Call) :
    Safe sha512Hex ⟨w.c, w.threads ++ [Thread.spawn call]⟩ := by
  have hw : (Thread.spawn call).writes = false := by cases call <;> rfl
  have hr : (Thread.spawn call).reads = false := by cases call <;> rfl
  refine ⟨hs.inv, hs.log, ?_, ?_, fun u hu conn hc => ?_, hs.stopFuncs_conns⟩
  · simpa [hw] using hs.writers
  · simpa [hw, hr] using hs.exclusive
  · rcases List.mem_append.mp hu with hu | hu
    · exact hs.inFlight u hu conn hc
    · rw [List.mem_singleton.mp hu] at hc
      cases call <;> cases hc

theorem Reachable.safe {lib : Lib} {w : World} (h : Reachable sha512Hex lib w) : Safe sha512Hex w := by
  induction h with
  | new hn =>
    obtain ⟨o, -, ho⟩ := GoResult.bind_eq_ok.mp hn
    cases ho
    exact ⟨Inv.empty sha512Hex o, ConnLog.empty o, by simp, by simp, fun _ hu => (by cases hu), rfl⟩
  | spawn call _ ih => exact ih.spawn call
  | step _ ht hs ih => exact ih.step ht hs

-- Any interleaving of any calls on a client `NewClient` returned keeps `c.mu` exclusive (at
-- most one writer, never beside a reader) and the maps' invariant; an upload whose RPC is in
-- flight holds a connection of `c.conns` that no event closed; and the log never shows an
-- upload on a connection after its close.
theorem concurrent_calls_safe {lib : Lib} {w : World} (h : Reachable sha512Hex lib w) :
    w.threads.countP Thread.writes ≤ 1 ∧
    (0 < w.threads.countP Thread.writes → w.threads.countP Thread.reads = 0) ∧
    Inv sha512Hex w.c ∧
    (∀ t ∈ w.threads, ∀ conn, t.inFlight = some conn →
      conn ∈ w.c.conns.map (·.2) ∧ closes w.c.events conn = 0) ∧
    UploadsBeforeClose w.c.events := by
  have hs := h.safe
  refine ⟨hs.writers, hs.exclusive, hs.inv, fun t ht conn hc => ⟨hs.inFlight t ht conn hc, ?_⟩, hs.log.order⟩
  obtain ⟨e, he, rfl⟩ := List.mem_map.mp (hs.inFlight t ht conn hc)
  exact hs.log.present e he

-- After `Start` dialled the traces connection, an upload's RPC is in flight on it while a
-- `Stop` has begun.
theorem concurrent_calls_safe_localhost :
    ∃ w : World, Reachable id Stdlib.lib w ∧
      w.threads = [.start (fun _ _ => none) (.done none), .upload .traces (.reply (.sent 0)), .stop none .begin] ∧
      (w.threads.countP Thread.writes ≤ 1 ∧
        (0 < w.threads.countP Thread.writes → w.threads.countP Thread.reads = 0) ∧
        Inv id w.c ∧
        (∀ t ∈ w.threads, ∀ conn, t.inFlight = some conn →
          conn ∈ w.c.conns.map (·.2) ∧ closes w.c.events conn = 0) ∧
        UploadsBeforeClose w.c.events) := by
  have h₀ := (@Reachable.new id Stdlib.lib "http://localhost:4317" [] _ rfl).spawn (.start fun _ _ => none)
  have h₁ := @Reachable.step id Stdlib.lib _ 0 _ _ _ h₀ rfl (Thread.Step.lock rfl)
  have h₂ := @Reachable.step id Stdlib.lib _ 0 _ _ _ h₁ rfl (Thread.Step.start rfl)
  have h₃ := (@Reachable.step id Stdlib.lib _ 0 _ _ _ h₂ rfl Thread.Step.unlock).spawn (.upload .traces)
  have h₄ := @Reachable.step id Stdlib.lib _ 1 _ _ _ h₃ rfl (Thread.Step.rlock rfl)
  have h₅ := (@Reachable.step id Stdlib.lib _ 1 _ _ _ h₄ rfl (Thread.Step.upload rfl)).spawn (.stop none false)
  exact ⟨_, h₅, rfl, concurrent_calls_safe h₅⟩

-- `Start` takes the lock from a fresh client while a `Stop` has begun.
theorem reachable_start_stop {lib : Lib} {endpoint : String} {opts : List ClientOption} {c : Client}
    (hc : NewClient lib endpoint opts = .ok c) (dial : String → List DialOption → Option String)
    (e : Option CtxErr) (selectDone : Bool) :
    Reachable sha512Hex lib ⟨c, [.start dial .body, .stop e .begin]⟩ :=
  .spawn (.stop e selectDone)
    (@Reachable.step sha512Hex lib _ 0 _ _ _ (.spawn (.start dial) (.new hc)) rfl (Thread.Step.lock rfl))

-- When `Stop`'s select takes `ctx.Done()`, the `CancelFunc`s it calls cancel the stop context
-- of every connection an upload's RPC is in flight on, which ends that RPC's context.
theorem stop_cancels_inFlight {lib : Lib} {w : World} (h : Reachable sha512Hex lib w) :
    ∀ u ∈ w.threads, ∀ conn, u.inFlight = some conn → Event.cancel conn ∈ (cancelStopFuncs w.c).events := by
  intro u hu conn hc
  obtain ⟨e, he, rfl⟩ := List.mem_map.mp (h.safe.inFlight u hu conn hc)
  rw [← h.safe.stopFuncs_conns] at he
  exact List.mem_append_right _ (List.mem_map_of_mem _ he)

-- `Start` dials the traces connection, an upload takes it, and its RPC is in flight on it.
theorem stop_cancels_inFlight_traces :
    ∃ w, Reachable id Stdlib.lib w ∧ ∃ u ∈ w.threads, u.inFlight = some 0 ∧
      Event.cancel 0 ∈ (cancelStopFuncs w.c).events := by
  have h₀ := (@Reachable.new id Stdlib.lib "http://localhost:4317" [] _ rfl).spawn (.start fun _ _ => none)
  have h₁ := @Reachable.step id Stdlib.lib _ 0 _ _ _ h₀ rfl (Thread.Step.lock rfl)
  have h₂ := @Reachable.step id Stdlib.lib _ 0 _ _ _ h₁ rfl (Thread.Step.start rfl)
  have h₃ := (@Reachable.step id Stdlib.lib _ 0 _ _ _ h₂ rfl Thread.Step.unlock).spawn (.upload .traces)
  have h₄ := @Reachable.step id Stdlib.lib _ 1 _ _ _ h₃ rfl (Thread.Step.rlock rfl)
  have h₅ := @Reachable.step id Stdlib.lib _ 1 _ _ _ h₄ rfl (Thread.Step.upload rfl)
  refine ⟨_, h₅, .upload .traces (.reply (.sent 0)), ?_, rfl,
    stop_cancels_inFlight h₅ (.upload .traces (.reply (.sent 0))) ?_ 0 rfl⟩ <;>
    exact @List.getElem?_mem _ _ 1 _ rfl

-- However the calls interleave, each connection is closed at most once: every close runs
-- under the lock and empties the map it closes, so a later `Stop` finds no connection.
theorem conns_closed_once {lib : Lib} {w : World} (h : Reachable sha512Hex lib w) (conn : Nat) :
    closes w.c.events conn ≤ 1 :=
  h.safe.log.once conn

-- After `Start`, two `Stop`s close in turn: the first closes the traces connection, the
-- second finds none and returns `ErrAlreadyClosed`.
theorem conns_closed_once_twoStops :
    ∃ c, Reachable id Stdlib.lib ⟨c, [.start (fun _ _ => none) (.done none), .stop none (.done none),
      .stop none (.closed (some .alreadyClosed))]⟩ ∧ closes c.events 0 = 1 ∧ closes c.events 0 ≤ 1 := by
  have h₀ := (@Reachable.new id Stdlib.lib "http://localhost:4317" [] _ rfl).spawn (.start fun _ _ => none)
  have h₁ := @Reachable.step id Stdlib.lib _ 0 _ _ _ h₀ rfl (Thread.Step.lock rfl)
  have h₂ := @Reachable.step id Stdlib.lib _ 0 _ _ _ h₁ rfl (Thread.Step.start rfl)
  have h₃ := (@Reachable.step id Stdlib.lib _ 0 _ _ _ h₂ rfl Thread.Step.unlock).spawn (.stop none false)
  have h₄ := @Reachable.step id Stdlib.lib _ 1 _ _ _ h₃ rfl (Thread.Step.stopLock rfl)
  have h₅ := @Reachable.step id Stdlib.lib _ 1 _ _ _ h₄ rfl Thread.Step.stopAcquired
  have h₆ := @Reachable.step id Stdlib.lib _ 1 _ _ _ h₅ rfl Thread.Step.close
  have h₇ := (@Reachable.step id Stdlib.lib _ 1 _ _ _ h₆ rfl Thread.Step.stopUnlock).spawn (.stop none false)
  have h₈ := @Reachable.step id Stdlib.lib _ 2 _ _ _ h₇ rfl (Thread.Step.stopLock rfl)
  have h₉ := @Reachable.step id Stdlib.lib _ 2 _ _ _ h₈ rfl Thread.Step.stopAcquired
  have h₁₀ := @Reachable.step id Stdlib.lib _ 2 _ _ _ h₉ rfl Thread.Step.close
  exact ⟨_, h₁₀, rfl, conns_closed_once h₁₀ 0⟩

end Runs

-- Sequential runs.

section Sequential

variable {sha512Hex : String → String} {lib : Lib}

-- No thread holds `c.mu`: every call started so far has returned.
def Idle (ts : List Thread) : Prop := ∀ t ∈ ts, t.writes = false ∧ t.reads = false

theorem Idle.append {ts : List Thread} {t : Thread} (hts : Idle ts) (hw : t.writes = false) (hr : t.reads = false) :
    Idle (ts ++ [t]) := fun u hu =>
  (List.mem_append.mp hu).elim (hts u) fun h => by rw [List.mem_singleton.mp h]; exact ⟨hw, hr⟩

-- Beside returned calls only, the last one can take the lock either way.
theorem free_of_idle (c : Client) {ts : List Thread} {t : Thread} (hts : Idle ts) (hw : t.writes = false)
    (hr : t.reads = false) : wfree ⟨c, ts ++ [t]⟩ = true ∧ rfree ⟨c, ts ++ [t]⟩ = true := by
  have hw₀ : (ts ++ [t]).countP Thread.writes = 0 :=
    List.countP_eq_zero.mpr fun u hu => by simp [(hts.append hw hr u hu).1]
  have hr₀ : (ts ++ [t]).countP Thread.reads = 0 :=
    List.countP_eq_zero.mpr fun u hu => by simp [(hts.append hw hr u hu).2]
  simp [wfree, rfree, hw₀, hr₀]

-- The call spawned last takes a step.
theorem Reachable.step_last {c c' : Client} {ts : List Thread} {t t' : Thread}
    (h : Reachable sha512Hex lib ⟨c, ts ++ [t]⟩)
    (hs : Thread.Step sha512Hex (wfree ⟨c, ts ++ [t]⟩) (rfree ⟨c, ts ++ [t]⟩) c t t' c') :
    Reachable sha512Hex lib ⟨c', ts ++ [t']⟩ := by
  simpa using @Reachable.step sha512Hex lib _ ts.length t t' c' h (by simp) hs

-- A call made while every earlier one has returned runs alone to its end, through the
-- steps of the concurrent model, and leaves the client the sequential call leaves.
theorem Reachable.call {c c' : Client} {ts : List Thread} (h : Reachable sha512Hex lib ⟨c, ts⟩) (hts : Idle ts)
    {call : Call} {r : Reply} (hc : c.step sha512Hex call = .returned (c', r)) :
    ∃ t, Reachable sha512Hex lib ⟨c', ts ++ [t]⟩ ∧ t.writes = false ∧ t.reads = false := by
  have h₀ : Reachable sha512Hex lib ⟨c, ts ++ [Thread.spawn call]⟩ := h.spawn call
  cases call with
  | start dial =>
    cases hS : Start sha512Hex dial c with
    | panicked _ => simp [Client.step, hS] at hc
    | returned p =>
      obtain ⟨c₁, err⟩ := p
      simp only [Client.step, hS, Outcome.returned.injEq, Prod.mk.injEq] at hc
      obtain ⟨rfl, -⟩ := hc
      have h₁ := h₀.step_last (Thread.Step.lock (free_of_idle c hts (by rfl) (by rfl)).1)
      exact ⟨_, (h₁.step_last (Thread.Step.start hS)).step_last Thread.Step.unlock, rfl, rfl⟩
  | stop e selectDone =>
    simp only [Client.step, Outcome.returned.injEq, Prod.mk.injEq] at hc
    obtain ⟨rfl, -⟩ := hc
    rw [Stop_eq_closeConns]
    by_cases hd : e.isSome && selectDone
    · rw [if_pos hd]
      have h₁ := h₀.step_last (Thread.Step.stopCancel (Bool.and_eq_true _ _ ▸ hd).1)
      have h₂ := h₁.step_last (Thread.Step.stopLockCancelled (free_of_idle _ hts (by rfl) (by rfl)).1)
      exact ⟨_, (h₂.step_last Thread.Step.close).step_last Thread.Step.stopUnlock, rfl, rfl⟩
    · rw [if_neg hd]
      have h₁ := h₀.step_last (Thread.Step.stopLock (free_of_idle c hts (by rfl) (by rfl)).1)
      have h₂ := h₁.step_last Thread.Step.stopAcquired
      exact ⟨_, (h₂.step_last Thread.Step.close).step_last Thread.Step.stopUnlock, rfl, rfl⟩
  | upload s =>
    have h₁ := h₀.step_last (Thread.Step.rlock (free_of_idle c hts (by rfl) (by rfl)).2)
    exact ⟨_, (h₁.step_last (Thread.Step.upload hc)).step_last Thread.Step.runlock, rfl, rfl⟩

-- Every client a sequential run reaches, a run of the concurrent model reaches with every
-- call returned.
theorem reachable_interleaving {c : Client} (h : OtlpHelper.Client.Reachable sha512Hex lib c) :
    ∃ ts, Reachable sha512Hex lib ⟨c, ts⟩ ∧ Idle ts := by
  induction h with
  | new hn => exact ⟨[], .new hn, fun _ h => by cases h⟩
  | step _ hc ih =>
    obtain ⟨ts, hw, hts⟩ := ih
    obtain ⟨t, ht, hw', hr'⟩ := hw.call hts hc
    exact ⟨ts ++ [t], ht, hts.append hw' hr'⟩

-- Calls made one after another are one interleaving, each call running alone: what holds
-- in every interleaving holds after them, so the log shows no upload on a connection after
-- its close and no connection closed twice.
theorem sequential_runs_safe {c : Client} (h : OtlpHelper.Client.Reachable sha512Hex lib c) :
    (∃ ts, Reachable sha512Hex lib ⟨c, ts⟩ ∧ Idle ts) ∧ UploadsBeforeClose c.events ∧
      ∀ conn, closes c.events conn ≤ 1 := by
  obtain ⟨ts, hw, hts⟩ := reachable_interleaving h
  exact ⟨⟨ts, hw, hts⟩, hw.safe.log.order, hw.safe.log.once⟩

-- `Start` then `Stop` on the default client: the traces connection is closed once.
theorem sequential_runs_safe_startStop :
    ∃ c, OtlpHelper.Client.Reachable id Stdlib.lib c ∧ closes c.events 0 = 1 ∧
      (∃ ts, Reachable id Stdlib.lib ⟨c, ts⟩ ∧ Idle ts) ∧ UploadsBeforeClose c.events ∧
        ∀ conn, closes c.events conn ≤ 1 := by
  have h₁ := @OtlpHelper.Client.Reachable.step id Stdlib.lib _ _ (.start fun _ _ => none) _
    (@OtlpHelper.Client.Reachable.new id Stdlib.lib "http://localhost:4317" [] _ rfl) rfl
  have h₂ := @OtlpHelper.Client.Reachable.step id Stdlib.lib _ _ (.stop none false) _ h₁ rfl
  exact ⟨_, h₂, rfl, sequential_runs_safe h₂⟩

end Sequential

end World

end OtlpHelper.Client
