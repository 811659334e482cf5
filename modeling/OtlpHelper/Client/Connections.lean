import OtlpHelper.Client.Lifecycle
import OtlpHelper.Client.Stdlib

namespace OtlpHelper.Client

theorem lookup_eq_none_iff {α : Type} {m : List (String × α)} {k : String} :
    m.lookup k = none ↔ ∀ e ∈ m, e.1 ≠ k := by
  induction m with
  | nil => simp
  | cons e m ih =>
    obtain ⟨a, b⟩ := e
    by_cases h : k = a
    · subst h; simp [List.lookup_cons]
    · simp [List.lookup_cons, beq_false_of_ne h, ih, Ne.symm h]

-- Setting a key a map does not hold adds one entry in front.
theorem mapSet_of_lookup_eq_none {α : Type} {m : List (String × α)} {k : String} (v : α)
    (h : m.lookup k = none) : mapSet m k v = (k, v) :: m := by
  unfold mapSet
  rw [List.filter_eq_self.mpr fun e he => by simpa using lookup_eq_none_iff.mp h e he]

theorem eq_nil_of_lookup_eq_none {α : Type} {m : List (String × α)}
    (h : ∀ k, m.lookup k = none) : m = [] := by
  cases m with
  | nil => rfl
  | cons e m => simpa [List.lookup_cons] using h e.1

-- How many times the events dial a connection under key `k`, and close connection `conn`.
def dials (evs : List Event) (k : String) : Nat :=
  evs.countP fun | .dial k' _ _ _ => k' = k | _ => false

def closes (evs : List Event) (conn : Nat) : Nat :=
  evs.countP fun | .close c => c = conn | _ => false

private theorem count_of_nodup {l : List Nat} (h : l.Nodup) (a : Nat) :
    l.count a = if a ∈ l then 1 else 0 := by
  induction l with
  | nil => rfl
  | cons b l ih =>
    rw [List.nodup_cons] at h
    rw [List.count_cons, ih h.2]
    by_cases hb : b = a
    · subst hb; simp [h.1]
    · simp [hb, Ne.symm hb]

theorem closes_map (evs : List Event) (conns : List (String × Nat)) (conn : Nat) :
    closes (evs ++ conns.map fun e => .close e.2) conn =
      closes evs conn + (conns.map (·.2)).count conn := by
  simp only [closes, List.countP_append, List.countP_map, List.count, List.countP_map]
  rfl

variable (sha512Hex : String → String)

-- The invariant of the client's maps: one key set, the keys of gRPC signals, and distinct
-- fresh connection ids.
structure Inv (c : Client) : Prop where
  stopContexts_keys : ∀ k, (c.stopContexts.lookup k).isSome = (c.conns.lookup k).isSome
  stopFuncs_keys : ∀ k, (c.stopFuncs.lookup k).isSome = (c.conns.lookup k).isSome
  grpc_keys : ∀ k, (c.conns.lookup k).isSome →
    ∃ s, (c.o.signal s).isGRPCProtocol ∧ connKey sha512Hex (c.o.signal s) = some k
  conns_nodup : (c.conns.map (·.2)).Nodup
  conns_fresh : ∀ e ∈ c.conns, e.2 < c.fresh

theorem Inv.empty (o : ClientOptions) : Inv sha512Hex { o } :=
  ⟨fun _ => rfl, fun _ => rfl, fun _ h => (by cases h), List.nodup_nil, fun _ h => (by cases h)⟩

private theorem lookup_eq_none_of_keys {c : Client} {k : String} {m : List (String × Nat)}
    (hm : ∀ k, (m.lookup k).isSome = (c.conns.lookup k).isSome) (hk : c.conns.lookup k = none) :
    m.lookup k = none := by
  have := hm k
  rw [hk] at this
  cases h : m.lookup k <;> simp_all

-- Adding a connection under an absent key of a gRPC signal keeps the invariant.
theorem Inv.addConn {c : Client} {info : ConnectionInfo} (hi : Inv sha512Hex c)
    (hk : c.conns.lookup info.connHash = none)
    (hs : ∃ s, (c.o.signal s).isGRPCProtocol ∧ connKey sha512Hex (c.o.signal s) = some info.connHash) :
    Inv sha512Hex (c.addConn info) := by
  have hsc := lookup_eq_none_of_keys hi.stopContexts_keys hk
  have hsf := lookup_eq_none_of_keys hi.stopFuncs_keys hk
  simp only [Client.addConn, mapSet_of_lookup_eq_none _ hk, mapSet_of_lookup_eq_none _ hsc,
    mapSet_of_lookup_eq_none _ hsf]
  refine ⟨fun k => ?_, fun k => ?_, fun k hk' => ?_, ?_, ?_⟩
  · simp only [List.lookup_cons]; split
    · rfl
    · exact hi.stopContexts_keys k
  · simp only [List.lookup_cons]; split
    · rfl
    · exact hi.stopFuncs_keys k
  · simp only [List.lookup_cons] at hk'
    split at hk'
    · next h => rw [beq_iff_eq.mp h]; exact hs
    · exact hi.grpc_keys k hk'
  · rw [List.map_cons, List.nodup_cons]
    exact ⟨fun h => by
      obtain ⟨e, he, hfe⟩ := List.mem_map.mp h
      exact absurd (hi.conns_fresh e he) (by omega), hi.conns_nodup⟩
  · intro e he
    rcases List.mem_cons.mp he with rfl | he
    · exact Nat.lt_succ_self _
    · exact Nat.lt_succ_of_lt (hi.conns_fresh e he)

-- What one block of `Start` does to the client: nothing, or it adds a connection under the
-- absent key of a gRPC signal.
def AddsConn (c c' : Client) : Prop :=
  c' = c ∨ ∃ info, c.conns.lookup info.connHash = none ∧
    (∃ s, (c.o.signal s).isGRPCProtocol ∧ connKey sha512Hex (c.o.signal s) = some info.connHash) ∧
    c' = c.addConn info

theorem startGRPC_cases {dial : String → List DialOption → Option String} {c c' : Client}
    {so : SignalOptions} {err : Option String}
    (h : startGRPC sha512Hex dial c so = .returned (c', err)) :
    ∃ info, connKey sha512Hex so = some info.connHash ∧
      ((c.conns.lookup info.connHash).isSome ∧ c' = c ∧ err = none ∨
       c.conns.lookup info.connHash = none ∧ c' = c ∧ err.isSome ∨
       c.conns.lookup info.connHash = none ∧ c' = c.addConn info ∧ err = none) := by
  unfold startGRPC at h
  cases hb : buildGRPCConnectionInfo sha512Hex so with
  | panicked r => rw [hb] at h; cases h
  | returned info =>
    refine ⟨info, by simp [connKey, hb], ?_⟩
    simp only [hb] at h
    split at h
    · next hp => cases h; exact .inl ⟨hp, rfl, rfl⟩
    · next hp =>
      have hn := Option.not_isSome_iff_eq_none.mp hp
      split at h <;> cases h
      · exact .inr (.inl ⟨hn, rfl, rfl⟩)
      · exact .inr (.inr ⟨hn, rfl, rfl⟩)

theorem startSignal_cases {dial : String → List DialOption → Option String} {s : Signal}
    {c c' : Client} {err : Option ClientError}
    (h : startSignal sha512Hex dial s c = .returned (c', err)) :
    AddsConn sha512Hex c c' ∧ (err = none → (c.o.signal s).isGRPCProtocol →
      ∃ k, connKey sha512Hex (c.o.signal s) = some k ∧ (c'.conns.lookup k).isSome) := by
  unfold startSignal at h
  split at h
  · next hg =>
    cases hs : startGRPC sha512Hex dial c (c.o.signal s) with
    | panicked r => rw [hs] at h; cases h
    | returned p =>
      obtain ⟨c₁, e₁⟩ := p
      rw [hs] at h; cases h
      obtain ⟨info, hkey, ⟨hp, rfl, rfl⟩ | ⟨hn, rfl, he⟩ | ⟨hn, rfl, rfl⟩⟩ := startGRPC_cases sha512Hex hs
      · exact ⟨Or.inl rfl, fun _ _ => ⟨_, hkey, hp⟩⟩
      · exact ⟨Or.inl rfl, fun h => by cases e₁ <;> simp_all⟩
      · refine ⟨Or.inr ⟨info, hn, ⟨s, hg, hkey⟩, rfl⟩, fun _ _ => ⟨_, hkey, ?_⟩⟩
        simp [Client.addConn, mapSet]
  · next hg => cases h; exact ⟨Or.inl rfl, fun _ h => absurd h hg⟩

-- What `Start` does to the keys: a present key keeps its connection and is never dialed
-- again, and no key is dialed twice.
structure DialsOnce (c c' : Client) : Prop where
  same_o : c'.o = c.o
  present : ∀ k, (c.conns.lookup k).isSome →
    c'.conns.lookup k = c.conns.lookup k ∧ dials c'.events k = dials c.events k
  at_most_one : ∀ k, dials c'.events k ≤ dials c.events k + 1
  dialed_present : ∀ k, dials c'.events k ≠ dials c.events k → (c'.conns.lookup k).isSome

theorem DialsOnce.refl (c : Client) : DialsOnce c c :=
  ⟨rfl, fun _ _ => ⟨rfl, rfl⟩, fun _ => Nat.le_succ _, fun _ h => absurd rfl h⟩

theorem DialsOnce.trans {c₁ c₂ c₃ : Client} (h₁ : DialsOnce c₁ c₂) (h₂ : DialsOnce c₂ c₃) :
    DialsOnce c₁ c₃ := by
  refine ⟨h₂.same_o.trans h₁.same_o, fun k hk => ?_, fun k => ?_, fun k hk => ?_⟩
  · obtain ⟨hl, hd⟩ := h₁.present k hk
    obtain ⟨hl', hd'⟩ := h₂.present k (by rw [hl]; exact hk)
    exact ⟨hl'.trans hl, hd'.trans hd⟩
  · by_cases hd : dials c₂.events k = dials c₁.events k
    · have := h₂.at_most_one k; omega
    · have := h₁.at_most_one k
      rw [(h₂.present k (h₁.dialed_present k hd)).2]; omega
  · by_cases hd : dials c₂.events k = dials c₁.events k
    · exact h₂.dialed_present k (by omega)
    · have hp := h₁.dialed_present k hd
      rw [(h₂.present k hp).1]; exact hp

private theorem dials_append_dial (evs : List Event) (k k' t : String) (opts : List DialOption)
    (n : Nat) : dials (evs ++ [.dial k t opts n]) k' = dials evs k' + if k = k' then 1 else 0 := by
  simp only [dials, List.countP_append, List.countP_singleton]
  split <;> simp_all

theorem AddsConn.dialsOnce {c c' : Client} (h : AddsConn sha512Hex c c') : DialsOnce c c' := by
  rcases h with rfl | ⟨info, hk, -, rfl⟩
  · exact DialsOnce.refl _
  refine ⟨rfl, fun k hp => ?_, fun k => ?_, fun k hd => ?_⟩
  · have hne : info.connHash ≠ k := fun he => by rw [he] at hk; simp [hk] at hp
    constructor
    · simp [Client.addConn, mapSet_of_lookup_eq_none _ hk, List.lookup_cons,
        beq_false_of_ne (Ne.symm hne)]
    · simp [Client.addConn, dials_append_dial, hne]
  · simp only [Client.addConn, dials_append_dial]; split <;> omega
  · simp only [Client.addConn, dials_append_dial] at hd ⊢
    split at hd
    · next he => simp [mapSet, he]
    · omega

theorem AddsConn.inv {c c' : Client} (h : AddsConn sha512Hex c c') (hi : Inv sha512Hex c) :
    Inv sha512Hex c' := by
  rcases h with rfl | ⟨info, hk, hs, rfl⟩
  · exact hi
  · exact hi.addConn sha512Hex hk hs

-- A run of blocks of `Start` keeps the invariant, dials each key at most once, and when it
-- returns no error every gRPC signal among the blocks has its key present.
theorem startSignals_spec {dial : String → List DialOption → Option String} :
    ∀ {ss : List Signal} {c c' : Client} {err : Option ClientError},
    startSignals sha512Hex dial ss c = .returned (c', err) → Inv sha512Hex c →
    Inv sha512Hex c' ∧ DialsOnce c c' ∧ (err = none → ∀ s ∈ ss, (c.o.signal s).isGRPCProtocol →
      ∃ k, connKey sha512Hex (c.o.signal s) = some k ∧ (c'.conns.lookup k).isSome)
  | [], c, c', err, h, hi => by
    cases h; exact ⟨hi, DialsOnce.refl _, fun _ s hs => by cases hs⟩
  | s :: ss, c, c', err, h, hi => by
    unfold startSignals at h
    cases h₁ : startSignal sha512Hex dial s c with
    | panicked r => rw [h₁] at h; cases h
    | returned p =>
      obtain ⟨c₁, err₁⟩ := p
      obtain ⟨hadd, hkey⟩ := startSignal_cases sha512Hex h₁
      have hd₁ := hadd.dialsOnce sha512Hex
      cases err₁ with
      | some e =>
        rw [h₁] at h; cases h
        exact ⟨hadd.inv sha512Hex hi, hd₁, fun h => by cases h⟩
      | none =>
        rw [h₁] at h
        obtain ⟨hi', hd, hok⟩ := startSignals_spec h (hadd.inv sha512Hex hi)
        refine ⟨hi', hd₁.trans hd, fun he t ht hg => ?_⟩
        rcases List.mem_cons.mp ht with rfl | ht
        · obtain ⟨k, hk, hp⟩ := hkey rfl hg
          exact ⟨k, hk, by rw [(hd.present k hp).1]; exact hp⟩
        · rw [← hd₁.same_o] at hg ⊢
          exact hok he t ht hg

theorem Start_spec {dial : String → List DialOption → Option String} {c c' : Client}
    {err : Option ClientError} (h : Start sha512Hex dial c = .returned (c', err))
    (hi : Inv sha512Hex c) :
    Inv sha512Hex c' ∧ DialsOnce c c' ∧ (err = none → ∀ s, (c.o.signal s).isGRPCProtocol →
      ∃ k, connKey sha512Hex (c.o.signal s) = some k ∧ (c'.conns.lookup k).isSome) := by
  obtain ⟨hi', hd, hok⟩ := startSignals_spec sha512Hex h hi
  refine ⟨hi', hd, fun he s => hok he s ?_⟩
  cases s <;> simp

-- How many times the events cancel stop context `ctx`.
def cancels (evs : List Event) (ctx : Nat) : Nat :=
  evs.countP fun | .cancel c => c = ctx | _ => false

-- What `Stop` does: it empties the maps, closes each present connection exactly once, and
-- returns `ErrAlreadyClosed` exactly when no connection was present.
structure StopSpec (c c' : Client) (err : Option ClientError) : Prop where
  conns : c'.conns = []
  stopContexts : c'.stopContexts = []
  stopFuncs : c'.stopFuncs = []
  closes_present : ∀ conn ∈ c.conns.map (·.2), closes c'.events conn = closes c.events conn + 1
  closes_other : ∀ conn ∉ c.conns.map (·.2), closes c'.events conn = closes c.events conn
  alreadyClosed : err = some .alreadyClosed ↔ c.conns = []

private theorem closes_cancels (evs : List Event) (m : List (String × Nat)) (conn : Nat) :
    closes (evs ++ m.map fun e => .cancel e.2) conn = closes evs conn := by
  simp [closes, List.countP_append, List.countP_eq_zero]

theorem Inv.eq_nil {c : Client} (hi : Inv sha512Hex c) (h : c.conns = []) :
    c.stopContexts = [] ∧ c.stopFuncs = [] := by
  have hn : ∀ k, c.conns.lookup k = none := by simp [h]
  exact ⟨eq_nil_of_lookup_eq_none fun k => lookup_eq_none_of_keys hi.stopContexts_keys (hn k),
    eq_nil_of_lookup_eq_none fun k => lookup_eq_none_of_keys hi.stopFuncs_keys (hn k)⟩

theorem closeConns_spec {c c₀ : Client} (hi : Inv sha512Hex c₀) (hconns : c.conns = c₀.conns)
    (hsc : c.stopContexts = c₀.stopContexts) (hsf : c.stopFuncs = c₀.stopFuncs)
    (hcl : ∀ conn, closes c.events conn = closes c₀.events conn) (err : Option CtxErr) :
    StopSpec c₀ (closeConns c (err.map .ctx)).1 (closeConns c (err.map .ctx)).2 := by
  unfold closeConns
  by_cases he : c₀.conns = []
  · obtain ⟨hsc', hsf'⟩ := hi.eq_nil sha512Hex he
    rw [if_pos (by simp [hconns, he])]
    exact ⟨hconns.trans he, hsc.trans hsc', hsf.trans hsf', by simp [he], fun conn _ => hcl conn,
      by simp [he]⟩
  · rw [if_neg (by simpa [hconns] using he)]
    refine ⟨rfl, rfl, rfl, fun conn hm => ?_, fun conn hm => ?_, ?_⟩
    · rw [closes_map, hcl, hconns, count_of_nodup hi.conns_nodup, if_pos hm]
    · rw [closes_map, hcl, hconns, count_of_nodup hi.conns_nodup, if_neg hm]; rfl
    · constructor
      · intro h; cases err <;> cases h
      · intro h; exact absurd h he

theorem Stop_spec {c : Client} (hi : Inv sha512Hex c) (ctxErr : Option CtxErr) (selectDone : Bool) :
    StopSpec c (Stop ctxErr selectDone c).1 (Stop ctxErr selectDone c).2 := by
  unfold Stop
  dsimp only
  split <;> refine closeConns_spec sha512Hex hi ?_ ?_ ?_ ?_ ctxErr <;>
    first | rfl | exact closes_cancels _ _ | exact fun _ => rfl

-- A gRPC upload returns `ErrNotStarted` exactly when its signal's key is absent.
theorem Upload_notStarted {s : Signal} {c c' : Client} {r : Reply}
    (hg : (c.o.signal s).isGRPCProtocol) (h : Upload sha512Hex s c = .returned (c', r)) :
    (r = .result (some .notStarted) ↔
      ∀ k, connKey sha512Hex (c.o.signal s) = some k → c.conns.lookup k = none) := by
  unfold Upload uploadWithGRPC at h
  rw [if_pos hg] at h
  cases hb : buildGRPCConnectionInfo sha512Hex (c.o.signal s) with
  | panicked r => rw [hb] at h; cases h
  | returned info =>
    have hkey : connKey sha512Hex (c.o.signal s) = some info.connHash := by simp [connKey, hb]
    simp only [hb] at h
    rw [hkey]
    cases hl : c.conns.lookup info.connHash <;> rw [hl] at h <;> cases h
    · exact ⟨fun _ k hk => (by cases hk; exact hl), fun _ => rfl⟩
    · exact ⟨fun h => (by cases h), fun h => (by rw [h _ rfl] at hl; cases hl)⟩

theorem Upload_inv {s : Signal} {c c' : Client} {r : Reply} (hi : Inv sha512Hex c)
    (h : Upload sha512Hex s c = .returned (c', r)) : Inv sha512Hex c' := by
  unfold Upload uploadWithGRPC at h
  split at h
  · split at h
    · cases h
    · split at h <;> cases h
      · exact hi
      · exact ⟨hi.stopContexts_keys, hi.stopFuncs_keys, hi.grpc_keys, hi.conns_nodup, hi.conns_fresh⟩
  · cases h; exact hi

theorem Stop_inv {c : Client} (hi : Inv sha512Hex c) (ctxErr : Option CtxErr) (selectDone : Bool) :
    Inv sha512Hex (Stop ctxErr selectDone c).1 := by
  have hs := Stop_spec sha512Hex hi ctxErr selectDone
  refine ⟨fun k => ?_, fun k => ?_, fun k hk => ?_, ?_, fun e he => ?_⟩ <;>
    simp_all [hs.conns, hs.stopContexts, hs.stopFuncs]

theorem step_inv {c c' : Client} {call : Call} {r : Reply} (hi : Inv sha512Hex c)
    (h : c.step sha512Hex call = .returned (c', r)) : Inv sha512Hex c' := by
  cases call with
  | start dial =>
    simp only [Client.step] at h
    cases hs : Start sha512Hex dial c with
    | returned p => rw [hs] at h; cases h; exact (Start_spec sha512Hex hs hi).1
    | panicked r => rw [hs] at h; cases h
  | stop ctxErr selectDone => cases h; exact Stop_inv sha512Hex hi ctxErr selectDone
  | upload s => exact Upload_inv sha512Hex hi h

-- What holds of every client a run of calls reaches: the maps' invariant, and what a
-- `Start`, a `Stop` and an upload called on it next would do.
structure ClientSpec (c : Client) : Prop where
  inv : Inv sha512Hex c
  start : ∀ dial c' err, Start sha512Hex dial c = .returned (c', err) → DialsOnce c c' ∧
    (err = none → ∀ s, (c.o.signal s).isGRPCProtocol →
      ∃ k, connKey sha512Hex (c.o.signal s) = some k ∧ (c'.conns.lookup k).isSome)
  stop : ∀ ctxErr selectDone, StopSpec c (Stop ctxErr selectDone c).1 (Stop ctxErr selectDone c).2
  upload : ∀ s c' r, (c.o.signal s).isGRPCProtocol → Upload sha512Hex s c = .returned (c', r) →
    (r = .result (some .notStarted) ↔
      ∀ k, connKey sha512Hex (c.o.signal s) = some k → c.conns.lookup k = none)

theorem Reachable.inv {lib : Lib} {c : Client} (h : Reachable sha512Hex lib c) : Inv sha512Hex c := by
  induction h with
  | new hn =>
    obtain ⟨o, -, ho⟩ := GoResult.bind_eq_ok.mp hn
    cases ho
    exact Inv.empty sha512Hex o
  | step _ hs ih => exact step_inv sha512Hex ih hs

theorem reachable_clientSpec {lib : Lib} {c : Client} (h : Reachable sha512Hex lib c) :
    ClientSpec sha512Hex c := by
  have hi := h.inv
  exact ⟨hi, fun _ _ _ hs => (Start_spec sha512Hex hs hi).2,
    fun ctxErr selectDone => Stop_spec sha512Hex hi ctxErr selectDone,
    fun _ _ _ hg hu => Upload_notStarted sha512Hex hg hu⟩

-- The default client after `Start` dialled the traces connection and a traces upload went
-- out over it.
theorem reachable_clientSpec_localhost :
    ∃ c₀ c₁ c₂ r₁ r₂, NewClient Stdlib.lib "http://localhost:4317" [] = .ok c₀ ∧
      c₀.step id (.start fun _ _ => none) = .returned (c₁, r₁) ∧
      c₁.step id (.upload .traces) = .returned (c₂, r₂) ∧ r₂ = .sent 0 ∧ ClientSpec id c₂ :=
  ⟨_, _, _, _, _, rfl, rfl, rfl, rfl, reachable_clientSpec id
    (@Reachable.step id Stdlib.lib _ _ (.upload .traces) _
      (@Reachable.step id Stdlib.lib _ _ (.start fun _ _ => none) _
        (@Reachable.new id Stdlib.lib "http://localhost:4317" [] _ rfl) rfl) rfl)⟩

-- `Start` on a background context, then `Stop` on a live one: the stop context stays
-- uncancelled while its `CancelFunc` is dropped.
theorem stop_drops_cancelFunc :
    (NewClient Stdlib.lib "http://localhost:4317" [] >>= fun c =>
      match Start id (fun _ _ => none) c with
      | .returned (c₁, _) =>
        .ok (c₁.stopFuncs.map (·.2), (Stop none false c₁).1.stopFuncs,
          cancels (Stop none false c₁).1.events 0)
      | .panicked r => .panic r) =
    .ok ([0], [], 0) := by
  decide

-- Traces at `collector-a:4317` with user agent `ua`, metrics at `collector-a:431` with user
-- agent `7ua`: both write the bytes `collector-a:4317uainsecure`.
theorem metrics_upload_over_traces_connection :
    (NewClient Stdlib.lib "http://localhost:4317"
        [WithTracesEndpoint Stdlib.lib "http://collector-a:4317", WithTracesUserAgent "ua",
         WithMetricsEndpoint Stdlib.lib "http://collector-a:431", WithMetricsUserAgent "7ua"] >>=
      fun c => match Start id (fun _ _ => none) c with
      | .returned (c₁, _) =>
        match Upload id .metrics c₁ with
        | .returned (_, r) => .ok (r, c₁.events.head?, (c.o.signal .metrics).endpoint.map (·.host))
        | .panicked r => .panic r
      | .panicked r => .panic r) =
    .ok (.sent 0, some (.dial "collector-a:4317uainsecure" "collector-a:4317" [.userAgent "ua", .insecure] 0),
      some "collector-a:431") := by
  decide

end OtlpHelper.Client
