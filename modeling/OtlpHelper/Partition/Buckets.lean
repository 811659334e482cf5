import OtlpHelper.Basic
import OtlpHelper.Partition.Signals

-- `PartitionResourceSpans` and its siblings: the one-leaf trees of the split, grouped in a
-- Go map by the key each gives. Each tree goes into its bucket through `AppendResourceSpans`
-- and its siblings, which are not in the sources: the append is a parameter, and the results
-- hold for every append whose result the split takes apart into the parts it was given.
namespace OtlpHelper.Partition

variable {T : Type}

-- The loop.

-- `m[key] = Append(m[key], elem)` on a Go map, kept as an association list with the key
-- written last first; a key that is not in the map reads as nil.
def insertBucket (append : List T → T → List T) (m : List (String × List T)) (key : String) (elem : T) :
    List (String × List T) :=
  (key, append ((m.lookup key).getD []) elem) :: m.filter fun e => e.1 != key

-- The loop of `PartitionResourceSpans` and its siblings, over the split of the input.
def partitionResources (split : List T → List T) (append : List T → T → List T) (src : List T)
    (getPartitionKey : T → String) : List (String × List T) :=
  (split src).foldl (fun m elem => insertBucket append m (getPartitionKey elem) elem) []

section Signals

variable {Res Scope KV : Type}

def PartitionResourceSpans
    (AppendResourceSpans : List (ResourceSpans Res Scope) → ResourceSpans Res Scope → List (ResourceSpans Res Scope))
    (src : List (ResourceSpans Res Scope)) (getPartitionKey : ResourceSpans Res Scope → String) :
    List (String × List (ResourceSpans Res Scope)) :=
  partitionResources SplitResourceSpans AppendResourceSpans src getPartitionKey

def PartitionResourceMetrics
    (AppendResourceMetrics :
      List (ResourceMetrics Res Scope KV) → ResourceMetrics Res Scope KV → List (ResourceMetrics Res Scope KV))
    (src : List (ResourceMetrics Res Scope KV)) (getPartitionKey : ResourceMetrics Res Scope KV → String) :
    List (String × List (ResourceMetrics Res Scope KV)) :=
  partitionResources SplitResourceMetrics AppendResourceMetrics src getPartitionKey

def PartitionResourceLogs
    (AppendResourceLogs : List (ResourceLogs Res Scope) → ResourceLogs Res Scope → List (ResourceLogs Res Scope))
    (src : List (ResourceLogs Res Scope)) (getPartitionKey : ResourceLogs Res Scope → String) :
    List (String × List (ResourceLogs Res Scope)) :=
  partitionResources SplitResourceLogs AppendResourceLogs src getPartitionKey

end Signals

-- The map.

section Map

theorem lookup_insertBucket (append : List T → T → List T) (m : List (String × List T)) (key k : String)
    (elem : T) :
    (insertBucket append m key elem).lookup k =
      if k = key then some (append ((m.lookup key).getD []) elem) else m.lookup k := by
  rw [insertBucket, lookup_cons_eq]
  by_cases hk : k = key
  · rw [if_pos hk, if_pos hk]
  · rw [if_neg hk, if_neg hk, lookup_filter_of_keeps m fun _ _ he => bne_iff_ne.mpr (he ▸ hk)]

theorem keys_insertBucket (append : List T → T → List T) (m : List (String × List T)) (key : String) (elem : T) :
    (insertBucket append m key elem).map (·.1) = key :: (m.map (·.1)).filter (· != key) := by
  simp [insertBucket, List.filter_map, Function.comp_def]

-- With distinct keys, the entries are the key's entry and the others, up to order.
theorem flatMap_perm_lookup (g : List T → List T) (hg : g [] = []) {m : List (String × List T)}
    (hn : (m.map (·.1)).Nodup) (k : String) :
    (m.flatMap fun e => g e.2).Perm (g ((m.lookup k).getD []) ++ (m.filter fun e => e.1 != k).flatMap fun e => g e.2) := by
  induction m with
  | nil => simp [hg]
  | cons e m ih =>
    obtain ⟨k₀, v⟩ := e
    obtain ⟨hnot, hn⟩ := List.nodup_cons.mp hn
    by_cases hk : k₀ = k
    · subst hk
      have hrest : (m.filter fun e => e.1 != k₀) = m :=
        List.filter_eq_self.mpr fun e he => bne_iff_ne.mpr fun h => hnot (List.mem_map.mpr ⟨e, he, h⟩)
      simp [hrest]
    · simp only [List.filter_cons]
      rw [lookup_cons_eq, if_neg (Ne.symm hk), if_pos (bne_iff_ne.mpr hk), List.flatMap_cons, List.flatMap_cons]
      exact ((ih hn).append_left (g v)).trans (List.perm_append_comm_assoc _ _ _)

end Map

-- What the map holds along the loop.

section Buckets

variable (split : List T → List T) (getPartitionKey : T → String)

-- The map once the loop has added the trees of `done`: distinct keys, the keys of those
-- trees; under each key (`m[k]`, nil when absent) a list the split takes apart into the trees
-- with that key, in some order; and all buckets together split into `done`.
structure Buckets (m : List (String × List T)) (done : List T) : Prop where
  keys_nodup : (m.map (·.1)).Nodup
  mem_keys : ∀ k, k ∈ m.map (·.1) ↔ ∃ x ∈ done, getPartitionKey x = k
  bucket : ∀ k, (split ((m.lookup k).getD [])).Perm (done.filter fun x => getPartitionKey x == k)
  union : (m.flatMap fun e => split e.2).Perm done

variable {split getPartitionKey} {append : List T → T → List T}

theorem Buckets.empty (hnil : split [] = []) : Buckets split getPartitionKey [] [] :=
  ⟨List.nodup_nil, fun _ => by simp, fun _ => by simp [hnil], by simp⟩

-- One turn of the loop: the tree goes into its key's bucket, the other buckets stay.
theorem Buckets.insert (hnil : split [] = [])
    (happend : ∀ dst t, (split (append dst t)).Perm (split dst ++ split [t]))
    {m : List (String × List T)} {done : List T} (h : Buckets split getPartitionKey m done) {x : T}
    (hx : split [x] = [x]) :
    Buckets split getPartitionKey (insertBucket append m (getPartitionKey x) x) (done ++ [x]) := by
  refine ⟨?_, fun k => ?_, fun k => ?_, ?_⟩
  · rw [keys_insertBucket]
    exact List.nodup_cons.mpr ⟨by simp, h.keys_nodup.filter _⟩
  · rw [keys_insertBucket, List.mem_cons, List.mem_filter, h.mem_keys]
    by_cases hk : k = getPartitionKey x
    · simp [hk, or_and_right, exists_or]
    · simp [hk, Ne.symm hk, or_and_right, exists_or]
  · rw [lookup_insertBucket, List.filter_append]
    by_cases hk : k = getPartitionKey x
    · subst hk
      rw [if_pos rfl, Option.getD_some]
      simpa [hx] using (happend _ x).trans ((h.bucket _).append_right (split [x]))
    · simpa [hk, Ne.symm hk] using h.bucket k
  · have hrest := (flatMap_perm_lookup split hnil h.keys_nodup (getPartitionKey x)).symm.trans h.union
    have hnew := (happend ((m.lookup (getPartitionKey x)).getD []) x).trans (by rw [hx])
    simp only [insertBucket, List.flatMap_cons]
    refine (hnew.append_right _).trans ?_
    rw [List.append_assoc, List.singleton_append]
    exact List.perm_middle.trans (((List.perm_cons x).mpr hrest).trans (List.perm_append_singleton x done).symm)

-- The whole loop over trees the split keeps as they are.
theorem Buckets.foldl (hnil : split [] = [])
    (happend : ∀ dst t, (split (append dst t)).Perm (split dst ++ split [t])) :
    ∀ {xs : List T}, (∀ x ∈ xs, split [x] = [x]) → ∀ {m : List (String × List T)} {done : List T},
    Buckets split getPartitionKey m done →
    Buckets split getPartitionKey (xs.foldl (fun m elem => insertBucket append m (getPartitionKey elem) elem) m)
      (done ++ xs)
  | [], _, _, _, h => by simpa using h
  | x :: xs, hxs, _, done, h => by
    have h' := Buckets.foldl hnil happend (fun y hy => hxs y (.tail _ hy))
      (h.insert hnil happend (hxs x (.head _)))
    simpa using h'

-- Every bucket's entry is what its key reads, so it splits into the trees with its key.
theorem Buckets.mem {m : List (String × List T)} {done : List T} (h : Buckets split getPartitionKey m done)
    {e : String × List T} (he : e ∈ m) : (split e.2).Perm (done.filter fun x => getPartitionKey x == e.1) := by
  simpa [lookup_of_mem h.keys_nodup he] using h.bucket e.1

-- The buckets together hold as many trees as the loop added.
theorem Buckets.length {m : List (String × List T)} {done : List T} (h : Buckets split getPartitionKey m done) :
    (m.map fun e => (split e.2).length).foldr (· + ·) 0 = done.length := by
  rw [← length_flatMap_eq, h.union.length_eq]

end Buckets

-- The partition of a forest.

section Forest

variable {Res Scope Leaf : Type} (f : List Leaf → List Leaf)

-- The partition of a forest whose leaf split keeps each leaf it yields, for an append the
-- split undoes: what the map holds after the whole loop.
theorem partitionResources_buckets (hf : ∀ ls, ∀ x ∈ f ls, f [x] = [x])
    {append : List (ResourceLeaves Res Scope Leaf) → ResourceLeaves Res Scope Leaf → List (ResourceLeaves Res Scope Leaf)}
    (happend : ∀ dst t, (splitResources f (append dst t)).Perm (splitResources f dst ++ splitResources f [t]))
    (src : List (ResourceLeaves Res Scope Leaf)) (getPartitionKey : ResourceLeaves Res Scope Leaf → String) :
    Buckets (splitResources f) getPartitionKey (partitionResources (splitResources f) append src getPartitionKey)
      (splitResources f src) := by
  have hnil : splitResources f ([] : List (ResourceLeaves Res Scope Leaf)) = [] := rfl
  have hkeep : ∀ x ∈ splitResources f src, splitResources f [x] = [x] := by
    intro x hx
    rw [splitResources_eq] at hx
    obtain ⟨p, hp, rfl⟩ := List.mem_map.mp hx
    rw [splitResources_tree, hf _ _ (mem_splitPaths f hp)]
    rfl
  simpa using Buckets.foldl hnil happend hkeep (Buckets.empty hnil)

-- A tree in a bucket's split gives the bucket's key.
theorem Buckets.key_eq {key : ResourceLeaves Res Scope Leaf → String} {m : List (String × List (ResourceLeaves Res Scope Leaf))}
    {done : List (ResourceLeaves Res Scope Leaf)} (h : Buckets (splitResources f) key m done)
    {e : String × List (ResourceLeaves Res Scope Leaf)} (he : e ∈ m) {x : ResourceLeaves Res Scope Leaf}
    (hx : x ∈ splitResources f e.2) : key x = e.1 := by
  simpa using (List.mem_filter.mp ((h.mem he).subset hx)).2

-- The buckets' totals add up to the input's, when a scope counts the leaves the split makes.
theorem Buckets.total_eq (count : List Leaf → Nat) (hlen : ∀ ls, (f ls).length = count ls)
    {key : ResourceLeaves Res Scope Leaf → String} {m : List (String × List (ResourceLeaves Res Scope Leaf))}
    {src : List (ResourceLeaves Res Scope Leaf)} (h : Buckets (splitResources f) key m (splitResources f src)) :
    (m.map fun e => total count e.2).foldr (· + ·) 0 = total count src := by
  have htot : ∀ b : List (ResourceLeaves Res Scope Leaf), total count b = (splitResources f b).length := fun b => by
    rw [length_splitResources]
    simp only [hlen]
  simp only [htot]
  exact h.length

theorem splitResources_append (l₁ l₂ : List (ResourceLeaves Res Scope Leaf)) :
    splitResources f (l₁ ++ l₂) = splitResources f l₁ ++ splitResources f l₂ :=
  List.flatMap_append _ _ _

-- `PartitionResourceSpans` and its siblings, for an append the split undoes: the map's keys
-- are distinct and are the keys of the split's trees; `m[k]` splits, up to order, into the
-- split's trees with key `k`, so every tree of a bucket gives the bucket's key; and the
-- buckets' totals add up to the input's.
theorem partitionResources_groups (count : List Leaf → Nat) (hf : ∀ ls, ∀ x ∈ f ls, f [x] = [x])
    (hlen : ∀ ls, (f ls).length = count ls)
    {append : List (ResourceLeaves Res Scope Leaf) → ResourceLeaves Res Scope Leaf → List (ResourceLeaves Res Scope Leaf)}
    (happend : ∀ dst t, (splitResources f (append dst t)).Perm (splitResources f dst ++ splitResources f [t]))
    (src : List (ResourceLeaves Res Scope Leaf)) (getPartitionKey : ResourceLeaves Res Scope Leaf → String) :
    let m := partitionResources (splitResources f) append src getPartitionKey
    (m.map (·.1)).Nodup ∧
    (∀ k, k ∈ m.map (·.1) ↔ ∃ x ∈ splitResources f src, getPartitionKey x = k) ∧
    (∀ k, (splitResources f ((m.lookup k).getD [])).Perm
      ((splitResources f src).filter fun x => getPartitionKey x == k)) ∧
    (∀ e ∈ m, ∀ x ∈ splitResources f e.2, getPartitionKey x = e.1) ∧
    (m.map fun e => total count e.2).foldr (· + ·) 0 = total count src := by
  have h := partitionResources_buckets f hf happend src getPartitionKey
  exact ⟨h.keys_nodup, h.mem_keys, h.bucket, fun e he x hx => h.key_eq f he hx, h.total_eq f count hlen⟩

-- Two spans of one scope, keyed by start time, appended with `append` as Go's `append`.
theorem partitionResources_groups_twoSpans :
    let src : List (ResourceSpans Unit Unit) := [⟨(), [⟨(), [⟨1, 2⟩, ⟨3, 4⟩], ""⟩], ""⟩]
    let key := firstLeafKey fun (s : Span) => toString s.startTimeUnixNano
    let m := partitionResources (splitResources id) (fun dst t => dst ++ [t]) src key
    (m.map (·.1)).Nodup ∧
    (∀ k, k ∈ m.map (·.1) ↔ ∃ x ∈ splitResources id src, key x = k) ∧
    (∀ k, (splitResources id ((m.lookup k).getD [])).Perm ((splitResources id src).filter fun x => key x == k)) ∧
    (∀ e ∈ m, ∀ x ∈ splitResources id e.2, key x = e.1) ∧
    (m.map fun e => total List.length e.2).foldr (· + ·) 0 = total List.length src :=
  partitionResources_groups id List.length (fun _ _ _ => rfl) (fun _ => rfl)
    (fun dst t => by rw [splitResources_append]) _ _

end Forest

-- The partition of each signal.

section Signals

variable {Res Scope KV : Type}

-- Each signal's partition keeps its total: the buckets' `TotalSpans`, `TotalDataPoints` and
-- `TotalLogRecords` add up to the input's, for appends the splits undo.
theorem PartitionResource_totals
    {appendSpans : List (ResourceSpans Res Scope) → ResourceSpans Res Scope → List (ResourceSpans Res Scope)}
    {appendMetrics :
      List (ResourceMetrics Res Scope KV) → ResourceMetrics Res Scope KV → List (ResourceMetrics Res Scope KV)}
    {appendLogs : List (ResourceLogs Res Scope) → ResourceLogs Res Scope → List (ResourceLogs Res Scope)}
    (hs : ∀ dst t, (SplitResourceSpans (appendSpans dst t)).Perm (SplitResourceSpans dst ++ SplitResourceSpans [t]))
    (hm : ∀ dst t,
      (SplitResourceMetrics (appendMetrics dst t)).Perm (SplitResourceMetrics dst ++ SplitResourceMetrics [t]))
    (hl : ∀ dst t, (SplitResourceLogs (appendLogs dst t)).Perm (SplitResourceLogs dst ++ SplitResourceLogs [t]))
    (spans : List (ResourceSpans Res Scope)) (keyS : ResourceSpans Res Scope → String)
    (metrics : List (ResourceMetrics Res Scope KV)) (keyM : ResourceMetrics Res Scope KV → String)
    (logs : List (ResourceLogs Res Scope)) (keyL : ResourceLogs Res Scope → String) :
    ((PartitionResourceSpans appendSpans spans keyS).map fun e => TotalSpans e.2).foldr (· + ·) 0 =
      TotalSpans spans ∧
    ((PartitionResourceMetrics appendMetrics metrics keyM).map fun e => TotalDataPoints e.2).foldr (· + ·) 0 =
      TotalDataPoints metrics ∧
    ((PartitionResourceLogs appendLogs logs keyL).map fun e => TotalLogRecords e.2).foldr (· + ·) 0 =
      TotalLogRecords logs :=
  ⟨(partitionResources_buckets id (fun _ _ _ => rfl) hs spans keyS).total_eq id List.length fun _ => rfl,
    (partitionResources_buckets splitMetrics splitMetrics_keeps hm metrics keyM).total_eq splitMetrics _
      length_splitMetrics,
    (partitionResources_buckets id (fun _ _ _ => rfl) hl logs keyL).total_eq id List.length fun _ => rfl⟩

-- With Go's `append` for the three appends: one input of each signal.
theorem PartitionResource_totals_append :
    let spans : List (ResourceSpans Unit Unit) := [⟨(), [⟨(), [⟨1, 2⟩, ⟨3, 4⟩], ""⟩], ""⟩]
    let metrics : List (ResourceMetrics Unit Unit Unit) :=
      [⟨(), [⟨(), [⟨"m", "", "", [], some (.gauge [⟨1, 2⟩, ⟨3, 4⟩])⟩], ""⟩], ""⟩]
    let logs : List (ResourceLogs Unit Unit) := [⟨(), [⟨(), [⟨1, 1, 9, "INFO"⟩], ""⟩], ""⟩]
    ((PartitionResourceSpans (fun dst t => dst ++ [t]) spans fun _ => "").map fun e => TotalSpans e.2).foldr
      (· + ·) 0 = TotalSpans spans ∧
    ((PartitionResourceMetrics (fun dst t => dst ++ [t]) metrics PartitionByMetricType).map
      fun e => TotalDataPoints e.2).foldr (· + ·) 0 = TotalDataPoints metrics ∧
    ((PartitionResourceLogs (fun dst t => dst ++ [t]) logs PartitionByLogSeverityText).map
      fun e => TotalLogRecords e.2).foldr (· + ·) 0 = TotalLogRecords logs :=
  PartitionResource_totals (fun dst t => by rw [SplitResourceSpans, splitResources_append]; rfl)
    (fun dst t => by rw [SplitResourceMetrics, splitResources_append]; rfl)
    (fun dst t => by rw [SplitResourceLogs, splitResources_append]; rfl) _ _ _ _ _ _

end Signals

end OtlpHelper.Partition
