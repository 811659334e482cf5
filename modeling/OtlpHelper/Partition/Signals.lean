import OtlpHelper.Partition.Tree

-- Spans, metrics and log records with the fields partition.go reads, and its split, total
-- and filter functions for each signal: the walks of `Partition.Tree` at the signal's leaves.
namespace OtlpHelper.Partition

-- `Span`: the timestamps the partition functions read.
structure Span where
  startTimeUnixNano : UInt64
  endTimeUnixNano : UInt64
deriving DecidableEq, Repr

-- `LogRecord`: its timestamps and severity.
structure LogRecord where
  timeUnixNano : UInt64
  observedTimeUnixNano : UInt64
  severityNumber : Int
  severityText : String
deriving DecidableEq, Repr

-- The timestamps every data point message has (`NumberDataPoint`, `SummaryDataPoint`,
-- `HistogramDataPoint`, `ExponentialHistogramDataPoint`).
structure DataPoint where
  startTimeUnixNano : UInt64
  timeUnixNano : UInt64
deriving DecidableEq, Repr

-- The `data` oneof of `Metric`: each shape with its points and its parameters.
inductive MetricData where
  | gauge (dataPoints : List DataPoint)
  | sum (aggregationTemporality : Int) (isMonotonic : Bool) (dataPoints : List DataPoint)
  | summary (dataPoints : List DataPoint)
  | histogram (aggregationTemporality : Int) (dataPoints : List DataPoint)
  | exponentialHistogram (aggregationTemporality : Int) (dataPoints : List DataPoint)
deriving DecidableEq, Repr

-- `GetDataPoints()` of the shape the oneof holds.
def MetricData.dataPoints : MetricData → List DataPoint
  | .gauge dps | .summary dps => dps
  | .sum _ _ dps | .histogram _ dps | .exponentialHistogram _ dps => dps

-- `Metric`, its metadata entries left abstract.
structure Metric (KV : Type) where
  name : String
  description : String
  unit : String
  metadata : List KV
  data : Option MetricData
deriving DecidableEq, Repr

-- The points the switch on `GetData()` walks: none for a metric with no data.
def Metric.dataPoints {KV : Type} (m : Metric KV) : List DataPoint :=
  match m.data with
  | some data => data.dataPoints
  | none => []

abbrev ResourceSpans (Res Scope : Type) := ResourceLeaves Res Scope Span
abbrev ResourceMetrics (Res Scope KV : Type) := ResourceLeaves Res Scope (Metric KV)
abbrev ResourceLogs (Res Scope : Type) := ResourceLeaves Res Scope LogRecord

variable {Res Scope KV : Type}

-- The functions of partition.go.

def TotalSpans (src : List (ResourceSpans Res Scope)) : Nat := total List.length src

def splitScopeSpans (src : List (ScopeLeaves Scope Span)) : List (ScopeLeaves Scope Span) := splitScopes id src

def SplitResourceSpans (src : List (ResourceSpans Res Scope)) : List (ResourceSpans Res Scope) :=
  splitResources id src

def FilterResourceSpans (src : List (ResourceSpans Res Scope)) (filters : List (Res → Scope → Span → Bool)) :
    List (ResourceSpans Res Scope) :=
  filterResources id filters src

def TotalLogRecords (src : List (ResourceLogs Res Scope)) : Nat := total List.length src

def splitScopeLogs (src : List (ScopeLeaves Scope LogRecord)) : List (ScopeLeaves Scope LogRecord) :=
  splitScopes id src

def SplitResourceLogs (src : List (ResourceLogs Res Scope)) : List (ResourceLogs Res Scope) :=
  splitResources id src

def FilterResourceLogs (src : List (ResourceLogs Res Scope)) (filters : List (Res → Scope → LogRecord → Bool)) :
    List (ResourceLogs Res Scope) :=
  filterResources id filters src

-- `splitMetrics`: for each point of each metric, a metric with the metric's name,
-- description, unit and metadata holding that point alone in the metric's shape, with
-- the shape's temporality and monotonicity. A metric with no data gives none.
def splitMetrics (src : List (Metric KV)) : List (Metric KV) :=
  src.flatMap fun elem =>
    let single (data : MetricData) : Metric KV :=
      { name := elem.name, description := elem.description, unit := elem.unit,
        metadata := elem.metadata, data := some data }
    match elem.data with
    | some (.gauge dps) => dps.map fun dp => single (.gauge [dp])
    | some (.sum temporality monotonic dps) => dps.map fun dp => single (.sum temporality monotonic [dp])
    | some (.summary dps) => dps.map fun dp => single (.summary [dp])
    | some (.histogram temporality dps) => dps.map fun dp => single (.histogram temporality [dp])
    | some (.exponentialHistogram temporality dps) =>
      dps.map fun dp => single (.exponentialHistogram temporality [dp])
    | none => []

-- `TotalDataPoints`: `total += len(points)` over the shape of every metric.
def TotalDataPoints (src : List (ResourceMetrics Res Scope KV)) : Nat :=
  total (fun ms => ms.foldl (fun total m => total + m.dataPoints.length) 0) src

def splitScopeMetrics (src : List (ScopeLeaves Scope (Metric KV))) : List (ScopeLeaves Scope (Metric KV)) :=
  splitScopes splitMetrics src

def SplitResourceMetrics (src : List (ResourceMetrics Res Scope KV)) : List (ResourceMetrics Res Scope KV) :=
  splitResources splitMetrics src

def FilterResourceMetrics (src : List (ResourceMetrics Res Scope KV))
    (filters : List (Res → Scope → Metric KV → Bool)) : List (ResourceMetrics Res Scope KV) :=
  filterResources splitMetrics filters src

-- One data point per metric.

-- The shape with its parameters, holding the given points in place of its own.
def MetricData.withDataPoints : MetricData → List DataPoint → MetricData
  | .gauge _, dps => .gauge dps
  | .sum temporality monotonic _, dps => .sum temporality monotonic dps
  | .summary _, dps => .summary dps
  | .histogram temporality _, dps => .histogram temporality dps
  | .exponentialHistogram temporality _, dps => .exponentialHistogram temporality dps

-- The metric with its name, description, unit, metadata and shape, holding only `d`.
def Metric.withOnly (m : Metric KV) (d : DataPoint) : Metric KV :=
  { m with data := m.data.map fun data => data.withDataPoints [d] }

-- The data points of a forest of metrics in pre-order (resource, scope, metric, point),
-- each as the one-point metric it makes, with its containers.
def dataPointPaths (src : List (ResourceMetrics Res Scope KV)) : List (LeafPath Res Scope (Metric KV)) :=
  (leafPaths src).flatMap fun p => p.leaf.dataPoints.map fun d => { p with leaf := p.leaf.withOnly d }

@[simp] theorem MetricData.dataPoints_withDataPoints (data : MetricData) (dps : List DataPoint) :
    (data.withDataPoints dps).dataPoints = dps := by
  cases data <;> rfl

@[simp] theorem MetricData.withDataPoints_withDataPoints (data : MetricData) (dps dps' : List DataPoint) :
    (data.withDataPoints dps).withDataPoints dps' = data.withDataPoints dps' := by
  cases data <;> rfl

theorem Metric.dataPoints_withOnly {m : Metric KV} {d : DataPoint} (h : d ∈ m.dataPoints) :
    (m.withOnly d).dataPoints = [d] := by
  rcases m with ⟨_, _, _, _, _ | data⟩
  · cases h
  · exact data.dataPoints_withDataPoints [d]

@[simp] theorem Metric.withOnly_withOnly (m : Metric KV) (d : DataPoint) : (m.withOnly d).withOnly d = m.withOnly d := by
  rcases m with ⟨_, _, _, _, _ | data⟩ <;> simp [withOnly]

-- Each metric splits into its points, each alone in a copy of the metric.
theorem splitMetrics_eq (ms : List (Metric KV)) : splitMetrics ms = ms.flatMap fun m => m.dataPoints.map m.withOnly := by
  induction ms with
  | nil => rfl
  | cons m ms ih =>
    rw [List.flatMap_cons, ← ih]
    rcases m with ⟨_, _, _, _, _ | data⟩
    · rfl
    · cases data <;> rfl

theorem mem_splitMetrics {ms : List (Metric KV)} {x : Metric KV} (h : x ∈ splitMetrics ms) :
    ∃ m ∈ ms, ∃ d ∈ m.dataPoints, x = m.withOnly d := by
  simp only [splitMetrics_eq, List.mem_flatMap, List.mem_map] at h
  obtain ⟨m, hm, d, hd, rfl⟩ := h
  exact ⟨m, hm, d, hd, rfl⟩

-- A metric the split yields holds one point, and splits into itself.
theorem splitMetrics_of_mem {ms : List (Metric KV)} {x : Metric KV} (h : x ∈ splitMetrics ms) :
    x.dataPoints.length = 1 ∧ splitMetrics [x] = [x] := by
  obtain ⟨m, -, d, hd, rfl⟩ := mem_splitMetrics h
  have hone := Metric.dataPoints_withOnly hd
  refine ⟨by rw [hone]; rfl, ?_⟩
  rw [splitMetrics_eq, List.flatMap_singleton, hone, List.map_singleton, Metric.withOnly_withOnly]

theorem length_splitMetrics (ms : List (Metric KV)) :
    (splitMetrics ms).length = ms.foldl (fun total m => total + m.dataPoints.length) 0 := by
  rw [splitMetrics_eq, length_flatMap_eq, foldl_add_eq, Nat.zero_add]
  simp only [List.length_map]

theorem splitPaths_splitMetrics (src : List (ResourceMetrics Res Scope KV)) :
    splitPaths splitMetrics src = dataPointPaths src := by
  simp [splitPaths, dataPointPaths, leafPaths, splitMetrics_eq, List.flatMap_assoc, List.map_flatMap,
    List.flatMap_map, Function.comp_def]

-- The metric split keeps each metric it yields as it is.
theorem splitMetrics_keeps (ms : List (Metric KV)) : ∀ x ∈ splitMetrics ms, splitMetrics [x] = [x] :=
  fun _ hx => (splitMetrics_of_mem hx).2

-- Split, total and filter of each signal.

-- Spans and log records split into one tree per leaf, in pre-order, holding the leaf
-- under its resource and scope; as many trees as the total counts, a total the split
-- keeps; splitting again changes nothing.
theorem SplitResourceSpans_SplitResourceLogs_leafPaths :
    (∀ L : List (ResourceSpans Res Scope),
      SplitResourceSpans L = (leafPaths L).map LeafPath.tree ∧
      (SplitResourceSpans L).length = TotalSpans L ∧
      TotalSpans (SplitResourceSpans L) = TotalSpans L ∧
      SplitResourceSpans (SplitResourceSpans L) = SplitResourceSpans L) ∧
    (∀ L : List (ResourceLogs Res Scope),
      SplitResourceLogs L = (leafPaths L).map LeafPath.tree ∧
      (SplitResourceLogs L).length = TotalLogRecords L ∧
      TotalLogRecords (SplitResourceLogs L) = TotalLogRecords L ∧
      SplitResourceLogs (SplitResourceLogs L) = SplitResourceLogs L) :=
  ⟨splitResources_id_spec, splitResources_id_spec⟩

-- Metrics split into one tree per data point, in pre-order, holding the point alone in a
-- copy of its metric under its resource and scope; as many trees as data points, a total
-- the split keeps; splitting again changes nothing.
theorem SplitResourceMetrics_dataPointPaths (L : List (ResourceMetrics Res Scope KV)) :
    SplitResourceMetrics L = (dataPointPaths L).map LeafPath.tree ∧
    (SplitResourceMetrics L).length = TotalDataPoints L ∧
    TotalDataPoints (SplitResourceMetrics L) = TotalDataPoints L ∧
    SplitResourceMetrics (SplitResourceMetrics L) = SplitResourceMetrics L := by
  refine ⟨?_, ?_, ?_, splitResources_idem splitMetrics splitMetrics_keeps L⟩
  · rw [SplitResourceMetrics, splitResources_eq, splitPaths_splitMetrics]
  · rw [SplitResourceMetrics, length_splitResources]
    simp only [length_splitMetrics]
    rfl
  · exact total_splitResources _ splitMetrics (fun _ _ hx => by simp [(splitMetrics_of_mem hx).1])
      length_splitMetrics L

-- Each filter keeps, in order, the one-leaf trees of the split whose resource, scope and
-- leaf pass every predicate; no predicate keeps the whole split, and filtering twice is
-- filtering once with both lists.
theorem FilterResource_eq_filter_split :
    (∀ (L : List (ResourceSpans Res Scope)) (fs gs : List (Res → Scope → Span → Bool)),
      FilterResourceSpans L fs =
        ((leafPaths L).filter fun p => fs.all fun g => g p.res.resource p.scp.scope p.leaf).map LeafPath.tree ∧
      FilterResourceSpans L fs = (SplitResourceSpans L).filter (ResourceLeaves.all fun r s x => fs.all fun g => g r s x) ∧
      FilterResourceSpans L [] = SplitResourceSpans L ∧
      FilterResourceSpans (FilterResourceSpans L fs) gs = FilterResourceSpans L (fs ++ gs)) ∧
    (∀ (L : List (ResourceMetrics Res Scope KV)) (fs gs : List (Res → Scope → Metric KV → Bool)),
      FilterResourceMetrics L fs =
        ((dataPointPaths L).filter fun p => fs.all fun g => g p.res.resource p.scp.scope p.leaf).map LeafPath.tree ∧
      FilterResourceMetrics L fs =
        (SplitResourceMetrics L).filter (ResourceLeaves.all fun r s x => fs.all fun g => g r s x) ∧
      FilterResourceMetrics L [] = SplitResourceMetrics L ∧
      FilterResourceMetrics (FilterResourceMetrics L fs) gs = FilterResourceMetrics L (fs ++ gs)) ∧
    (∀ (L : List (ResourceLogs Res Scope)) (fs gs : List (Res → Scope → LogRecord → Bool)),
      FilterResourceLogs L fs =
        ((leafPaths L).filter fun p => fs.all fun g => g p.res.resource p.scp.scope p.leaf).map LeafPath.tree ∧
      FilterResourceLogs L fs = (SplitResourceLogs L).filter (ResourceLeaves.all fun r s x => fs.all fun g => g r s x) ∧
      FilterResourceLogs L [] = SplitResourceLogs L ∧
      FilterResourceLogs (FilterResourceLogs L fs) gs = FilterResourceLogs L (fs ++ gs)) := by
  refine ⟨fun L => filterResources_spec id (fun _ _ _ => rfl) L, fun L => ?_,
    fun L => filterResources_spec id (fun _ _ _ => rfl) L⟩
  rw [← splitPaths_splitMetrics]
  exact filterResources_spec splitMetrics splitMetrics_keeps L

-- Partition keys that read no time.

-- `PartitionByMetricType`: the shape of the first metric's data.
def PartitionByMetricType (rmetrics : ResourceMetrics Res Scope KV) : String :=
  firstLeafKey (fun m =>
    match m.data with
    | some (.gauge _) => "Gauge"
    | some (.sum _ _ _) => "Sum"
    | some (.summary _) => "Summary"
    | some (.histogram _ _) => "Histogram"
    | some (.exponentialHistogram _ _) => "ExponentialHistogram"
    | none => "") rmetrics

def PartitionByLogSeverityText (rlogs : ResourceLogs Res Scope) : String :=
  firstLeafKey (·.severityText) rlogs

-- `PartitionByLogSeverityNumber` returns the severity text, as its source does.
def PartitionByLogSeverityNumber (rlogs : ResourceLogs Res Scope) : String :=
  firstLeafKey (·.severityText) rlogs

end OtlpHelper.Partition
