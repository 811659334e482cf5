import OtlpHelper.Partition.Signals

-- The time-range filters and the time partition keys of partition.go. Each reads a
-- timestamp as `time.Unix(0, int64(n))`: instants are nanoseconds from the Unix epoch, and
-- an unsigned count from 2^63 on names an instant before the epoch.
namespace OtlpHelper.Partition

-- `int64(n)` of a `uint64`: the same 64 bits read in two's complement.
def toInt64 (n : UInt64) : Int := n.toBitVec.toInt

-- Below 2^63 a timestamp reads as itself; from 2^63 on, as itself less 2^64.
theorem toInt64_eq (n : UInt64) :
    toInt64 n = if n.toNat < 9223372036854775808 then (n.toNat : Int) else n.toNat - 18446744073709551616 := by
  have hn : n.toNat = n.toBitVec.toNat := rfl
  simp only [toInt64, BitVec.toInt_eq_toNat_cond, Nat.reducePow, hn]
  split <;> split <;> omega

variable {Res Scope KV : Type}

-- Filters.

-- `t.After(start) && t.Before(end)`.
def inTimeRange (start end' t : Int) : Bool := decide (start < t) && decide (t < end')

-- `SpanInTimeRangeFilter`: the span starts after `start` and ends before `end'`.
def SpanInTimeRangeFilter (start end' : Int) (_ : Res) (_ : Scope) (span : Span) : Bool :=
  let spanStart := toInt64 span.startTimeUnixNano
  let spanEnd := toInt64 span.endTimeUnixNano
  decide (start < spanStart) && decide (spanEnd < end')

def LogRecordInTimeRangeFilter (start end' : Int) (_ : Res) (_ : Scope) (logRecord : LogRecord) : Bool :=
  inTimeRange start end' (toInt64 logRecord.timeUnixNano)

-- `MetricDataPointInTimeRangeFilter`: true at the first point of the metric's shape whose
-- time is inside the range, false when there is none or the metric has no data.
def MetricDataPointInTimeRangeFilter (start end' : Int) (_ : Res) (_ : Scope) (metric : Metric KV) : Bool :=
  metric.dataPoints.any fun dp => inTimeRange start end' (toInt64 dp.timeUnixNano)

@[simp] theorem inTimeRange_eq_true (start end' t : Int) :
    inTimeRange start end' t = true ↔ start < t ∧ t < end' := by
  simp [inTimeRange]

-- Partition keys.

-- What the keys use of package time: the UTC location, and `t.In(loc).Format(layout)` of
-- the instant `t`.
structure TimeFormat (Location : Type) where
  utc : Location
  format : Location → String → Int → String

variable {Location : Type}

-- `time.Unix(0, int64(n)).In(tz).Format(format)`, a nil location taken as UTC.
def formatUnixNano (T : TimeFormat Location) (format : String) (tz : Option Location) (n : UInt64) : String :=
  T.format (tz.getD T.utc) format (toInt64 n)

-- The first point of a metric's shape, formatted; "" when it has none.
def firstPointKey {KV : Type} (stamp : DataPoint → UInt64) (T : TimeFormat Location) (format : String)
    (tz : Option Location) (m : Metric KV) : String :=
  match m.dataPoints with
  | [] => ""
  | dp :: _ => formatUnixNano T format tz (stamp dp)

-- A metric key formats the first point of the first metric, "" when there is none.
theorem firstLeafKey_firstPointKey (stamp : DataPoint → UInt64) (T : TimeFormat Location) (format : String)
    (tz : Option Location) (t : ResourceMetrics Res Scope KV) :
    firstLeafKey (firstPointKey stamp T format tz) t =
      ((t.firstLeaf.bind (·.dataPoints.head?)).map fun d => formatUnixNano T format tz (stamp d)).getD "" := by
  rw [firstLeafKey_eq]
  rcases t.firstLeaf with _ | m
  · rfl
  · simp only [Option.map_some', Option.getD_some, Option.some_bind, firstPointKey]
    cases m.dataPoints <;> rfl

def PartitionBySpanStartTime (T : TimeFormat Location) (format : String) (tz : Option Location) :
    ResourceSpans Res Scope → String :=
  firstLeafKey fun span => formatUnixNano T format tz span.startTimeUnixNano

def PartitionBySpanEndTime (T : TimeFormat Location) (format : String) (tz : Option Location) :
    ResourceSpans Res Scope → String :=
  firstLeafKey fun span => formatUnixNano T format tz span.endTimeUnixNano

def PartitionByMetricStartTime (T : TimeFormat Location) (format : String) (tz : Option Location) :
    ResourceMetrics Res Scope KV → String :=
  firstLeafKey (firstPointKey (·.startTimeUnixNano) T format tz)

def PartitionByMetricTime (T : TimeFormat Location) (format : String) (tz : Option Location) :
    ResourceMetrics Res Scope KV → String :=
  firstLeafKey (firstPointKey (·.timeUnixNano) T format tz)

-- `PartitionByLogTime`; its source also reads the severity text and drops it.
def PartitionByLogTime (T : TimeFormat Location) (format : String) (tz : Option Location) :
    ResourceLogs Res Scope → String :=
  firstLeafKey fun logRecord => formatUnixNano T format tz logRecord.timeUnixNano

def PartitionByLogObservedTime (T : TimeFormat Location) (format : String) (tz : Option Location) :
    ResourceLogs Res Scope → String :=
  firstLeafKey fun logRecord => formatUnixNano T format tz logRecord.observedTimeUnixNano

-- Which instant each reads.

-- Every filter compares, and every time key formats, the instant `int64(n)` nanoseconds
-- from the epoch: `n` below 2^63 and `n - 2^64` from 2^63 on.
theorem InTimeRangeFilter_toInt64 (start end' : Int) (r : Res) (s : Scope) (T : TimeFormat Location)
    (format : String) (tz : Option Location) :
    (∀ n : UInt64,
      toInt64 n = if n.toNat < 9223372036854775808 then (n.toNat : Int) else n.toNat - 18446744073709551616) ∧
    (∀ span : Span, SpanInTimeRangeFilter start end' r s span = true ↔
      start < toInt64 span.startTimeUnixNano ∧ toInt64 span.endTimeUnixNano < end') ∧
    (∀ logRecord : LogRecord, LogRecordInTimeRangeFilter start end' r s logRecord = true ↔
      start < toInt64 logRecord.timeUnixNano ∧ toInt64 logRecord.timeUnixNano < end') ∧
    (∀ m : Metric KV, MetricDataPointInTimeRangeFilter start end' r s m = true ↔
      ∃ d ∈ m.dataPoints, start < toInt64 d.timeUnixNano ∧ toInt64 d.timeUnixNano < end') ∧
    (∀ t : ResourceSpans Res Scope,
      PartitionBySpanStartTime T format tz t =
        (t.firstLeaf.map fun span => T.format (tz.getD T.utc) format (toInt64 span.startTimeUnixNano)).getD "" ∧
      PartitionBySpanEndTime T format tz t =
        (t.firstLeaf.map fun span => T.format (tz.getD T.utc) format (toInt64 span.endTimeUnixNano)).getD "") ∧
    (∀ t : ResourceMetrics Res Scope KV,
      PartitionByMetricStartTime T format tz t =
        ((t.firstLeaf.bind (·.dataPoints.head?)).map fun d =>
          T.format (tz.getD T.utc) format (toInt64 d.startTimeUnixNano)).getD "" ∧
      PartitionByMetricTime T format tz t =
        ((t.firstLeaf.bind (·.dataPoints.head?)).map fun d =>
          T.format (tz.getD T.utc) format (toInt64 d.timeUnixNano)).getD "") ∧
    (∀ t : ResourceLogs Res Scope,
      PartitionByLogTime T format tz t =
        (t.firstLeaf.map fun logRecord => T.format (tz.getD T.utc) format (toInt64 logRecord.timeUnixNano)).getD "" ∧
      PartitionByLogObservedTime T format tz t =
        (t.firstLeaf.map fun logRecord =>
          T.format (tz.getD T.utc) format (toInt64 logRecord.observedTimeUnixNano)).getD "") := by
  refine ⟨toInt64_eq, fun span => ?_, fun logRecord => ?_, fun m => ?_,
    fun t => ⟨firstLeafKey_eq _ t, firstLeafKey_eq _ t⟩,
    fun t => ⟨firstLeafKey_firstPointKey _ T format tz t, firstLeafKey_firstPointKey _ T format tz t⟩,
    fun t => ⟨firstLeafKey_eq _ t, firstLeafKey_eq _ t⟩⟩
  · simp [SpanInTimeRangeFilter]
  · simp [LogRecordInTimeRangeFilter]
  · simp [MetricDataPointInTimeRangeFilter]

-- An all-ones start stamp: read as a count it is 2^64 - 1 nanoseconds after the epoch,
-- inside the range (0, 2^64) with the end stamp 1; `int64` reads it as -1 and the span is
-- rejected.
theorem SpanInTimeRangeFilter_allOnes :
    (0 : Int) < (18446744073709551615 : UInt64).toNat ∧ ((1 : UInt64).toNat : Int) < 18446744073709551616 ∧
    SpanInTimeRangeFilter 0 18446744073709551616 () () (⟨18446744073709551615, 1⟩ : Span) = false := by
  decide

-- Time filters through the filter functions.

-- Filtering spans by time keeps, in order, the one-span trees of the spans that start after
-- `start` and end before `end'`.
theorem FilterResourceSpans_timeRange (L : List (ResourceSpans Res Scope)) (start end' : Int) :
    FilterResourceSpans L [SpanInTimeRangeFilter start end'] =
      ((leafPaths L).filter fun p =>
        start < toInt64 p.leaf.startTimeUnixNano ∧ toInt64 p.leaf.endTimeUnixNano < end').map LeafPath.tree := by
  simp [FilterResourceSpans, filterResources_eq, leafPaths, splitPaths, andFilter, SpanInTimeRangeFilter]

-- Filtering log records by time keeps, in order, the one-record trees of the records whose
-- time is after `start` and before `end'`.
theorem FilterResourceLogs_timeRange (L : List (ResourceLogs Res Scope)) (start end' : Int) :
    FilterResourceLogs L [LogRecordInTimeRangeFilter start end'] =
      ((leafPaths L).filter fun p =>
        start < toInt64 p.leaf.timeUnixNano ∧ toInt64 p.leaf.timeUnixNano < end').map LeafPath.tree := by
  simp [FilterResourceLogs, filterResources_eq, leafPaths, splitPaths, andFilter, LogRecordInTimeRangeFilter,
    inTimeRange]

-- Filtering metrics by time works point by point, since the filter sees the split
-- one-point metrics: it keeps, in order, one tree for each data point whose time is in the
-- range.
theorem FilterResourceMetrics_timeRange (L : List (ResourceMetrics Res Scope KV)) (start end' : Int) :
    FilterResourceMetrics L [MetricDataPointInTimeRangeFilter start end'] =
      (leafPaths L).flatMap fun p =>
        (p.leaf.dataPoints.filter fun d => inTimeRange start end' (toInt64 d.timeUnixNano)).map fun d =>
          { p with leaf := p.leaf.withOnly d }.tree := by
  rw [FilterResourceMetrics, filterResources_eq, splitPaths_splitMetrics, dataPointPaths, List.filter_flatMap,
    List.map_flatMap]
  congr 1
  funext p
  have hpoint : ∀ d ∈ p.leaf.dataPoints, andFilter [MetricDataPointInTimeRangeFilter start end']
      p.res.resource p.scp.scope (p.leaf.withOnly d) = inTimeRange start end' (toInt64 d.timeUnixNano) := by
    intro d hd
    simp [andFilter, MetricDataPointInTimeRangeFilter, Metric.dataPoints_withOnly hd]
  rw [List.filter_map, List.map_map]
  congr 1
  exact List.filter_congr fun d hd => hpoint d hd

-- The three time filters, each through its filter function, keep in order one tree for each
-- span that starts after `start` and ends before `end'`, each log record and each data point
-- whose time is in the range, with times read as `int64`.
theorem FilterResource_timeRange (start end' : Int) :
    (∀ L : List (ResourceSpans Res Scope), FilterResourceSpans L [SpanInTimeRangeFilter start end'] =
      ((leafPaths L).filter fun p =>
        start < toInt64 p.leaf.startTimeUnixNano ∧ toInt64 p.leaf.endTimeUnixNano < end').map LeafPath.tree) ∧
    (∀ L : List (ResourceLogs Res Scope), FilterResourceLogs L [LogRecordInTimeRangeFilter start end'] =
      ((leafPaths L).filter fun p =>
        start < toInt64 p.leaf.timeUnixNano ∧ toInt64 p.leaf.timeUnixNano < end').map LeafPath.tree) ∧
    (∀ L : List (ResourceMetrics Res Scope KV), FilterResourceMetrics L [MetricDataPointInTimeRangeFilter start end'] =
      (leafPaths L).flatMap fun p =>
        (p.leaf.dataPoints.filter fun d => inTimeRange start end' (toInt64 d.timeUnixNano)).map fun d =>
          { p with leaf := p.leaf.withOnly d }.tree) :=
  ⟨fun L => FilterResourceSpans_timeRange L start end', fun L => FilterResourceLogs_timeRange L start end',
    fun L => FilterResourceMetrics_timeRange L start end'⟩

end OtlpHelper.Partition
