import FleetDashboard.Number.Binary64

/-!
# Metric samples and series

What a metrics backend answers: samples at one moment and series over a range,
both identified by labels.  Values stay text until a reader decides what a bad
one means.
-/

namespace FleetDashboard
namespace Metrics

/-- Label names with their values, each name once. -/
abbrev Labels := List (String × String)

namespace Labels

/-- The value of a label. -/
def value?
    (labels : Labels)
    (name : String) : Option String :=
  (labels.find? fun label => label.1 == name).map Prod.snd

/-- Give a label a value, replacing an earlier one in place. -/
def set
    (labels : Labels)
    (name value : String) : Labels :=
  if labels.any fun label => label.1 == name then
    labels.map fun label => if label.1 == name then (name, value) else label
  else labels ++ [(name, value)]

/-- Labels from pairs of which the last of each name counts. -/
def ofPairs
    (pairs : List (String × String)) : Labels :=
  pairs.foldl (fun labels pair => set labels pair.1 pair.2) []

/-- The label that names the cluster on every dashboard series. -/
def clusterName : String := "taco_cluster"

/-- The label that names the metric on queries for several metrics. -/
def metricName : String := "__name__"

end Labels

/-- One point of time with the text of a value. -/
structure Point where
  time : Number.Binary64
  value : String
  deriving DecidableEq, Repr

/-- One sample of an instant query. -/
structure Sample where
  labels : Labels
  point : Point
  deriving DecidableEq, Repr

/-- One series of a range query. -/
structure Series where
  labels : Labels
  points : List Point
  deriving DecidableEq, Repr

namespace Sample

/-- The cluster that a sample is about. -/
def cluster?
    (sample : Sample) : Option String :=
  Labels.value? sample.labels Labels.clusterName

/-- The metric that a sample measures. -/
def metric?
    (sample : Sample) : Option String :=
  Labels.value? sample.labels Labels.metricName

/-- The text of a sample's value. -/
def value
    (sample : Sample) : String :=
  sample.point.value

end Sample

namespace Series

/-- The cluster that a series is about. -/
def cluster?
    (series : Series) : Option String :=
  Labels.value? series.labels Labels.clusterName

end Series
end Metrics
end FleetDashboard
