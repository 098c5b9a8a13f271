import FleetDashboard.Metrics.Reading
import FleetDashboard.Metrics.Sample

/-!
# Utilization

How much of its processors, memory and disks a cluster uses, and what all
clusters of an organization offer together.  Only the first sample of a metric
counts for a cluster; a share without a positive total is unknown, and unknown
shares are empty texts.
-/

namespace FleetDashboard

open Metrics Number

/-- The shares that a cluster uses, in percent; unknown ones are empty. -/
structure StackUtilization where
  cpu : String
  memory : String
  disk : String
  deriving DecidableEq, Repr

namespace StackUtilization

/-- Memory that is free. -/
def memoryFree : String := "node_memory_MemFree_bytes"

/-- Memory in all. -/
def memoryTotal : String := "machine_memory_bytes"

/-- Disk space in use. -/
def diskUsed : String := "kubelet_volume_stats_used_bytes"

/-- Disk space in all. -/
def diskCapacity : String := "kubelet_volume_stats_capacity_bytes"

/-- The sample is about a cluster and, if one is named, about a metric. -/
def isAbout
    (cluster : String)
    (metric : Option String)
    (sample : Sample) : Bool :=
  sample.cluster? == some cluster && (metric.isNone || sample.metric? == metric)

/-- The number in the first sample about a cluster and a metric. -/
def firstValue
    (samples : List Sample)
    (cluster : String)
    (metric : Option String) : Option Binary64 :=
  (samples.find? (isAbout cluster metric)).bind fun sample => readValue sample.value

/-- The share of a positive total in percent.  An unknown part counts as zero. -/
def shareOf
    (complement : Bool)
    (part total : Option Binary64) : String :=
  match total with
  | some total =>
      if total.isPositive then
        let ratio := (part.getD (.zero false)).div total
        let share := if complement then Binary64.one.sub ratio else ratio
        shareText (share.mul Binary64.hundred)
      else ""
  | none => ""

/-- The text of a load, or nothing for an unknown one. -/
def loadText : Option Binary64 → String
  | some load => shareText load
  | none => ""

/-- The utilization of a cluster. -/
def ofSamples
    (cluster : String)
    (memoryDisk cpu : List Sample) : StackUtilization where
  cpu := loadText (firstValue cpu cluster none)
  memory :=
    shareOf true (firstValue memoryDisk cluster (some memoryFree))
      (firstValue memoryDisk cluster (some memoryTotal))
  disk :=
    shareOf false (firstValue memoryDisk cluster (some diskUsed))
      (firstValue memoryDisk cluster (some diskCapacity))

end StackUtilization

/-- What the clusters of an organization offer together. -/
structure Capacity where
  cpuCores : Nat
  memoryGigabytes : Nat
  storageGigabytes : Nat
  deriving DecidableEq, Repr

namespace Capacity

/-- Bytes of a gigabyte. -/
def bytesPerGigabyte : Nat := Nat.pow 2 30

/-- The positive whole numbers among samples. -/
def positiveValues
    (samples : List Sample) : List Nat :=
  samples.filterMap fun sample =>
    ((readWholeNumber sample.value).filter fun value => 0 < value).map Int.toNat

/-- The sum of what is measured of each value. -/
def sumOf
    (measure : Nat → Nat)
    (values : List Nat) : Nat :=
  values.foldr (fun value sum => measure value + sum) 0

/-- The sum of the positive whole numbers among samples. -/
def total
    (samples : List Sample) : Nat :=
  sumOf id (positiveValues samples)

/-- The sum in whole gigabytes, each sample rounded down. -/
def totalGigabytes
    (samples : List Sample) : Nat :=
  sumOf (· / bytesPerGigabyte) (positiveValues samples)

/-- The capacity that samples report. -/
def ofSamples
    (cpu memory storage : List Sample) : Capacity :=
  ⟨total cpu, totalGigabytes memory, totalGigabytes storage⟩

@[simp] theorem positiveValues_append
    (left right : List Sample) :
    positiveValues (left ++ right) = positiveValues left ++ positiveValues right := by
  simp [positiveValues]

@[simp] theorem sumOf_append
    (measure : Nat → Nat)
    (left right : List Nat) :
    sumOf measure (left ++ right) = sumOf measure left + sumOf measure right := by
  induction left with
  | nil => simp [sumOf]
  | cons value rest inductionHypothesis =>
      simp only [sumOf, List.cons_append, List.foldr_cons] at inductionHypothesis ⊢
      rw [inductionHypothesis, Nat.add_assoc]

end Capacity
end FleetDashboard
