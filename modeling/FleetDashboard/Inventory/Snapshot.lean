import FleetDashboard.Inventory.Alert
import FleetDashboard.Inventory.Cluster
import FleetDashboard.Inventory.Organization
import FleetDashboard.Json.Reader
import FleetDashboard.Text.Utf8

/-!
# Snapshots of the inventory

The inventory lives in three files of a data directory, each a list of records.
A file that does not exist is an empty list.  A file that cannot be read as text
and a file that is no such list are failures of the whole look-up, also when the
flaw lies in a record that the look-up does not need.
-/

namespace FleetDashboard

open Calendar Json

/-- What stands at a file's path. -/
inductive SnapshotFile where
  | absent
  | directory
  | bytes
      (content : List UInt8)
  deriving DecidableEq, Repr

/-- Why a snapshot yields no list. -/
inductive SnapshotFault where
  | unreadable
      (path : String)
  | unparsable
      (path : String)
  deriving DecidableEq, Repr

namespace SnapshotFault

/-- The wording of a fault. -/
def message : SnapshotFault → String
  | unreadable path => "Failed to read " ++ path
  | unparsable path => "Failed to parse " ++ path

end SnapshotFault

namespace SnapshotFile

/-- The list of records in a file. -/
def records
    (file : SnapshotFile)
    (path : String)
    (decode : Decoder α) : Except SnapshotFault (List α) :=
  match file with
  | absent => .ok []
  | directory => .error (.unreadable path)
  | bytes content =>
      match Text.Utf8.decode content with
      | none => .error (.unreadable path)
      | some characters =>
          match (Json.readCharacters characters).bind (decodeList decode) with
          | some records => .ok records
          | none => .error (.unparsable path)

@[simp] theorem records_absent
    (path : String)
    (decode : Decoder α) :
    absent.records path decode = .ok [] := rfl

end SnapshotFile

/-- The data directory of the inventory. -/
structure DataDirectory where
  path : String
  organizations : SnapshotFile
  clusters : SnapshotFile
  alerts : SnapshotFile
  deriving DecidableEq, Repr

namespace DataDirectory

/-- The path of a file in the directory. -/
def pathOf
    (directory : DataDirectory)
    (name : String) : String :=
  if directory.path.isEmpty || directory.path.endsWith "/" then directory.path ++ name
  else directory.path ++ "/" ++ name

/-- All organizations. -/
def allOrganizations
    (directory : DataDirectory) : Except SnapshotFault (List Organization) :=
  directory.organizations.records (directory.pathOf "organizations.json") Organization.decode

/-- All clusters. -/
def allClusters
    (directory : DataDirectory) : Except SnapshotFault (List Cluster) :=
  directory.clusters.records (directory.pathOf "clusters.json") Cluster.decode

/-- All alert events. -/
def allAlerts
    (directory : DataDirectory) : Except SnapshotFault (List Alert) :=
  directory.alerts.records (directory.pathOf "alerts.json") Alert.decode

/-- The first organization with an id. -/
def organization?
    (directory : DataDirectory)
    (id : String) : Except SnapshotFault (Option Organization) :=
  directory.allOrganizations.map fun organizations =>
    organizations.find? fun organization => organization.id == id

/-- The clusters of an organization. -/
def clustersOf
    (directory : DataDirectory)
    (organization : String) : Except SnapshotFault (List Cluster) :=
  directory.allClusters.map fun clusters =>
    clusters.filter fun cluster => cluster.organization == organization

/-- The first cluster with an id. -/
def cluster?
    (directory : DataDirectory)
    (id : String) : Except SnapshotFault (Option Cluster) :=
  directory.allClusters.map fun clusters => clusters.find? fun cluster => cluster.id == id

/-- The restarts of an organization's pods in a span of time. -/
def podRestarts
    (directory : DataDirectory)
    (organization : String)
    (start finish : Instant) : Except SnapshotFault (List Alert) :=
  directory.allAlerts.map fun alerts => Alert.podRestarts alerts organization start finish

end DataDirectory
end FleetDashboard
