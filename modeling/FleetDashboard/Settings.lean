import FleetDashboard.Net.SocketAddress
import FleetDashboard.Text.Blank
import FleetDashboard.Text.Numeral

/-!
# Settings

The settings of the server, read from the variables of its environment.  Reading
never fails: a variable that is missing or blank gives the default in silence,
one that cannot be used gives the default and leaves a notice.
-/

namespace FleetDashboard

open Net Text

/-- The variables of an environment. -/
abbrev Environment := String → Option String

/-- Why a setting has its default although its variable is set. -/
inductive SettingNotice where
  | invalid
      (variableName raw standard : String)
  | outOfBounds
      (variableName : String)
      (value standard : Nat)
  deriving DecidableEq, Repr

/-- The settings of the server. -/
structure Settings where
  bindAddress : SocketAddress
  dataDirectory : String
  /-- Lifetime of cached texts, in seconds. -/
  cacheLifetime : Nat
  /-- Time between two purges of the cache, in seconds. -/
  purgePeriod : Nat
  /-- Longest time to wait for a remote party, in seconds. -/
  outboundTimeout : Nat
  metricsNamespace : String
  /-- Where log files go, if not to the console. -/
  logDirectory : Option String
  notices : List SettingNotice
  deriving DecidableEq, Repr

namespace Settings

/-- Longest time that a setting can name, in seconds: thirty days. -/
def longestTime : Nat := 30 * 24 * 60 * 60

/-- The address to listen on when none is set. -/
def standardAddress : SocketAddress :=
  .octets ⟨0⟩ 8080

end Settings

namespace SettingNotice

/-- The wording of a notice. -/
def message : SettingNotice → String
  | invalid variableName raw standard =>
      "Invalid value '" ++ raw ++ "' for " ++ variableName ++ ", using default " ++ standard
  | outOfBounds variableName value standard =>
      variableName ++ "=" ++ natText value ++ " is outside 1..=" ++
        natText Settings.longestTime ++ ", using default " ++ natText standard

end SettingNotice

namespace Settings

/-- The value of a variable that is set and not blank. -/
def filled?
    (environment : Environment)
    (variableName : String) : Option String :=
  (environment variableName).filter fun value => !isBlankText value

/-- Read a value, or take the default and leave a notice. -/
def choose
    (environment : Environment)
    (variableName : String)
    (read : String → Option α)
    (standard : α)
    (write : α → String) : α × List SettingNotice :=
  match filled? environment variableName with
  | none => (standard, [])
  | some raw =>
      match read (trim raw) with
      | some value => (value, [])
      | none => (standard, [.invalid variableName raw (write standard)])

/-- A time in seconds. -/
def readSeconds
    (text : String) : Option Nat :=
  (readNat (Nat.pow 2 64 - 1) text.toList).toOption

/-- Read a time within bounds, or take the default and leave a notice. -/
def chooseSeconds
    (environment : Environment)
    (variableName : String)
    (standard : Nat) : Nat × List SettingNotice :=
  let (value, notices) := choose environment variableName readSeconds standard natText
  if 1 ≤ value ∧ value ≤ longestTime then (value, notices)
  else (standard, notices ++ [.outOfBounds variableName value standard])

/-- Read all settings. -/
def read
    (environment : Environment) : Settings :=
  let (bindAddress, bindNotices) :=
    choose environment "STACKBOARD_BIND_ADDR" SocketAddress.read? standardAddress
      SocketAddress.write
  let (cacheLifetime, lifetimeNotices) :=
    chooseSeconds environment "STACKBOARD_CACHE_TTL_SECS" 300
  let (purgePeriod, purgeNotices) :=
    chooseSeconds environment "STACKBOARD_CACHE_PURGE_SECS" 600
  let (outboundTimeout, timeoutNotices) :=
    chooseSeconds environment "STACKBOARD_OUTBOUND_TIMEOUT_SECS" 10
  { bindAddress := bindAddress
    dataDirectory := (filled? environment "STACKBOARD_DATA_DIR").getD "./data"
    cacheLifetime := cacheLifetime
    purgePeriod := purgePeriod
    outboundTimeout := outboundTimeout
    metricsNamespace := (filled? environment "STACKBOARD_METRICS_NAMESPACE").getD "lma"
    logDirectory := filled? environment "STACKBOARD_LOG_DIR"
    notices := bindNotices ++ lifetimeNotices ++ purgeNotices ++ timeoutNotices }

end Settings
end FleetDashboard
