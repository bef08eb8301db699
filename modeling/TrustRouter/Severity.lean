/-! # Severities and thresholds

The eight syslog severities, most severe first, and the two thresholds that decide which messages
are written. A message passes a threshold when it is at least as severe.

Thresholds are published as syslog levels, so that reading one is a single byte; a level that is no
severity would be read as `debug`, which hides nothing. Thresholds built from severities hold no
such level (`Thresholds.log_ofSeverities`, `Thresholds.console_ofSeverities`).
-/

namespace TrustRouter

/-- A syslog severity. -/
inductive Severity where
  /-- The system is unusable. -/
  | emerg
  /-- Action must be taken immediately. -/
  | alert
  | crit
  | err
  | warning
  /-- Normal but significant. -/
  | notice
  | info
  | debug
deriving DecidableEq

namespace Severity

/-- All severities, most severe first. -/
def all : List Severity := [emerg, alert, crit, err, warning, notice, info, debug]

/-- The word for a severity in configuration and in messages. -/
def label : Severity → String
  | emerg => "emerg"
  | alert => "alert"
  | crit => "crit"
  | err => "err"
  | warning => "warning"
  | notice => "notice"
  | info => "info"
  | debug => "debug"

/-- The severity of a word; an unknown word means `debug`, so that nothing is hidden. -/
def ofLabel (word : String) : Severity :=
  (all.find? fun s ↦ s.label == word).getD debug

/-- The syslog level. -/
def level : Severity → UInt8
  | emerg => 0
  | alert => 1
  | crit => 2
  | err => 3
  | warning => 4
  | notice => 5
  | info => 6
  | debug => 7

/-- The severity of a syslog level. -/
def ofLevel? (level : UInt8) : Option Severity :=
  all.find? fun s ↦ s.level == level

/-- Whether a message of this severity passes a threshold. -/
def passes (s threshold : Severity) : Bool := s.level ≤ threshold.level

theorem ofLabel_label (s : Severity) : ofLabel s.label = s := by
  cases s <;> decide

theorem ofLevel?_level (s : Severity) : ofLevel? s.level = some s := by
  cases s <;> decide

end Severity

/-- The published thresholds for the log file and for the console. -/
structure Thresholds where
  logLevel : UInt8
  consoleLevel : UInt8
deriving DecidableEq

namespace Thresholds

/-- The thresholds of two severities. -/
def ofSeverities (log console : Severity) : Thresholds := ⟨log.level, console.level⟩

/-- The severity a published level stands for. -/
def read (level : UInt8) : Severity := (Severity.ofLevel? level).getD .debug

/-- The threshold of the log file. -/
def log (t : Thresholds) : Severity := read t.logLevel

/-- The threshold of the console. -/
def console (t : Thresholds) : Severity := read t.consoleLevel

/-- Whether a message reaches the log file. -/
def allowsLog (t : Thresholds) (s : Severity) : Bool := s.passes t.log

/-- Whether a message reaches the console. -/
def allowsConsole (t : Thresholds) (s : Severity) : Bool := s.passes t.console

/-- The thresholds before any configuration: notices and what is more severe. -/
def initial : Thresholds := ofSeverities .notice .notice

@[simp]
theorem log_ofSeverities (log console : Severity) : (ofSeverities log console).log = log := by
  simp [ofSeverities, Thresholds.log, read, Severity.ofLevel?_level]

@[simp]
theorem console_ofSeverities (log console : Severity) :
    (ofSeverities log console).console = console := by
  simp [ofSeverities, Thresholds.console, read, Severity.ofLevel?_level]

end Thresholds

end TrustRouter
