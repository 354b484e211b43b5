import EngineBindings.Files.Tree
import EngineBindings.Files.Write
import EngineBindings.Journal.Basic
import EngineBindings.Journal.Line

/-! Publishing text files.

A run either writes its files or only tries things out. Publishing a text does what the run is
there for and tells what has become of the file; a trial touches nothing. -/
namespace EngineBindings

/-- What has become of a published file. -/
inductive Publication where
  | written
  /-- The file held the text already. -/
  | unchanged
  /-- The run only tries things out. -/
  | withheld
  deriving DecidableEq

/-- What is reported about a published file. -/
def Publication.entry (path : Path) : Publication → Entry
  | written => .info .fileWritten "[write] %s" [.path path.text]
  | unchanged => .debug .fileUnchanged "[skip] %s (unchanged)" [.path path.text]
  | withheld => .info .fileWithheld "[dry-run] write %s" [.path path.text]

namespace Tree

/-- Publishes a text file. -/
def publish (disturbed : Disturbance) (o : WriteOptions) (isTrial : Bool) (t : Tree) (path : Path)
    (text : String) : Tree × Except FileFault Publication :=
  if isTrial then (t, .ok .withheld)
  else
    match t.writeText disturbed o path text with
    | (t, .ok true) => (t, .ok .written)
    | (t, .ok false) => (t, .ok .unchanged)
    | (t, .error fault) => (t, .error fault)

/-- A trial touches nothing. -/
theorem publish_trial (disturbed : Disturbance) (o : WriteOptions) (t : Tree) (path : Path)
    (text : String) : t.publish disturbed o true path text = (t, .ok .withheld) := rfl

end Tree

/-! ### Logs

A log is the file that a run's journal is written to while the run goes on, so that whatever reads
the file meanwhile finds the lines so far (`Tree.report`). A tree that holds no log stays as it is
(`report_of_log_eq_none`). -/

/-- Which entries a log shows, and how. -/
structure LogStyle where
  format : String
  threshold : Nat

/-- The lines of a log. -/
def LogStyle.text (style : LogStyle) (journal : Journal) : String :=
  Journal.text style.format style.threshold journal

namespace Tree

/-- Adds bytes to the log, if there is one. -/
def appendToLog (t : Tree) (bytes : ByteArray) : Tree :=
  match t.log with
  | none => t
  | some place =>
    match t.node? place with
    | some (.file content mode) => t.put place (.file (content ++ bytes) mode)
    | _ => t

/-- Writes entries to the log, if there is one. -/
def report (style : LogStyle) (t : Tree) (entries : Journal) : Tree :=
  t.appendToLog ((Text.characters? (style.text entries)).getD "").toUTF8

theorem report_of_log_eq_none (style : LogStyle) {t : Tree} (h : t.log = none)
    (entries : Journal) : t.report style entries = t := by
  simp [report, appendToLog, h]

end Tree

end EngineBindings
