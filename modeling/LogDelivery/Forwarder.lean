import LogDelivery.LogFilter
import LogDelivery.Pipeline.Opening
import LogDelivery.Rehearsal
import LogDelivery.Text.Utf8

/-!
# Forwarding lines

Standard input is forwarded line by line, each line as an event. A line may begin with a word for its level;
blank lines are left out. Input ends before the first cycle, so all events go out in the last flush.
-/
namespace LogDelivery.Forwarder

/-- A line's first word without the marks that may stand around a level: brackets in front, brackets and then
colons behind. -/
def candidate (word : List Char) : String :=
  String.ofList (Text.dropEndWhile (· == ']') (Text.dropEndWhile (· == ':') (word.dropWhile (· == '['))))

/-- The event of a line, unless it is blank. A word for a level counts only if something follows it. -/
def event? (line : String) (timestamp : UInt64) : Option Event :=
  let line := Text.trimEnd line.toList
  let start := Text.trimStart line
  if start.isEmpty then none
  else
    let word := start.takeWhile fun c => !Text.isBlank c
    let rest := Text.trimStart (start.drop word.length)
    match Level.ofText? (candidate word) with
    | some level =>
      if rest.isEmpty then some (.ofMessage .info (String.ofList line) timestamp)
      else some (.ofMessage level (String.ofList rest) timestamp)
    | none => some (.ofMessage .info (String.ofList line) timestamp)

/-- Bytes up to each line feed, which stays with them; the last part may have none. -/
def pieces : List UInt8 → List (List UInt8)
  | [] => []
  | b :: rest =>
    if b = 0x0A then [b] :: pieces rest
    else match pieces rest with
      | [] => [[b]]
      | first :: more => (b :: first) :: more

def withoutEnd (s : String) : String :=
  String.ofList (match s.toList.reverse with
    | '\n' :: '\r' :: rest => rest.reverse
    | '\n' :: rest => rest.reverse
    | _ => s.toList)

def readPieces : List (List UInt8) → List String × Option Text.Utf8Fault
  | [] => ([], none)
  | piece :: rest =>
    match Text.decodeUtf8 piece with
    | .error fault => ([], some fault)
    | .ok line =>
      let (lines, fault) := readPieces rest
      (withoutEnd line :: lines, fault)

def readLines (input : List UInt8) : List String × Option Text.Utf8Fault := readPieces (pieces input)

structure Outcome where
  code : Nat
  notices : List Notice := []
  requests : List Request := []

def levelVariable : String := "LOG_SHIPPER_LOG_LEVEL"

def filterFault : Nat := 101

def filter? (env : Settings.Environment) : Option LogFilter :=
  LogFilter.wanted? ((env levelVariable).getD "info")

/-- Gives the lines to the pipeline and counts those that make an event. Every event has the time zero,
not that at which its line was read. -/
def forward (run : Rehearsal Connection) (lines : List String) : Rehearsal Connection × Nat :=
  lines.foldl (fun (run, count) line =>
    match event? line 0 with
    | none => (run, count)
    | some e =>
      let (run, passes) := run.append e
      (run, if passes then count + 1 else count)) (run, 0)

def forwardAll (env : Settings.Environment) (input : List UInt8) (agent collector : Server) : Outcome :=
  let s := Settings.ofEnvironment env
  let (opened, said) := Pipeline.openWithOwnKey s collector
  let said := .noticesOn :: Settings.notices env ++ said
  match opened with
  | .error e => { code := 1, notices := said ++ [.cannotStart e.message] }
  | .ok (pipeline, wire) =>
    let server := match s.route with
      | .direct => collector
      | .agent => agent
    let start : Rehearsal Connection := .start pipeline ⟨wire, server⟩ s.shutdownTimeout said
    let (lines, fault) := readLines input
    let (run, count) := forward start lines
    let ending := match fault with
      | none => Notice.inputEnded
      | some fault => .inputUnreadable fault.message
    let (run, result) := (run.moved (run.pipeline, [ending, .forwarded count])).shutdown
    let requests := run.peer.server.requests
    match result with
    | .ok () => { code := 0, notices := run.notices, requests }
    | .error e => { code := 1, notices := run.notices ++ [.shutdownFailed e.message], requests }

def run (env : Settings.Environment) (input : List UInt8) (agent collector : Server) : Outcome :=
  match filter? env with
  | none => { code := filterFault }
  | some filter =>
    let outcome := forwardAll env input agent collector
    { outcome with notices := outcome.notices.filter filter.admits }

end LogDelivery.Forwarder
