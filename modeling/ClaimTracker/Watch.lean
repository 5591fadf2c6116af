import ClaimTracker.Watch.Notice

/-!
# Watching config maps

A watch lists the labelled config maps of all namespaces page by page, tells what it found as one
event, and then asks for changes since the version of the list. Every change it is told of moves the
version on, so that it can ask again where an answer ended. What it cannot follow makes it start over:
a listing that fails, a version that the server no longer knows, and an object without a version.
Lines that it cannot read, and errors of any other kind, it passes over. Whether an answer that tells
of changes is a failure it does not ask.
-/

namespace ClaimTracker

namespace Watch

/-- Where a watch is. -/
inductive State where
  /-- It has found these config maps and asks for the page of a token, or for the first one. -/
  | listing (token : Option String) (found : List ConfigMap)
  /-- It asks for changes since a version. -/
  | following (version : String)
deriving DecidableEq, Repr

def State.start : State := .listing none []

/-- The number of config maps asked for per page. -/
def pageSize : Nat := 500

/-- Seconds for which changes are asked for at a time. -/
def followSeconds : Nat := 290

/-- The code of the error that tells that a version is too old. -/
def goneCode : Nat := 410

def path : String := "/api/v1/configmaps"

def State.request : State → Api.Request
  | .listing token _ =>
    ⟨path, [("limit", toString pageSize), ("labelSelector", NamespaceConfig.labelSelector)] ++
      (token.map fun token => ("continue", token)).toList⟩
  | .following version =>
    ⟨path, [("watch", "true"), ("timeoutSeconds", toString followSeconds),
      ("labelSelector", NamespaceConfig.labelSelector), ("allowWatchBookmarks", "true"),
      ("resourceVersion", version)]⟩

/-- What a watch does with an answer: the events that it tells, and where it goes on. -/
structure Progress where
  events : List ConfigEvent
  state : State
deriving DecidableEq, Repr

def takePage (found : List ConfigMap) (r : Api.Response) : Progress :=
  match Api.ObjectList.ofResponse? ConfigMap.reader r with
  | none => ⟨[], .start⟩
  | some l =>
    let found := found ++ l.items.map ConfigMap.Versioned.configMap
    match l.position.next, l.position.version with
    | some token, _ => ⟨[], .listing (some token) found⟩
    | none, some version => ⟨[.restarted found], .following version⟩
    | none, none => ⟨[], .start⟩

/-- Takes in what is told of changes since a version. -/
def takeNotices : String → List Notice → Progress
  | version, [] => ⟨[], .following version⟩
  | version, n :: l =>
    let tell (event : ConfigEvent) (moved : Option String) : Progress :=
      match moved with
      | some moved => let rest := takeNotices moved l; ⟨event :: rest.events, rest.state⟩
      | none => ⟨[], .start⟩
    match n with
    | .applied c => tell (.applied c.configMap) c.version
    | .deleted c => tell (.deleted c.configMap) c.version
    | .bookmark moved => takeNotices moved l
    | .error code => if code = goneCode then ⟨[], .start⟩ else takeNotices version l

/-- The lines of an answer that can be read. -/
def notices (body : String) : List Notice :=
  (Text.fields '\n' body.toList).filterMap Notice.ofLine?

/-- Takes in an answer. -/
def State.receive (s : State) (r : Api.Response) : Progress :=
  match s with
  | .listing _ found => takePage found r
  | .following version => takeNotices version (notices r.body)

structure Outcome where
  requests : List Api.Request
  events : List ConfigEvent
  /-- Whether it stopped because nobody took its events any more. -/
  stopped : Bool
deriving DecidableEq, Repr

/-- Watches as long as answers come. Where a number of events is given, nobody takes any more than
that, and the watch stops at the first event too many. -/
def run : (room : Option Nat) → State → List Api.Response → Outcome
  | _, s, [] => ⟨[s.request], [], false⟩
  | room, s, r :: l =>
    let progress := s.receive r
    if room.any (· < progress.events.length) then
      ⟨[s.request], progress.events.take (room.getD 0), true⟩
    else
      let rest := run (room.map (· - progress.events.length)) progress.state l
      ⟨s.request :: rest.requests, progress.events ++ rest.events, rest.stopped⟩

end Watch

end ClaimTracker
