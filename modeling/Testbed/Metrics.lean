/-
**What is counted.**

The library counts events.  Each counter has a name under which it is published and a description,
and two of them tell their events apart by a label.

Main definitions:

* `Testbed.Counter` — the counters, `Testbed.Event` — what increments one;
* `Testbed.Counter.name`, `Testbed.Counter.description`;
* `Testbed.Event.text` — an event as it is published.
-/

set_option autoImplicit false

namespace Testbed

/-- The counters of the library. -/
inductive Counter where
  | containersStarted
  | containersRemoved
  | waitFailures
  | fileTransactions
  | logMatches
  deriving DecidableEq, Repr, Inhabited

namespace Counter

/-- All counters. -/
def all : List Counter :=
  [.containersStarted, .containersRemoved, .waitFailures, .fileTransactions, .logMatches]

/-- The name under which a counter is published. -/
def name : Counter → String
  | .containersStarted => "qnet_orchestrator_containers_started_total"
  | .containersRemoved => "qnet_orchestrator_containers_removed_total"
  | .waitFailures => "qnet_orchestrator_wait_failures_total"
  | .fileTransactions => "qnet_orchestrator_file_transactions_total"
  | .logMatches => "qnet_orchestrator_log_matches_total"

/-- What a counter counts. -/
def description : Counter → String
  | .containersStarted => "Containers cloned from a template and started"
  | .containersRemoved => "Containers stopped and removed during teardown"
  | .waitFailures => "Health waits that ended dead or exhausted"
  | .fileTransactions => "Single-file archive transactions inside containers"
  | .logMatches => "Log streams in which the requested pattern was found"

end Counter

/-- An event that is counted. -/
inductive Event where
  | containerStarted (node : String)
  | containerRemoved
  | waitDead
  | waitExhausted
  | fileTransaction
  | logMatch
  deriving DecidableEq, Repr, Inhabited

namespace Event

/-- The counter of an event. -/
def counter : Event → Counter
  | .containerStarted _ => .containersStarted
  | .containerRemoved => .containersRemoved
  | .waitDead | .waitExhausted => .waitFailures
  | .fileTransaction => .fileTransactions
  | .logMatch => .logMatches

/-- The label of an event, if its counter has one. -/
def label : Event → Option (String × String)
  | .containerStarted node => some ("node", node)
  | .waitDead => some ("outcome", "dead")
  | .waitExhausted => some ("outcome", "exhausted")
  | _ => none

/-- An event as it is published: its counter, with the label in braces. -/
def text (e : Event) : String :=
  match e.label with
  | none => e.counter.name
  | some (k, v) => e.counter.name ++ "\x7b" ++ k ++ "=" ++ v ++ "\x7d"

end Event

end Testbed
