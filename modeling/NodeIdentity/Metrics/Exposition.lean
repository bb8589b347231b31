import NodeIdentity.Metrics.Measurement
import NodeIdentity.Number.Binary64

/-!
# Exposition

The text in which measurements are offered to a collector.  There is a family of samples for each
thing that is counted, in ascending order of the families' names; a family without samples is left
out.  Within a family the samples ascend by the values of their labels.
-/

namespace NodeIdentity.Metrics

/-- The beginning of the name of every family. -/
def familyStem : String := "nodenet_firestoned_io_"

/-- What a counter counts: how something, the subject, fared. -/
structure CountedPair where
  subject : String
  aspect : String
deriving DecidableEq, Repr

/-- The values of both labels run together, by which counters are told apart. -/
def CountedPair.key (pair : CountedPair) : String :=
  pair.subject ++ pair.aspect

/-- Counters under their keys, each with the pair that it was made for. -/
abbrev Counters : Type :=
  Dict (CountedPair × Nat)

/-- Count a pair once.  A pair whose key is taken is counted for the pair that took it first. -/
def Counters.count (counters : Counters) (pair : CountedPair) : Counters :=
  match counters.get? pair.key with
  | some (first, number) => counters.insert pair.key (first, number + 1)
  | none => counters.insert pair.key (pair, 1)

/-- A family of counters with two labels. -/
structure CounterFamily where
  name : String
  help : String
  subjectLabel : String
  aspectLabel : String
  /-- What the family counts of a measurement. -/
  pair? : Measurement → Option CountedPair

/-- How often each pair was counted. -/
def CounterFamily.counters (family : CounterFamily) (measurements : List Measurement) : Counters :=
  (measurements.filterMap family.pair?).foldl Counters.count ∅

/-- The labels of a pair with their values, in ascending order of the labels. -/
def CounterFamily.labels (family : CounterFamily) (pair : CountedPair) : List (String × String) :=
  let subject := (family.subjectLabel, pair.subject)
  let aspect := (family.aspectLabel, pair.aspect)
  if family.subjectLabel ≤ family.aspectLabel then [subject, aspect] else [aspect, subject]

/-- Upserts of children. -/
def childUpserts : CounterFamily where
  name := "child_upserts_total"
  help := "Total number of child resource upserts by kind and outcome"
  subjectLabel := "resource_type"
  aspectLabel := "outcome"
  pair?
    | .childWrite kind outcome => some ⟨kind, outcome.name⟩
    | _ => none

/-- Conditions that entered a state. -/
def conditionTransitions : CounterFamily where
  name := "condition_transitions_total"
  help := "Total number of NodeSet condition state changes by condition type and new state"
  subjectLabel := "condition_type"
  aspectLabel := "state"
  pair?
    | .transition type state => some ⟨type, state⟩
    | _ => none

/-- Failed calls. -/
def errors : CounterFamily where
  name := "errors_total"
  help := "Total number of errors by resource type and error category"
  subjectLabel := "resource_type"
  aspectLabel := "error_type"
  pair?
    | .failure kind category => some ⟨kind, category⟩
    | _ => none

/-- Reconciliations that ended. -/
def reconciliations : CounterFamily where
  name := "reconciliations_total"
  help := "Total number of reconciliations by resource type and status"
  subjectLabel := "resource_type"
  aspectLabel := "status"
  pair?
    | .reconciliation kind result _ => some ⟨kind, result.name⟩
    | _ => none

/-- A character of a label value as it is written. -/
def escapeLabel (c : Char) : String :=
  if c = '\\' then "\\\\"
  else if c = '"' then "\\\""
  else if c = '\n' then "\\n"
  else c.toString

/-- A label with its value. -/
def labelText (label value : String) : String :=
  label ++ "=\"" ++ value.foldl (fun written c => written ++ escapeLabel c) "" ++ "\""

/-- A sample: the name, labels in their order, and a number. -/
def sampleLine (name : String) (labels : List String) (value : String) : String :=
  name ++ "\x7b" ++ ",".intercalate labels ++ "\x7d " ++ value

/-- The two lines in front of the samples of a family. -/
def headLines (name help type : String) : List String :=
  ["# HELP " ++ name ++ " " ++ help, "# TYPE " ++ name ++ " " ++ type]

/-- The samples of a family of counters, its name behind `stem`. -/
def CounterFamily.sampleLines (family : CounterFamily) (stem : String)
    (measurements : List Measurement) : List String :=
  let samples := (family.counters measurements).toList.map (fun entry =>
    (family.labels entry.2.1, entry.2.2))
  let ascending := samples.mergeSort (fun a b => !(b.1.map (·.2)).lex (a.1.map (·.2)))
  ascending.map (fun sample =>
    sampleLine (stem ++ family.name) (sample.1.map (fun label => labelText label.1 label.2))
      (toString sample.2))

/-- The lines of a family of counters. -/
def CounterFamily.lines (family : CounterFamily) (measurements : List Measurement) :
    List String :=
  match family.sampleLines familyStem measurements with
  | [] => []
  | samples => headLines (familyStem ++ family.name) family.help "counter" ++ samples

/-- A duration in seconds: whole seconds plus a fraction, each rounded once. -/
def seconds (nanos : Nat) : Binary64 :=
  Binary64.ofNat (nanos / 1000000000) + Binary64.ofRatio (nanos % 1000000000) 1000000000

/-- The upper bounds of the duration buckets, in thousandths of a second. -/
def bucketMillis : List Nat :=
  [5, 10, 50, 100, 250, 500, 1000, 2500, 5000, 10000]

/-- The upper bounds of the duration buckets. -/
def bucketBounds : List Binary64 :=
  bucketMillis.map (fun millis => Binary64.ofRatio millis 1000)

/-- The durations of the reconciliations of each kind, in the order in which they ended. -/
def durations (measurements : List Measurement) : Dict (List Binary64) :=
  measurements.foldl
    (fun durations measurement =>
      match measurement with
      | .reconciliation kind _ nanos =>
          durations.insert kind ((durations.get? kind).getD [] ++ [seconds nanos])
      | _ => durations)
    ∅

/-- The name of the family of durations. -/
def durationName : String :=
  familyStem ++ "reconciliation_duration_seconds"

/-- The samples for the durations of one kind: how many are within each bound, sum and number. -/
def durationSamples (kind : String) (values : List Binary64) : List String :=
  let label := labelText "resource_type" kind
  let bucket (bound : String) (count : Nat) : String :=
    sampleLine (durationName ++ "_bucket") [label, labelText "le" bound] (toString count)
  bucketBounds.map (fun bound =>
      bucket bound.shortest.positional (values.countP (fun value => value.le bound))) ++
    [bucket "+Inf" values.length,
      sampleLine (durationName ++ "_sum") [label]
        (values.foldl (· + ·) Binary64.zero).shortest.positional,
      sampleLine (durationName ++ "_count") [label] (toString values.length)]

/-- The lines of the family of durations. -/
def durationLines (measurements : List Measurement) : List String :=
  match (durations measurements).toList with
  | [] => []
  | rows =>
      headLines durationName "Duration of reconciliations in seconds by resource type"
          "histogram" ++
        rows.flatMap (fun row => durationSamples row.1 row.2)

/-- All lines offered to a collector. -/
def lines (measurements : List Measurement) : List String :=
  childUpserts.lines measurements ++ conditionTransitions.lines measurements ++
    errors.lines measurements ++ durationLines measurements ++ reconciliations.lines measurements

/-- The samples of all counters, under their names without the common beginning. -/
def counterSamples (measurements : List Measurement) : List String :=
  [childUpserts, conditionTransitions, errors, reconciliations].flatMap
    (fun family => family.sampleLines "" measurements)

end NodeIdentity.Metrics
