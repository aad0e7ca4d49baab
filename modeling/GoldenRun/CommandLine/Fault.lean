import GoldenRun.CommandLine.Occurrence
import GoldenRun.CommandLine.Value

/-!
# Faults of occurrences

Occurrences are settled from the left, and the first fault is the one that is told. An occurrence is
at fault

* when it has no value and needs one;
* when its option occurred before and may not be repeated;
* when its value is not admissible.

A request for help or for the version ends the settling in the same way. Where an argument could not be
explained, the occurrences in front of it are settled first; but the last of them, if it took its value
from the next token, is then not settled any more.
-/

namespace GoldenRun.CommandLine

/-- The value that the occurrence has for the setting. -/
def Occurrence.valueOf? (setting : Setting) : Occurrence → Option Bytes
  | .attached s v | .detached s v => if s = setting then some v else none
  | _ => none

/-- The values that the occurrences have for the setting, in order. -/
def valuesOf (setting : Setting) (occurrences : List Occurrence) : List Bytes :=
  occurrences.filterMap (·.valueOf? setting)

/-- A setting that occurs with this value, behind the occurrences of `earlier`. -/
def valueFault? (earlier : List Occurrence) (setting : Setting) (value : Bytes) : Option Refusal :=
  if !setting.repeats && !(valuesOf setting earlier).isEmpty then some (.repeated setting.shown)
  else
    match setting.read value with
    | .ok _ => none
    | .error refusal => some refusal

/-- What is wrong with an occurrence behind those of `earlier`. -/
def Occurrence.fault? (earlier : List Occurrence) : Occurrence → Option Refusal
  | .attached s v | .detached s v => valueFault? earlier s v
  | .bare s => some (.missingValue s.shown)
  | .switch s => if earlier.contains (.switch s) then some (.repeated s.shown) else none
  | .help => some .help
  | .version => some .version

/-- The first fault among the occurrences behind those of `earlier`. -/
def firstFault? (earlier : List Occurrence) : List Occurrence → Option Refusal
  | [] => none
  | o :: later =>
    match o.fault? earlier with
    | some refusal => some refusal
    | none => firstFault? (earlier ++ [o]) later

/-- The occurrences that are settled. -/
def Scan.settled (scan : Scan) : List Occurrence :=
  match scan.stop?, scan.occurrences.getLast? with
  | some _, some last => if last.isOpen then scan.occurrences.dropLast else scan.occurrences
  | _, _ => scan.occurrences

/-- Why the arguments are refused, if they are. -/
def Scan.refusal? (scan : Scan) : Option Refusal :=
  match firstFault? [] scan.settled with
  | some refusal => some refusal
  | none => scan.stop?

end GoldenRun.CommandLine
