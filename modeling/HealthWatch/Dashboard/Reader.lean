import HealthWatch.Dashboard
import HealthWatch.Json.Decode
/-!
# Reading the report of a dashboard

A text is read from left to right, and the first fault that is met decides. Records may be objects,
whose unknown members are passed over, or arrays of their fields in order. A field may be given
once; in a map the last value of a name stands.
-/

namespace HealthWatch.Dashboard

/-- Why a text is not the report of a dashboard. -/
inductive Fault where
  /-- It is not JSON, or not of the right shape. -/
  | malformed
  /-- A duration is no timespan. -/
  | badTimespan (text : String)
  /-- A duration is a timespan that is too long. -/
  | overflow (step : Timespan.Overflow)
  deriving DecidableEq

/-- The wording of a bad timespan. -/
def badTimespanMessage (text : String) : String := "invalid timespan '" ++ text ++ "'"

/-- The value, or the fault that there is none. -/
def orMalformed {α : Type} : Option α → Except Fault α
  | some a => .ok a
  | none => .error .malformed

/-- Nothing, or the fault that a condition fails. -/
def require (condition : Bool) : Except Fault Unit :=
  if condition then .ok () else .error .malformed

/-! ## Single values -/

open Json (Outline)

def readString : Outline → Except Fault String
  | .string raw => orMalformed (Json.stringValue? raw)
  | _ => .error .malformed

/-- A text, or null. -/
def readOptional : Outline → Except Fault (Option String)
  | .word .null => .ok none
  | o => (readString o).map some

/-- A status: its name, or an object of which the name is the only member, with null. -/
def readStatus : Outline → Except Fault Status
  | .object [(raw, .word .null)] true => do
    orMalformed (Status.ofName? (← readString (.string raw)))
  | o => do orMalformed (Status.ofName? (← readString o))

def readDuration (o : Outline) : Except Fault Duration := do
  let s ← readString o
  match Timespan.parse s.toList with
  | .ok d => .ok d
  | .error .malformed => .error (.badTimespan s)
  | .error (.overflow step) => .error (.overflow step)

def readNames : Outline → Except Fault NameSet
  | .array items closed => do
    let names ← items.mapM readString
    require closed
    return .ofList names
  | _ => .error .malformed

/-- A map from names to what `readValue` reads. -/
def readMap {α : Type} (readValue : Outline → Except Fault α) : Outline → Except Fault (NameMap α)
  | .object members closed => do
    let pairs ← members.mapM fun (raw, o) => do
      let name ← readString (.string raw)
      return (name, ← readValue o)
    require closed
    return .ofList pairs
  | _ => .error .malformed

/-- How deep the containers within the data of an entry may be nested: the report, the map of its
entries, the entry and its data count too. -/
def dataDepth : Nat := Json.greatestDepth - 4

def readDatum (o : Outline) : Except Fault Datum :=
  orMalformed ((o.value? dataDepth).map .ofJson)

/-! ## Records -/

/-- The fields of an entry as far as they have been read. -/
structure EntryFields where
  data : Option (NameMap Datum) := none
  description : Option (Option String) := none
  duration : Option Duration := none
  exception : Option (Option String) := none
  status : Option Status := none
  tags : Option NameSet := none

/-- The entry, unless a field that it needs is missing. -/
def EntryFields.entry (f : EntryFields) : Except Fault DashboardEntry := do
  return {
    data := f.data.getD .empty
    description := f.description.getD none
    duration := ← orMalformed f.duration
    exception := f.exception.getD none
    status := ← orMalformed f.status
    tags := f.tags.getD .empty }

def EntryFields.member (f : EntryFields) (m : List Char × Outline) : Except Fault EntryFields := do
  match ← readString (.string m.1) with
  | "data" => require f.data.isNone; return { f with data := ← readMap readDatum m.2 }
  | "description" =>
    require f.description.isNone
    return { f with description := some (← readOptional m.2) }
  | "duration" => require f.duration.isNone; return { f with duration := ← readDuration m.2 }
  | "exception" =>
    require f.exception.isNone
    return { f with exception := some (← readOptional m.2) }
  | "status" => require f.status.isNone; return { f with status := ← readStatus m.2 }
  | "tags" => require f.tags.isNone; return { f with tags := ← readNames m.2 }
  | _ => require m.2.isWhole; return f

/-- The fields with one more item of an array, by its place. -/
def EntryFields.item (f : EntryFields) (place : Nat) (o : Outline) : Except Fault EntryFields := do
  match place with
  | 0 => return { f with data := ← readMap readDatum o }
  | 1 => return { f with description := some (← readOptional o) }
  | 2 => return { f with duration := ← readDuration o }
  | 3 => return { f with exception := some (← readOptional o) }
  | 4 => return { f with status := ← readStatus o }
  | 5 => return { f with tags := ← readNames o }
  | _ => .error .malformed

/-- An entry: an object, or an array of five or six fields. -/
def readEntry : Outline → Except Fault DashboardEntry
  | .object members closed => do
    let fields ← members.foldlM EntryFields.member {}
    require closed
    fields.entry
  | .array items closed => do
    let fields ← items.zipIdx.foldlM (fun f p => f.item p.2 p.1) ({} : EntryFields)
    require closed
    fields.entry
  | _ => .error .malformed

/-- The fields of a report as far as they have been read. -/
structure Fields where
  status : Option Status := none
  total : Option Duration := none
  entries : Option (NameMap DashboardEntry) := none

/-- The report, unless a field is missing. -/
def Fields.dashboard (f : Fields) : Except Fault Dashboard := do
  return {
    status := ← orMalformed f.status
    total := ← orMalformed f.total
    entries := ← orMalformed f.entries }

def Fields.member (f : Fields) (m : List Char × Outline) : Except Fault Fields := do
  match ← readString (.string m.1) with
  | "status" => require f.status.isNone; return { f with status := ← readStatus m.2 }
  | "totalDuration" => require f.total.isNone; return { f with total := ← readDuration m.2 }
  | "entries" =>
    require f.entries.isNone
    return { f with entries := ← readMap readEntry m.2 }
  | _ => require m.2.isWhole; return f

/-- The fields with one more item of an array, by its place. -/
def Fields.item (f : Fields) (place : Nat) (o : Outline) : Except Fault Fields := do
  match place with
  | 0 => return { f with status := ← readStatus o }
  | 1 => return { f with total := ← readDuration o }
  | 2 => return { f with entries := ← readMap readEntry o }
  | _ => .error .malformed

/-- A report: an object, or an array of three fields. -/
def readOutline : Outline → Except Fault Dashboard
  | .object members closed => do
    let fields ← members.foldlM Fields.member {}
    require closed
    fields.dashboard
  | .array items closed => do
    let fields ← items.zipIdx.foldlM (fun f p => f.item p.2 p.1) ({} : Fields)
    require closed
    fields.dashboard
  | _ => .error .malformed

/-- The report that a text means. -/
def read (cs : List Char) : Except Fault Dashboard := do
  let (outline, ended) := Outline.ofText cs
  let d ← readOutline outline
  require ended
  return d

end HealthWatch.Dashboard
