import HealthWatch.Manifest
import HealthWatch.Text.Utf8
import HealthWatch.Toml.Reader
/-!
# Reading the manifest

The manifest is a TOML document with a list of checks and a list of webhooks, either of which may be
missing. Keys that mean nothing are passed over. A check names the kind of its probe, and the kind
decides which of its keys matter.
-/

namespace HealthWatch

namespace Toml

abbrev Table := List (String × Toml)

/-- The key under which a date stands where a table is asked for. -/
def dateKey : String := "$__toml_private_datetime"

/-- The members of a table; a date counts as a table of its text. -/
def table? : Toml → Option Table
  | table members => some members
  | dateTime text => some [(dateKey, string text)]
  | _ => none

def string? : Toml → Option String
  | string s => some s
  | _ => none

/-- A number between zero and a bound. -/
def nat? (greatest : Nat) : Toml → Option Nat
  | integer i => if 0 ≤ i ∧ i ≤ greatest then some i.toNat else none
  | _ => none

/-- The items of an array, each read. -/
def list? {α : Type} (read : Toml → Option α) : Toml → Option (List α)
  | array items => items.mapM read
  | _ => none

/-- Two numbers of 16 bits. -/
def range? (v : Toml) : Option (Nat × Nat) := do
  match ← list? (nat? Numeral.greatest16) v with
  | [low, high] => some (low, high)
  | _ => none

def texts? (v : Toml) : Option (NameMap String) := do
  let pairs ← (← table? v).mapM fun p => (string? p.2).map (p.1, ·)
  return .ofList pairs

namespace Table

/-- The value of a key that has to be there. -/
def need {α : Type} (t : Table) (key : String) (read : Toml → Option α) : Option α :=
  (t.lookup key).bind read

/-- The value of a key that may be missing. -/
def optional {α : Type} (t : Table) (key : String) (read : Toml → Option α) : Option (Option α) :=
  match t.lookup key with
  | none => some none
  | some v => (read v).map some

/-- The value of a key, or a default when it is missing. -/
def default {α : Type} (t : Table) (key : String) (read : Toml → Option α) (value : α) : Option α :=
  (optional t key read).map (·.getD value)

end Table

end Toml

open Toml.Table

def ProbeItem.ofTable? (t : Toml.Table) : Option ProbeItem := do
  match ← need t "kind" Toml.string? with
  | "http" =>
    return .http (← need t "url" Toml.string?) (← optional t "method" Toml.string?)
      (← optional t "expected_status" Toml.range?) (← optional t "expected_content" Toml.string?)
      (← default t "headers" Toml.texts? .empty)
  | "tcp" =>
    return .tcp (← need t "host" Toml.string?) (← need t "port" (Toml.nat? Numeral.greatest16))
  | "dns" =>
    return .dns (← need t "host" Toml.string?)
      (← optional t "min_addresses" (Toml.nat? Numeral.greatest64))
  | _ => none

def CheckItem.ofToml? (v : Toml) : Option CheckItem := do
  let t ← v.table?
  return {
    name := ← need t "name" Toml.string?
    timeout := ← optional t "timeout" Toml.string?
    failureStatus := ← optional t "failure_status" Toml.string?
    tags := ← default t "tags" (Toml.list? Toml.string?) []
    probe := ← ProbeItem.ofTable? t }

/-- A webhook: a table, or an array of its fields in order. -/
def Webhook.ofToml? : Toml → Option Webhook
  | .array (name :: url :: payload :: rest) => do
    return {
      name := ← name.string?
      url := ← url.string?
      payload := ← payload.string?
      restorePayload := ← match rest with
        | restore :: _ => restore.string?
        | [] => some "" }
  | v => do
    let t ← v.table?
    return {
      name := ← need t "name" Toml.string?
      url := ← need t "url" Toml.string?
      payload := ← need t "payload" Toml.string?
      restorePayload := ← default t "restore_payload" Toml.string? "" }

namespace Manifest

def ofTable? (t : Toml.Table) : Option Manifest := do
  return {
    checks := ← default t "check" (Toml.list? CheckItem.ofToml?) []
    webhooks := ← default t "webhook" (Toml.list? Webhook.ofToml?) [] }

def read (cs : List Char) : Except ConfigFault Manifest :=
  match (Toml.read? cs).bind ofTable? with
  | some m => .ok m
  | none => .error .unparsable

/-- What stands at the path of the manifest. -/
inductive Source where
  | missing
  | directory
  | bytes (contents : List UInt8)

/-- The manifest at a path; it has to be there. -/
def load (path : String) : Source → Except ConfigFault Manifest
  | .missing => .error (.unreadable path "No such file or directory (os error 2)")
  | .directory => .error (.unreadable path "Is a directory (os error 21)")
  | .bytes contents =>
    match Text.decodeUtf8? contents with
    | some cs => read cs
    | none => .error (.unreadable path "stream did not contain valid UTF-8")

/-- The manifest at a path, without checks and webhooks when there is none. -/
def loadOrEmpty (path : String) : Source → Except ConfigFault Manifest
  | .missing => .ok {}
  | source => load path source

end Manifest

end HealthWatch
