import MediaPaths.Configuration.Basic
import MediaPaths.Entry.Codec
import MediaPaths.Json.Skip

/-!
# Configuration documents

A configuration is written as a JSON object. Its members are read in the order in which they stand:
the first that has not the right shape, or comes twice, is the error. After that the entries are put
on top of the defaults and declared in the order of the document. Like settings, a document may also
be an array of its values.
-/

namespace MediaPaths

open Json

/-- A document as it is written. -/
structure Document where
  /-- The member `logLevel`. -/
  logLevel : Option LogLevel := none
  /-- The member `readTimeout`. -/
  readTimeout : Option Duration := none
  /-- The member `writeTimeout`. -/
  writeTimeout : Option Duration := none
  /-- The member `writeQueueSize`. -/
  writeQueueSize : Option UInt64 := none
  /-- The member `pathDefaults`. -/
  pathDefaults : Option Value := none
  /-- The member `paths`, in the order of the document. -/
  paths : List (String × Value) := []

namespace Document

/-! ## Members -/

/-- Reads a duration. -/
def readDuration (cs : List Char) : Json.Result Duration :=
  match readText "a string" cs with
  | .ok (s, rest) => (Codec.readDuration s).map fun d => (d, rest)
  | .error e => .error e

/-- What the member `paths` has to be. -/
def pathsShape : String := "a map of path names to path configurations"

/-- Reads one entry after its name. No two have the same name. -/
def readEntry (levels : Nat) (name : String) (entries : List (String × Value)) (cs : List Char) :
    Json.Result (List (String × Value)) :=
  match readColon cs with
  | .error e => .error e
  | .ok rest =>
    match readValue levels rest with
    | .error e => .error e
    | .ok (v, rest) =>
      if entries.any (·.1 == name) then
        .error (.broken s!"path '{name}' is declared more than once")
      else .ok (entries ++ [(name, v)], rest)

/-- Reads the entries. -/
def readPaths (levels : Nat) (cs : List Char) : Json.Result (List (String × Value)) :=
  match skipBlank cs, levels with
  | [], _ => .error .endInValue
  | '\x7b' :: _, 0 => .error .tooDeep
  | '\x7b' :: rest, levels + 1 => readMembers (readEntry levels) [] rest
  | 'n' :: rest, _ => (readWord ['u', 'l', 'l'] rest).map fun rest => ([], rest)
  | '[' :: _, 0 => .error .tooDeep
  | rest, _ => .error (mismatch pathsShape rest)

/-- One member of a document: whether it has been read before, and how it is read. -/
structure Member where
  /-- Its name. -/
  name : String
  /-- Reads it into a document. -/
  read : (levels : Nat) → Document → List Char → Json.Result Document

/-- The member that `set` puts what is read into. -/
def Member.of {α : Type} (name : String) (reader : Nat → List Char → Json.Result α)
    (set : Document → α → Document) : Member where
  name := name
  read levels d cs := (reader levels cs).map fun (a, rest) => (set d a, rest)

/-- All members, in the order in which an array has them. -/
def members : List Member := [
  .of "logLevel" (fun levels => readOptional (readVariant LogLevel.variants levels))
    fun d a => { d with logLevel := a },
  .of "readTimeout" (fun _ => readOptional readDuration) fun d a => { d with readTimeout := a },
  .of "writeTimeout" (fun _ => readOptional readDuration) fun d a => { d with writeTimeout := a },
  .of "writeQueueSize" (fun _ => readOptional readSize) fun d a => { d with writeQueueSize := a },
  .of "pathDefaults" (fun levels => readOptional (readValue levels))
    fun d a => { d with pathDefaults := a },
  .of "paths" readPaths fun d a => { d with paths := a }]

/-! ## Documents as objects -/

/-- Reads one member after its name; `seen` holds the names of members read before. A member that is
not known is passed over. -/
def readMember (levels : Nat) (name : String) (state : Document × List String) (cs : List Char) :
    Json.Result (Document × List String) :=
  let (d, seen) := state
  match members.find? (·.name == name) with
  | none => (readColon cs >>= skipValue).map fun rest => ((d, seen), rest)
  | some m =>
    if seen.contains name then .error (.duplicateField name)
    else
      match readColon cs with
      | .error e => .error e
      | .ok rest => (m.read levels d rest).map fun (d, rest) => ((d, name :: seen), rest)

/-! ## Documents as arrays -/

/-- What an array has to be. -/
def arrayShape : String := "struct RawConf with 6 elements"

/-- Reads the elements of an array into the members in turn, from the text before the first element
or after the element before. The entries alone may be missing. -/
def readElementsInto (levels : Nat) : (count : Nat) → List Member → Document → List Char →
    Json.Result Document
  | _, [], d, cs => .ok (d, cs)
  | count, m :: ms, d, cs =>
    let element (rest : List Char) : Json.Result Document :=
      match m.read levels d rest with
      | .ok (d, rest) => readElementsInto levels (count + 1) ms d rest
      | .error e => .error e
    match skipBlank cs with
    | [] => .error .endInArray
    | ']' :: rest =>
      if m.name == "paths" then .ok (d, ']' :: rest) else .error (.invalidLength count arrayShape)
    | c :: rest =>
      if count == 0 then element (c :: rest)
      else if c == ',' then
        match skipBlank rest with
        | [] => .error .endInValue
        | ']' :: _ => .error .trailingComma
        | rest => element rest
      else .error .expectedCommaOrBracket

/-- Reads the end of an array. -/
def readArrayEnd (cs : List Char) : Except Json.Error (List Char) :=
  match skipBlank cs with
  | [] => .error .endInArray
  | ']' :: rest => .ok rest
  | ',' :: rest =>
    match skipBlank rest with
    | ']' :: _ => .error .trailingComma
    | _ => .error .trailingCharacters
  | _ => .error .trailingCharacters

/-- Reads a document. -/
def read (cs : List Char) : Json.Result Document :=
  let levels := maxLevels - 1
  match skipBlank cs with
  | [] => .error .endInValue
  | '\x7b' :: rest => (readMembers (readMember levels) ({}, []) rest).map fun (s, rest) => (s.1, rest)
  | '[' :: rest =>
    match readElementsInto levels 0 members {} rest with
    | .ok (d, rest) => (readArrayEnd rest).map fun rest => (d, rest)
    | .error e => .error e
  | rest => .error (mismatch "struct RawConf" rest)

/-! ## What a document means -/

/-- The members of the defaults. -/
def defaultMembers (d : Document) : Except ConfigError Members :=
  match d.pathDefaults with
  | some (.object ms) => .ok ms
  | none => .ok []
  | some _ => .error .defaultsNotObject

/-- Reads settings. -/
def settings (ms : Members) : Except ConfigError Settings :=
  match Settings.ofMembers ms with
  | .ok s => .ok s
  | .error e => .error (.misshapen e)

/-- Declares one entry on top of the defaults. -/
def declare (defaults : Members) (c : Configuration) (entry : String × Value) :
    Except ConfigError Configuration :=
  match entry.2 with
  | .object ms => do c.insert entry.1 (← settings (defaults.overlay ms))
  | .null => do c.insert entry.1 (← settings defaults)
  | _ => .error (.entryNotObject entry.1)

/-- The configuration that a document describes. -/
def toConfiguration (d : Document) : Except ConfigError Configuration := do
  let defaults ← d.defaultMembers
  let standard : Configuration := {}
  let base : Configuration := {
    logLevel := d.logLevel.getD standard.logLevel
    options := {
      readTimeout := d.readTimeout.getD standard.options.readTimeout
      writeTimeout := d.writeTimeout.getD standard.options.writeTimeout
      writeQueueSize := d.writeQueueSize.getD standard.options.writeQueueSize }
    defaults := ← settings defaults }
  let c ← d.paths.foldlM (declare defaults) base
  c.check

end Document

namespace Configuration

/-- The configuration that a text describes. -/
def ofString (text : String) : Except ConfigError Configuration :=
  match readAll Document.read text with
  | .ok d => d.toConfiguration
  | .error e => .error (.malformed e)

/-- The configuration in a file: its bytes, if there is such a file, have to be text. -/
def ofFile (bytes : Option (List Nat)) : Except ConfigError Configuration :=
  match bytes with
  | none => .error .missing
  | some bytes =>
    match Utf8.decode? bytes with
    | some text => ofString (String.ofList text)
    | none => .error .notText

end Configuration

end MediaPaths
