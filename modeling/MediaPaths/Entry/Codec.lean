import MediaPaths.Entry.Settings
import MediaPaths.Json.Decode
import MediaPaths.Json.Printer

/-!
# Settings in JSON

Settings are the members of an object; a setting that is missing has its default, and members of
other names do not count. They may also be given as an array in the order in which they are listed
here, which may end early.
-/

namespace MediaPaths

open Json

/-- How values of a type stand in JSON. -/
structure Codec (α : Type) where
  /-- Reads a value. -/
  decode : Value → Except Json.Error α
  /-- Writes a value, unless it is left out. -/
  encode : α → Option Value

namespace Codec

/-- Texts. -/
def text : Codec String := ⟨Value.toText, fun s => some (.string s)⟩

/-- Truth values. -/
def flag : Codec Bool := ⟨Value.toBool, fun b => some (.bool b)⟩

/-- Whole numbers of 64 bits. -/
def size : Codec UInt64 := ⟨Value.toSize, fun n => some (.number (.natural n))⟩

/-- One of some names. -/
def variant {α : Type} (variants : List (String × α)) (name : α → String) : Codec α :=
  ⟨Value.toVariant variants, fun a => some (.string (name a))⟩

/-- Values that may be missing; a missing one is left out. -/
def optional {α : Type} (c : Codec α) : Codec (Option α) :=
  ⟨Value.toOptional c.decode, fun a => a.bind c.encode⟩

/-- The duration that a text denotes. -/
def readDuration (s : String) : Except Json.Error Duration :=
  match Duration.ofString? s with
  | some d => .ok d
  | none => .error (.broken s!"invalid duration '{s}'")

/-- Durations as texts. -/
def duration : Codec Duration :=
  ⟨fun v => do readDuration (← v.toText), fun d => some (.string d.toString)⟩

/-- Transports. -/
def transport : Codec Transport := variant Transport.variants Transport.text

/-- Types of range. -/
def rangeType : Codec RangeType := variant RangeType.variants RangeType.text

end Codec

/-- One setting in JSON: how its values stand there, and how it is taken from some settings and put
into them. -/
structure Field where of ::
  /-- The type of its values. -/
  {α : Type}
  /-- Its name. -/
  name : String
  /-- How its values stand in JSON. -/
  codec : Codec α
  /-- Its value in some settings. -/
  get : Settings → α
  /-- Some settings with another value of it. -/
  set : Settings → α → Settings
  /-- The value that was put in is there. -/
  get_set : ∀ s a, get (set s a) = a := by exact fun _ _ => rfl

namespace Field

/-- Reads it into some settings. -/
def read (f : Field) (v : Value) (s : Settings) : Except Json.Error Settings :=
  (f.codec.decode v).map (f.set s)

/-- Writes it, unless it is left out. -/
def write (f : Field) (s : Settings) : Option Value := f.codec.encode (f.get s)

end Field

namespace Settings

/-- All settings. -/
def fields : List Field := [
  .of "source" .text source fun s a => { s with source := a },
  .of "sourceFingerprint" .text sourceFingerprint fun s a => { s with sourceFingerprint := a },
  .of "sourceOnDemand" .flag sourceOnDemand fun s a => { s with sourceOnDemand := a },
  .of "sourceOnDemandStartTimeout" .duration sourceOnDemandStartTimeout
    fun s a => { s with sourceOnDemandStartTimeout := a },
  .of "sourceOnDemandCloseAfter" .duration sourceOnDemandCloseAfter
    fun s a => { s with sourceOnDemandCloseAfter := a },
  .of "maxReaders" .size maxReaders fun s a => { s with maxReaders := a },
  .of "srtReadPassphrase" .text srtReadPassphrase fun s a => { s with srtReadPassphrase := a },
  .of "fallback" .text fallback fun s a => { s with fallback := a },
  .of "username" .text username fun s a => { s with username := a },
  .of "password" .text password fun s a => { s with password := a },
  .of "overridePublisher" .flag overridePublisher fun s a => { s with overridePublisher := a },
  .of "disablePublisherOverride" (.optional .flag) disablePublisherOverride
    fun s a => { s with disablePublisherOverride := a },
  .of "srtPublishPassphrase" .text srtPublishPassphrase
    fun s a => { s with srtPublishPassphrase := a },
  .of "rtspTransport" .transport rtspTransport fun s a => { s with rtspTransport := a },
  .of "rtspAnyPort" .flag rtspAnyPort fun s a => { s with rtspAnyPort := a },
  .of "sourceProtocol" (.optional .transport) sourceProtocol
    fun s a => { s with sourceProtocol := a },
  .of "sourceAnyPortEnable" (.optional .flag) sourceAnyPortEnable
    fun s a => { s with sourceAnyPortEnable := a },
  .of "rtspRangeType" .rangeType rtspRangeType fun s a => { s with rtspRangeType := a },
  .of "rtspRangeStart" .text rtspRangeStart fun s a => { s with rtspRangeStart := a },
  .of "sourceRedirect" .text sourceRedirect fun s a => { s with sourceRedirect := a },
  .of "runOnInit" .text runOnInit fun s a => { s with runOnInit := a },
  .of "runOnInitRestart" .flag runOnInitRestart fun s a => { s with runOnInitRestart := a },
  .of "runOnDemand" .text runOnDemand fun s a => { s with runOnDemand := a },
  .of "runOnDemandRestart" .flag runOnDemandRestart fun s a => { s with runOnDemandRestart := a },
  .of "runOnDemandStartTimeout" .duration runOnDemandStartTimeout
    fun s a => { s with runOnDemandStartTimeout := a },
  .of "runOnDemandCloseAfter" .duration runOnDemandCloseAfter
    fun s a => { s with runOnDemandCloseAfter := a },
  .of "runOnUnDemand" .text runOnUnDemand fun s a => { s with runOnUnDemand := a },
  .of "runOnReady" .text runOnReady fun s a => { s with runOnReady := a },
  .of "runOnReadyRestart" .flag runOnReadyRestart fun s a => { s with runOnReadyRestart := a },
  .of "runOnNotReady" .text runOnNotReady fun s a => { s with runOnNotReady := a },
  .of "runOnRead" .text runOnRead fun s a => { s with runOnRead := a },
  .of "runOnReadRestart" .flag runOnReadRestart fun s a => { s with runOnReadRestart := a },
  .of "runOnUnread" .text runOnUnread fun s a => { s with runOnUnread := a }]

/-- Reads one member into some settings. -/
def readMember (s : Settings) (m : String × Value) : Except Json.Error Settings :=
  match fields.find? (·.name == m.1) with
  | some f => f.read m.2 s
  | none => .ok s

/-- Reads settings from the members of an object, in the order of their names. -/
def ofMembers (ms : Members) : Except Json.Error Settings := ms.foldlM readMember {}

/-- Reads settings from the elements of an array. -/
def ofElements (vs : List Value) : Except Json.Error Settings := do
  let s ← (fields.zip vs).foldlM (fun s p => p.1.read p.2 s) {}
  if fields.length < vs.length then
    throw (.invalidLength vs.length "fewer elements in array")
  return s

/-- Reads settings. -/
def ofJson : Value → Except Json.Error Settings
  | .object ms => ofMembers ms
  | .array vs => ofElements vs
  | v => .error (v.mismatch "struct PathConf")

/-- The settings that are written, under their names. -/
def toMembers (s : Settings) : Members :=
  .ofList (fields.filterMap fun f => (f.write s).map fun v => (f.name, v))

/-- Settings in JSON. -/
def toJson (s : Settings) : Value := .object s.toMembers

/-- The settings that are written otherwise than the defaults are. -/
def changes (s : Settings) : Members :=
  .ofList (fields.filterMap fun f =>
    match f.write s, f.write {} with
    | some v, some w => if v.compact == w.compact then none else some (f.name, v)
    | some v, none => some (f.name, v)
    | none, _ => none)

end Settings

end MediaPaths
