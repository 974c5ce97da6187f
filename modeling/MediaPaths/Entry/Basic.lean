import MediaPaths.Entry.Error
import MediaPaths.Entry.Settings
import MediaPaths.Regex.Basic
import MediaPaths.Url.Basic

/-!
# Entries

An entry is what a configuration says about one path or, if its name is a pattern or a catch-all,
about many. `Entry.validate` gives it a name, checks the rules that settings have to keep and lets
settings under their other names take effect. It can be used again on the same entry; what it has set
before it failed stays set.
-/

namespace MediaPaths

open Regex

/-- An entry of a configuration. -/
structure Entry where
  /-- The name under which it was declared; empty before validation. -/
  name : String := ""
  /-- The pattern in its name, if it is about many paths. -/
  pattern : Option Pattern := none
  /-- Its settings. -/
  settings : Settings := {}
  deriving DecidableEq

instance : Inhabited Entry := ⟨{}⟩

namespace Entry

/-- Whether an entry is about many paths. -/
def isPattern (e : Entry) : Bool := e.pattern.isSome

/-! ## The rules -/

/-- The fault that an optional check finds, if a condition holds. -/
def faultIf (broken : Bool) (fault : EntryFault) : Option EntryFault :=
  if broken then some fault else none

/-- Whether an address is one of RTSP with a host. -/
def isRtspAddress (address : String) : Bool :=
  match Url.parse address with
  | .ok url => (url.scheme == "rtsp".toList || url.scheme == "rtsps".toList) && url.hasHost
  | .error _ => false

/-- Whether a text is a URL. -/
def isUrl (address : String) : Bool := (Url.parse address).toBool

/-- Whether the text after `udp://` has a host and a port around its last colon. -/
def isUdpAddress (address : String) : Bool :=
  let back := (address.toList.drop "udp://".length).reverse
  match back.dropWhile (· != ':') with
  | ':' :: host => !host.isEmpty && !(back.takeWhile (· != ':')).isEmpty
  | _ => false

/-- What is wrong with an address of RTMP or HLS. -/
def webFault? (address : String) : Option EntryFault :=
  match Url.parse address with
  | .error _ => some (.invalidUrl address)
  | .ok url => faultIf (url.username.isEmpty != url.password.isEmpty) .halfCredentials

/-- What is wrong with a source. -/
def sourceFault? (source : String) : Option EntryFault :=
  if source == Settings.publisher || source == Settings.redirect then none
  else
    match SourceKind.ofSource? source with
    | none => some (.unknownSource source)
    | some .rtsp => faultIf (!isRtspAddress source) (.invalidUrl source)
    | some .rtmp | some .hls => webFault? source
    | some .udp => faultIf (!isUdpAddress source) (.invalidUdp source)
    | some .srt | some .webRtc => faultIf (!isUrl source) (.invalidUrl source)

/-- Whether a passphrase has from 10 to 79 bytes. -/
def isPassphrase (s : String) : Bool :=
  let n := Utf8.size s
  10 ≤ n && n ≤ 79

/-- What is wrong with a fallback: a slash before a path name, or else an address of RTSP. -/
def fallbackFault? (fallback : String) : Option EntryFault :=
  match fallback.toList with
  | [] => none
  | '/' :: name => (Name.fault? (String.ofList name)).map (.fallbackName fallback)
  | _ => faultIf (!isRtspAddress fallback) (.invalidRtsp fallback)

/-- The first of several faults. -/
def firstFault (faults : List (Option EntryFault)) : Option EntryFault := faults.findSome? id

/-- What is wrong with the settings that every source has. -/
def generalFault? (s : Settings) (many : Bool) : Option EntryFault :=
  firstFault [
    faultIf (s.source != Settings.publisher && s.source != Settings.redirect && many &&
      !s.sourceOnDemand) .staticOnPattern,
    sourceFault? s.source,
    faultIf (s.sourceOnDemand && s.source == Settings.publisher) .publisherOnDemand,
    faultIf (!s.srtReadPassphrase.isEmpty && !isPassphrase s.srtReadPassphrase) .readPassphrase,
    fallbackFault? s.fallback]

/-- What is wrong with the settings of a publishing client. -/
def publisherFault? (s : Settings) : Option EntryFault :=
  if s.srtPublishPassphrase.isEmpty then none
  else firstFault [
    faultIf (s.source != Settings.publisher) .passphraseWithoutPublisher,
    faultIf (!isPassphrase s.srtPublishPassphrase) .publishPassphrase]

/-- What is wrong with a redirection. -/
def redirectFault? (s : Settings) : Option EntryFault :=
  if s.source != Settings.redirect then none
  else firstFault [
    faultIf s.sourceRedirect.isEmpty .emptyRedirect,
    faultIf (!isRtspAddress s.sourceRedirect) (.invalidRtsp s.sourceRedirect)]

/-- What is wrong with the commands. -/
def commandFault? (s : Settings) (many : Bool) : Option EntryFault :=
  firstFault [
    faultIf (!s.runOnInit.isEmpty && many) .initOnPattern,
    faultIf ((!s.runOnDemand.isEmpty || !s.runOnUnDemand.isEmpty) &&
      s.source != Settings.publisher) .demandWithoutPublisher]

/-! ## Validation -/

/-- The pattern of the catch-all entries. -/
def anything : String := "^.*$"

/-- The pattern that a text denotes. -/
def compile (text : String) : Except EntryError (Option Pattern) :=
  match Pattern.compile? text with
  | some p => .ok (some p)
  | none => .error (.invalidPattern text)

/-- The pattern that a name stands for: that of a catch-all, or the one after a tilde. Any other name
has to be a path name and stands for itself. -/
def patternOf (name : String) : Except EntryError (Option Pattern) :=
  if Name.isCatchAll name then compile anything
  else
    match name.toList with
    | '~' :: pattern => compile (String.ofList pattern)
    | _ =>
      match Name.fault? name with
      | some e => .error (.invalidName name e)
      | none => .ok none

/-- Lets the other name of `overridePublisher` take effect. -/
def applyPublisherAlias (s : Settings) : Settings :=
  match s.disablePublisherOverride with
  | some disable => { s with overridePublisher := !disable }
  | none => s

/-- Lets the other names of the settings for RTSP take effect. -/
def applyRtspAliases (s : Settings) : Settings :=
  { s with
    rtspTransport := s.sourceProtocol.getD s.rtspTransport
    rtspAnyPort := s.sourceAnyPortEnable.getD s.rtspAnyPort }

/-- Validates an entry under a name: the entry as it is afterwards, and what is wrong if something
is. -/
def revalidate (e : Entry) (name : String) : Entry × Option EntryError :=
  let fail (e : Entry) (f : EntryFault) : Entry × Option EntryError := (e, some (.broken name f))
  let e := { e with name := name }
  match patternOf name with
  | .error err => (e, some err)
  | .ok pattern =>
    let e := { e with pattern := pattern }
    match generalFault? e.settings pattern.isSome with
    | some f => fail e f
    | none =>
      let e := { e with settings := applyPublisherAlias e.settings }
      match publisherFault? e.settings with
      | some f => fail e f
      | none =>
        let e := { e with settings := applyRtspAliases e.settings }
        match firstFault [redirectFault? e.settings, commandFault? e.settings pattern.isSome] with
        | some f => fail e f
        | none => (e, none)

/-- The valid entry of this name with these settings. -/
def validate (s : Settings) (name : String) : Except EntryError Entry :=
  match revalidate { settings := s } name with
  | (_, some err) => .error err
  | (e, none) => .ok e

end Entry

end MediaPaths
