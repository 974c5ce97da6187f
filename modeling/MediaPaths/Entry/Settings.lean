import MediaPaths.Duration.Text
import MediaPaths.Source.Kind

/-!
# Settings of a path

What can be configured for a path: where its media comes from, who may read it, and the commands that
are run when something happens to it.
-/

namespace MediaPaths

/-- The transport of RTSP. -/
inductive Transport where
  /-- UDP, or TCP if that fails. -/
  | automatic
  /-- UDP to one receiver. -/
  | udp
  /-- UDP to many receivers. -/
  | multicast
  /-- Interleaved in the control connection. -/
  | tcp
  deriving DecidableEq, Repr, Inhabited

namespace Transport

/-- How a transport is written. -/
def text : Transport → String
  | automatic => "automatic"
  | udp => "udp"
  | multicast => "multicast"
  | tcp => "tcp"

/-- The transports under their names. -/
def variants : List (String × Transport) :=
  [automatic, udp, multicast, tcp].map fun t => (t.text, t)

end Transport

/-- How the range of an RTSP request is given. -/
inductive RangeType where
  /-- No range is given. -/
  | undefined
  /-- As an absolute time. -/
  | clock
  /-- As a time in the stream. -/
  | npt
  /-- As a time code. -/
  | smpte
  deriving DecidableEq, Repr, Inhabited

namespace RangeType

/-- How a type of range is written; nothing for no range. -/
def text : RangeType → String
  | undefined => ""
  | clock => "clock"
  | npt => "npt"
  | smpte => "smpte"

/-- The types of range under their names. -/
def variants : List (String × RangeType) :=
  [undefined, clock, npt, smpte].map fun t => (t.text, t)

end RangeType

/-- The settings of a path, each with its default. -/
structure Settings where
  /-- Where the media comes from: `publisher`, `redirect` or an address. -/
  source : String := "publisher"
  /-- The fingerprint of the certificate that the source must show. -/
  sourceFingerprint : String := ""
  /-- Whether the source is pulled only while someone reads. -/
  sourceOnDemand : Bool := false
  /-- How long a source on demand may take to become ready. -/
  sourceOnDemandStartTimeout : Duration := .tenSeconds
  /-- How long a source on demand stays open without readers. -/
  sourceOnDemandCloseAfter : Duration := .tenSeconds
  /-- The most readers at a time; 0 for any number. -/
  maxReaders : UInt64 := 0
  /-- The passphrase of SRT readers. -/
  srtReadPassphrase : String := ""
  /-- Where readers are sent while the path is not ready. -/
  fallback : String := ""
  /-- The user name for the source. -/
  username : String := ""
  /-- The password for the source. -/
  password : String := ""
  /-- Whether a new publisher takes the place of the current one. -/
  overridePublisher : Bool := true
  /-- The opposite of `overridePublisher`; wins over it if given. -/
  disablePublisherOverride : Option Bool := none
  /-- The passphrase of SRT publishers. -/
  srtPublishPassphrase : String := ""
  /-- The transport of an RTSP source. -/
  rtspTransport : Transport := .automatic
  /-- Whether packets of an RTSP source may come from any port. -/
  rtspAnyPort : Bool := false
  /-- Another name of `rtspTransport`; wins over it if given. -/
  sourceProtocol : Option Transport := none
  /-- Another name of `rtspAnyPort`; wins over it if given. -/
  sourceAnyPortEnable : Option Bool := none
  /-- How the range of RTSP requests is given. -/
  rtspRangeType : RangeType := .undefined
  /-- Where the range of RTSP requests begins. -/
  rtspRangeStart : String := ""
  /-- Where a redirection leads. -/
  sourceRedirect : String := ""
  /-- The command run when the path is set up. -/
  runOnInit : String := ""
  /-- Whether it is run again when it ends. -/
  runOnInitRestart : Bool := false
  /-- The command run to have the path published on demand. -/
  runOnDemand : String := ""
  /-- Whether it is run again when it ends. -/
  runOnDemandRestart : Bool := false
  /-- How long publishing on demand may take to begin. -/
  runOnDemandStartTimeout : Duration := .tenSeconds
  /-- How long publishing on demand goes on without readers. -/
  runOnDemandCloseAfter : Duration := .tenSeconds
  /-- The command run when publishing on demand ends. -/
  runOnUnDemand : String := ""
  /-- The command run when the path becomes ready. -/
  runOnReady : String := ""
  /-- Whether it is run again when it ends. -/
  runOnReadyRestart : Bool := false
  /-- The command run when the path is no longer ready. -/
  runOnNotReady : String := ""
  /-- The command run when someone begins to read. -/
  runOnRead : String := ""
  /-- Whether it is run again when it ends. -/
  runOnReadRestart : Bool := false
  /-- The command run when someone ends reading. -/
  runOnUnread : String := ""
  deriving DecidableEq, Inhabited

namespace Settings

/-- The source of paths that a client publishes to. -/
def publisher : String := "publisher"

/-- The source of paths that lead elsewhere. -/
def redirect : String := "redirect"

/-- The client that pulls the source, if it is an address. -/
def sourceKind? (s : Settings) : Option SourceKind := SourceKind.ofSource? s.source

/-- Whether media is pulled from an address. -/
def hasStaticSource (s : Settings) : Bool := s.sourceKind?.isSome

/-- Whether media is pulled from an address only while someone reads. -/
def hasOnDemandStaticSource (s : Settings) : Bool := s.hasStaticSource && s.sourceOnDemand

/-- Whether a command has the path published on demand. -/
def hasOnDemandPublisher (s : Settings) : Bool := !s.runOnDemand.isEmpty

/-- Whether a source running under the settings `s` has to be started anew for the settings `t`: they
differ in how the source is reached. All else can change while it runs. -/
def needsRestart (s t : Settings) : Bool :=
  s.source != t.source || s.sourceFingerprint != t.sourceFingerprint ||
    s.sourceOnDemand != t.sourceOnDemand || s.username != t.username ||
    s.password != t.password || s.rtspTransport != t.rtspTransport ||
    s.rtspAnyPort != t.rtspAnyPort || s.rtspRangeType != t.rtspRangeType ||
    s.rtspRangeStart != t.rtspRangeStart || s.sourceRedirect != t.sourceRedirect

end Settings

end MediaPaths
