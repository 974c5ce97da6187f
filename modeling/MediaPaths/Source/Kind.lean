/-!
# Kinds of static sources

Media of a path comes from an address, from a publishing client or from elsewhere by redirection. An
address is told from the other two by its scheme, and the scheme decides which client pulls it.
-/

namespace MediaPaths

/-- The clients that pull media. -/
inductive SourceKind where
  /-- RTSP, plain or encrypted. -/
  | rtsp
  /-- RTMP, plain or encrypted. -/
  | rtmp
  /-- HLS playlists over HTTP. -/
  | hls
  /-- MPEG-TS over UDP. -/
  | udp
  /-- SRT. -/
  | srt
  /-- WebRTC by WHEP. -/
  | webRtc
  deriving DecidableEq, Repr, Inhabited

namespace SourceKind

/-- The schemes of addresses, each with its client. -/
def schemes : List (String × SourceKind) :=
  [("rtsp", rtsp), ("rtsps", rtsp), ("rtmp", rtmp), ("rtmps", rtmp), ("http", hls),
    ("https", hls), ("udp", udp), ("srt", srt), ("whep", webRtc), ("wheps", webRtc)]

/-- What an address with a scheme begins with. -/
def lead (scheme : String) : List Char := scheme.toList ++ [':', '/', '/']

/-- The client for a source; there is none for a publishing client, a redirection or an unknown
scheme. -/
def ofSource? (source : String) : Option SourceKind :=
  (schemes.find? fun s => (lead s.1).isPrefixOf source.toList).map (·.2)

/-- The name under which a client describes itself. -/
def text : SourceKind → String
  | rtsp => "rtspSource"
  | rtmp => "rtmpSource"
  | hls => "hlsSource"
  | udp => "udpSource"
  | srt => "srtSource"
  | webRtc => "webRTCSource"

/-- All clients. -/
def all : List SourceKind := [rtsp, rtmp, hls, udp, srt, webRtc]

/-- The client of this name. -/
def ofText? (name : String) : Option SourceKind := all.find? (·.text == name)

end SourceKind

end MediaPaths
