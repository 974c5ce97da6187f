/-!
# Media

What a source announces when it is ready: media sections, each with the codecs of its tracks.
-/

namespace MediaPaths

/-- What a media section carries. -/
inductive MediaType where
  /-- Pictures. -/
  | video
  /-- Sound. -/
  | audio
  /-- Data. -/
  | application
  deriving DecidableEq, Repr

namespace MediaType

/-- How a type is written. -/
def text : MediaType → String
  | video => "video"
  | audio => "audio"
  | application => "application"

/-- The type of this name. -/
def ofText? (name : String) : Option MediaType :=
  [video, audio, application].find? (·.text == name)

end MediaType

/-- One media section. -/
structure Media where
  /-- What it carries. -/
  type : MediaType
  /-- The codecs of its tracks. -/
  codecs : List String
  deriving DecidableEq, Repr

namespace Media

/-- The codecs of all tracks. -/
def codecsOf (medias : List Media) : List String := medias.flatMap (·.codecs)

/-- The number of tracks. -/
def trackCount (medias : List Media) : Nat := (codecsOf medias).length

/-- A summary for log lines, such as `2 tracks (H264, Opus)`. -/
def summary (medias : List Media) : String :=
  let codecs := codecsOf medias
  let noun := if codecs.length = 1 then "track" else "tracks"
  let list := ", ".intercalate codecs
  s!"{codecs.length} {noun} ({list})"

end Media

end MediaPaths
