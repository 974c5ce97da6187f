import MediaPaths.Name

/-!
# What can be wrong with an entry
-/

namespace MediaPaths

/-- A rule that the settings of an entry break. -/
inductive EntryFault where
  /-- An entry for many paths pulls from an address, but not on demand. -/
  | staticOnPattern
  /-- The source is neither an address nor one of the two other sources. -/
  | unknownSource (source : String)
  /-- The source is no URL as its client needs it. -/
  | invalidUrl (source : String)
  /-- The source holds a user name or a password, but not both. -/
  | halfCredentials
  /-- The source has no host or no port. -/
  | invalidUdp (source : String)
  /-- A publishing client cannot be pulled on demand. -/
  | publisherOnDemand
  /-- The passphrase of readers is too short or too long. -/
  | readPassphrase
  /-- The fallback leads to what is no path name. -/
  | fallbackName (fallback : String) (e : NameError)
  /-- An address that has to be one of RTSP is none. -/
  | invalidRtsp (address : String)
  /-- A passphrase for publishers is given where nobody publishes. -/
  | passphraseWithoutPublisher
  /-- The passphrase of publishers is too short or too long. -/
  | publishPassphrase
  /-- A redirection leads nowhere. -/
  | emptyRedirect
  /-- An entry for many paths has a command for one path being set up. -/
  | initOnPattern
  /-- Commands for publishing on demand are given where nobody publishes. -/
  | demandWithoutPublisher
  deriving DecidableEq, Repr

namespace EntryFault

/-- The length that a passphrase must have. -/
def passphraseRule : String := "must be between 10 and 79 characters"

/-- The message of a fault. -/
def message : EntryFault → String
  | staticOnPattern =>
    "a path with a regular expression (or path 'all') and a static source " ++
      "must have 'sourceOnDemand' set to true"
  | unknownSource source => s!"invalid source: '{source}'"
  | invalidUrl source => s!"'{source}' is not a valid URL"
  | halfCredentials => "username and password must be both provided"
  | invalidUdp source => s!"'{source}' is not a valid UDP URL"
  | publisherOnDemand => "'sourceOnDemand' is useless when source is 'publisher'"
  | readPassphrase => s!"invalid 'srtReadPassphrase': {passphraseRule}"
  | fallbackName fallback e => s!"'{fallback}': {e.message}"
  | invalidRtsp address => s!"'{address}' is not a valid RTSP URL"
  | passphraseWithoutPublisher =>
    "'srtPublishPassphrase' can only be used when source is 'publisher'"
  | publishPassphrase => s!"invalid 'srtPublishPassphrase': {passphraseRule}"
  | emptyRedirect => "source redirect must be filled"
  | initOnPattern =>
    "a path with a regular expression (or path 'all') does not support option " ++
      "'runOnInit'; use another path"
  | demandWithoutPublisher =>
    "'runOnDemand' and 'runOnUnDemand' can be used only when source is 'publisher'"

end EntryFault

/-- Why an entry cannot be declared under a name. -/
inductive EntryError where
  /-- The name is no path name. -/
  | invalidName (name : String) (e : NameError)
  /-- The pattern in the name is malformed or too large. -/
  | invalidPattern (pattern : String)
  /-- A rule for the settings is broken. -/
  | broken (name : String) (fault : EntryFault)
  deriving DecidableEq, Repr

namespace EntryError

/-- The message of an error. -/
def message : EntryError → String
  | invalidName name e => s!"invalid path name '{name}': {e.message}"
  | invalidPattern pattern => s!"invalid regular expression: {pattern}"
  | broken name fault => s!"path '{name}': {fault.message}"

end EntryError

end MediaPaths
