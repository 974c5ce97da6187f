import MediaPaths.Source.Error
import MediaPaths.Text.Replace
import MediaPaths.Url.Basic

/-!
# Filling in a source

A source may hold placeholders: `$G1`, `$G2` and so on for the texts that the groups of a pattern have
matched, and `$MTX_QUERY` for the query that came with the request. What results has to be a URL. The
credentials of the entry take the place of any that stand in it.
-/

namespace MediaPaths.Template

/-- The placeholder of a group. -/
def groupMark (i : Nat) : List Char := ['$', 'G'] ++ Nat.toDigits 10 i

/-- The placeholder of the query. -/
def queryMark : List Char := "$MTX_QUERY".toList

/-- Fills in the groups from the last to the first, so that `$G1` does not take a part of `$G10`. The
text of a group may hold the placeholder of an earlier one. Group 0 has no placeholder. -/
def fillGroups (groups : List String) (source : List Char) : List Char :=
  (groups.zipIdx.drop 1).reverse.foldl
    (fun s g => Text.replaceAll (groupMark g.2) g.1.toList s) source

/-- Fills in the groups and then the query. -/
def fill (source : String) (groups : List String) (query : String) : String :=
  String.ofList (Text.replaceAll queryMark query.toList (fillGroups groups source.toList))

/-- The address that a filled source stands for, with other credentials. -/
def address (filled username password : String) : Except SourceError String :=
  match Url.parse filled with
  | .error e => .error (.invalidAddress filled e.message)
  | .ok url =>
    match url.withCredentials? username password with
    | some url => .ok (String.ofList url.write)
    | none => .error (.invalidAddress filled "cannot carry credentials")

/-- The address that a source stands for. -/
def resolve (source : String) (groups : List String) (query username password : String) :
    Except SourceError String :=
  address (fill source groups query) username password

end MediaPaths.Template
