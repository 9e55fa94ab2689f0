import SecurityDashboards.Lib.UriDecoding

/-!
# Routes

Patterns of paths, and a router in the fragment of a URL, which is known by what it does with them.
-/

namespace Routing

/-- The path with these segments. -/
def pathText (segments : List String) : String := "/" ++ "/".intercalate segments

/-- A part of a pattern: a text, a parameter, or a parameter that may be absent. -/
inductive PatternPart where
  | text (word : String)
  | param (word : String)
  | optionalParam (word : String)
deriving DecidableEq

namespace PatternPart

def word : PatternPart → String
  | text word => word
  | param word => word
  | optionalParam word => word

def source : PatternPart → String
  | text word => word
  | param word => ":" ++ word
  | optionalParam word => ":" ++ word ++ "?"

end PatternPart

def patternText (pattern : List PatternPart) : String :=
  pathText (pattern.map PatternPart.source)

/-- The words of the pattern have letters and digits only. -/
def PlainPattern (pattern : List PatternPart) : Prop :=
  ∀ part ∈ pattern, part.word ≠ "" ∧ part.word.toList.all Char.isAlphanum = true

/-- The segments are not empty and contain no slash. -/
def PlainSegments (segments : List String) : Prop :=
  ∀ segment ∈ segments, segment ≠ "" ∧ '/' ∉ segment.toList

/-- The parameters of a match with their segments. -/
abbrev Params := List (String × Option String)

/-- The texts agree, whatever the case of their letters. -/
def sameText (s t : String) : Bool := s.toList.map Char.toLower == t.toList.map Char.toLower

/-- The parameters, if the pattern matches the first segments, or all of them if it is exact. An
optional parameter takes a segment if it can. -/
def matchSegments (exact : Bool) : List PatternPart → List String → Option Params
  | [], segments => if exact && !segments.isEmpty then none else some []
  | .text _ :: _, [] => none
  | .text word :: pattern, segment :: segments =>
    if sameText word segment then matchSegments exact pattern segments else none
  | .param _ :: _, [] => none
  | .param word :: pattern, segment :: segments =>
    (matchSegments exact pattern segments).map ((word, some segment) :: ·)
  | .optionalParam word :: pattern, [] =>
    (matchSegments exact pattern []).map ((word, none) :: ·)
  | .optionalParam word :: pattern, segment :: segments =>
    ((matchSegments exact pattern segments).map ((word, some segment) :: ·)).or
      ((matchSegments exact pattern (segment :: segments)).map ((word, none) :: ·))

/-- A router: the path to which a link leads, the match of a pattern with a path, and what becomes of
the segment of a parameter. -/
structure Router where
  pathname : String → String
  matchPath (exact : Bool) (path pathname : String) : Option Params
  pass : String → String

namespace Router

variable (router : Router)

def passParams (params : Params) : Params :=
  params.map fun param => (param.1, param.2.map router.pass)

/-- The router takes the path from the fragment, matches the segments as they are there, and hands
them out as they are or decoded once, fully or up to the reserved characters. -/
structure Documented : Prop where
  pathname : ∀ path : String, (∀ c ∈ path.toList, c ≠ '?' ∧ c ≠ '#') →
    router.pathname ("#" ++ path) = path
  matchPath : ∀ exact pattern segments, PlainPattern pattern → PlainSegments segments →
    router.matchPath exact (patternText pattern) (pathText segments) =
      (matchSegments exact pattern segments).map router.passParams
  pass : ∀ segment, router.pass segment = segment ∨
    Js.decodeURI segment = some (router.pass segment) ∨
    Js.decodeURIComponent segment = some (router.pass segment)

end Router

end Routing
