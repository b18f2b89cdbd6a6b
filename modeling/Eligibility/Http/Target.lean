import Eligibility.Text.Split
import Eligibility.Uri.Percent
set_option autoImplicit false

/-!
# HTTP: targets

What a server sees as the path of a request.  A client takes the query and the
fragment off, resolves dot segments and decodes percent triplets; the server
decodes what it gets once more.
-/

namespace Eligibility.Http

/-- The segments of a path without those that stand for the place itself or the one above. -/
def resolveDots (segments : List String) : List String :=
  (segments.foldl step []).reverse
where
  /-- Put a segment on top of those before it, the nearest first. -/
  step (above : List String) (segment : String) : List String :=
    if segment = "." then above
    else if segment = ".." then
      match above with
      | [] => []
      | [""] => [""]
      | _ :: rest => rest
    else segment :: above

/-- The part of a target that may name a path: what follows a host, up to a query or a fragment. -/
def pathPart (target : List Char) : List Char :=
  let path := target.takeWhile fun c => c != '?' && c != '#'
  match path with
  | '/' :: '/' :: rest => rest.dropWhile (· != '/')
  | _ => path

/-- The path that a server sees for a target. -/
def pathOf (target : String) : String :=
  let path := '/' :: (pathPart target.toList).dropWhile (· == '/')
  let resolved := Text.join "/" (resolveDots (Text.pieces '/' (String.ofList path)))
  Uri.decodedText (Uri.decodedText resolved)

end Eligibility.Http
