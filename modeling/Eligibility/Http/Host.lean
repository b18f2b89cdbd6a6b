import Eligibility.Http.Message
import Eligibility.Text.Case
import Eligibility.Text.Split
set_option autoImplicit false

/-!
# HTTP: trusted hosts

A server answers only for hosts that it trusts.  A pattern is a name, a name
with a star in front of it for every name that ends so, or a star for every
host.  A host whose name is trusted with `www.` in front is sent there.
-/

namespace Eligibility.Http

/-- What becomes of a request for a host. -/
inductive Standing where
  | admitted
  /-- The request belongs to another host. -/
  | elsewhere (host : String)
  | refused
  deriving DecidableEq, Repr

/-- The name of a host, without its port, in small letters. -/
def hostName (host : String) : String := Text.lower (Text.cutAt ':' host).1

/-- Whether a host has the form of a pattern. -/
def hasForm (host pattern : String) : Bool :=
  match pattern.toList with
  | '*' :: tail => tail.isSuffixOf host.toList
  | _ => host == pattern

/-- What becomes of a request for a host, where the patterns are trusted. -/
def standing (trusted : List String) (host : String) : Standing :=
  let patterns := trusted.map Text.lower
  let name := hostName host
  if patterns.any (hasForm name) then .admitted
  else if patterns.contains ("www." ++ name) then .elsewhere ("www." ++ host)
  else .refused

end Eligibility.Http
