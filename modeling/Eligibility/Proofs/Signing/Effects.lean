import Eligibility.Proofs.Signing.Lifetime
set_option autoImplicit false

/-!
# Signing: what a call does to the signer and to the cache

A call ends in one of five ways.  It fails before anybody is asked to sign, it is served from
the cache, or the signer is asked, once, and signs, refuses or comes to an end that is not an
error.  The first two leave the cache as it is.  The others decide what the key of the call holds
afterwards, the new signature or nothing, whatever was there before; and no call touches any
other key.
-/

namespace Eligibility.Signing

open Statement (Built Choices)

/-! ## The entries of a cache that may be missing -/

/-- A call has a signer for an address, and a statement for it to sign. -/
structure Visit.Reaches [Uri.Idna] (v : Visit) (address : String) (sign : Sign) (b : Built) :
    Prop where
  signer : signer? v.call = some (.text address, sign)
  built : v.build address = .ok b

section

variable [Uri.Idna] {c : Cache} {cache : Option Cache} {now later : Reading}
  {address message : String} {action : Option String} {e : Entry}

end

/-! ## A call -/

section

variable [Uri.Idna] {v : Visit} {cache : Option Cache} {address : String} {sign : Sign} {b : Built}

end

end Eligibility.Signing
