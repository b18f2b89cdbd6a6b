import Eligibility.Json.Basic
set_option autoImplicit false

/-!
# Scenarios

A scenario is what a relying party would fix on its backend: the provider that
attests the account, the action that is asked for and the traits that a user
must have.  The ones listed here are examples.
-/

namespace Eligibility

/-- A provider whose accounts the verification authority can attest. -/
inductive Provider where
  | x
  | coinbase
  | instagram
  | tiktok
  deriving DecidableEq, Repr

namespace Provider

/-- The word of a provider. -/
def word : Provider → String
  | x => "x"
  | coinbase => "coinbase"
  | instagram => "instagram"
  | tiktok => "tiktok"

/-- Every provider. -/
def all : List Provider := [x, coinbase, instagram, tiktok]

end Provider

/-- An eligibility rule of a relying party. -/
structure Scenario where
  id : String
  name : String
  description : String
  provider : Provider
  action : String
  /-- The traits that a user must have, each as a raw value. -/
  traits : Mapping String
  deriving DecidableEq, Repr

namespace Scenario

/-- The example scenarios in the order in which they are listed. -/
def all : List Scenario := [
  { id := "x-followers-100"
    name := "X Followers > 100"
    description := "Verify X account with more than 100 followers"
    provider := .x
    action := "claim_demo_x_airdrop"
    traits := [("followers", "gt:100")] },
  { id := "coinbase-billed-active"
    name := "Coinbase One - Billed & Active"
    description := "Coinbase One subscriber who has been billed and is currently active"
    provider := .coinbase
    action := "claim_demo_coinbase_airdrop"
    traits := [("coinbase_one_active", "true"), ("coinbase_one_billed", "true")] },
  { id := "instagram-followers-100"
    name := "Instagram Followers > 100"
    description := "Verify Instagram account with more than 100 followers"
    provider := .instagram
    action := "claim_demo_instagram_airdrop"
    traits := [("followers_count", "gt:100")] },
  { id := "tiktok-followers-1000"
    name := "TikTok Followers > 1000"
    description := "Verify TikTok account with more than 1000 followers"
    provider := .tiktok
    action := "claim_demo_tiktok_airdrop"
    traits := [("follower_count", "gt:1000")] },
  { id := "tiktok-likes-10000"
    name := "TikTok Likes > 10,000"
    description := "Verify TikTok account with more than 10,000 total likes"
    provider := .tiktok
    action := "claim_demo_tiktok_airdrop"
    traits := [("likes_count", "gt:10000")] },
  { id := "tiktok-videos-50"
    name := "TikTok Videos > 50"
    description := "Verify TikTok account with more than 50 videos posted"
    provider := .tiktok
    action := "claim_demo_tiktok_airdrop"
    traits := [("video_count", "gt:50")] },
  { id := "tiktok-creator"
    name := "TikTok Active Creator"
    description := "TikTok creator with 5K+ followers, 100K+ likes, and 100+ videos"
    provider := .tiktok
    action := "claim_demo_tiktok_airdrop"
    traits :=
      [("follower_count", "gte:5000"), ("likes_count", "gte:100000"), ("video_count", "gte:100")] }]

/-- The scenario of an identifier. -/
def find? (id : String) : Option Scenario := all.find? (·.id == id)

/-- The scenario as JSON. -/
def toJson (s : Scenario) : Json :=
  .object [("id", .text s.id), ("name", .text s.name), ("description", .text s.description),
    ("provider", .text s.provider.word), ("action", .text s.action),
    ("traits", .object (s.traits.mapValues .text))]

end Scenario

end Eligibility
