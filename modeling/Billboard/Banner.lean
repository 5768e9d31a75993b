import Billboard.Clock.Timestamp
import Billboard.Json.Value
import Billboard.Text.Numeral

/-! Banners. The check sorts the tags of a draft, so a stored banner has one form for each set of
tags. -/

namespace Billboard

open Clock (Timestamp)

abbrev Content := List (String × Json)

structure Banner where
  id : Int
  feature : Int
  tags : List Int
  active : Bool
  content : Content
  createdAt : Timestamp
  updatedAt : Timestamp
deriving DecidableEq, Repr

structure Banner.Draft where
  feature : Int
  tags : List Int
  active : Bool := true
  content : Content := []
deriving DecidableEq, Repr

namespace Banner

inductive Flaw where
  | negativeFeature
  | noTags
  | negativeTag
deriving DecidableEq, Repr

def Flaw.message : Flaw → String
  | .negativeFeature => "feature_id must not be negative"
  | .noTags => "tag_ids must not be empty"
  | .negativeTag => "tag_ids must not be negative"

def dropRepeats : List Int → List Int
  | [] => []
  | [a] => [a]
  | a :: b :: rest => if a = b then dropRepeats (b :: rest) else a :: dropRepeats (b :: rest)

def normalTags (tags : List Int) : List Int := dropRepeats (tags.mergeSort (· ≤ ·))

def Draft.check (d : Draft) : Except Flaw Draft :=
  if d.feature < 0 then .error .negativeFeature
  else if d.tags = [] then .error .noTags
  else if d.tags.any (· < 0) then .error .negativeTag
  else .ok { d with tags := normalTags d.tags }

def ofDraft (id : Int) (d : Draft) (createdAt updatedAt : Timestamp) : Banner :=
  ⟨id, d.feature, d.tags, d.active, d.content, createdAt, updatedAt⟩

def serves (b : Banner) (feature tag : Int) : Bool := b.feature == feature && b.tags.contains tag

def payloadKey (id : Int) : String := "banner:" ++ Text.intText id

def indexKey (feature tag : Int) : String :=
  "feature:" ++ Text.intText feature ++ ":tag:" ++ Text.intText tag

def indexKeys (b : Banner) : List String := b.tags.map (indexKey b.feature)

end Banner

end Billboard
