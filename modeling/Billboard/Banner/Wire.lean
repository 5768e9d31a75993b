import Billboard.Banner.Filter
import Billboard.Clock.Timestamp
import Billboard.Json.Writer

/-! Banners in JSON, and the bytes that a cache keeps of them. -/

namespace Billboard.Banner

open Json (Reader Slot)
open Clock

def fields (b : Banner) : List (String × Json) :=
  [("banner_id", .int b.id),
   ("feature_id", .int b.feature),
   ("tag_ids", .arr (b.tags.map .int)),
   ("is_active", .bool b.active),
   ("content", .obj b.content),
   ("created_at", b.createdAt.toJson),
   ("updated_at", b.updatedAt.toJson)]

def toJson (b : Banner) : Json := .obj b.fields

def text (b : Banner) : String := b.toJson.text

def slots : List (Slot Banner) :=
  [.required "banner_id" Json.i64 fun x b => { b with id := x },
   .required "feature_id" Json.i32 fun x b => { b with feature := x },
   .required "tag_ids" (Json.sequence Json.i32) fun x b => { b with tags := x },
   .required "is_active" Json.boolean fun x b => { b with active := x },
   .required "content" Json.object fun x b => { b with content := x },
   .required "created_at" Timestamp.reader fun x b => { b with createdAt := x },
   .required "updated_at" Timestamp.reader fun x b => { b with updatedAt := x }]

def blank : Banner := ⟨0, 0, [], false, [], ⟨0, 0⟩, ⟨0, 0⟩⟩

def reader : Reader Banner := Json.record "Banner" slots blank

namespace Draft

def fields (d : Draft) : List (String × Json) :=
  [("feature_id", .int d.feature),
   ("tag_ids", .arr (d.tags.map .int)),
   ("is_active", .bool d.active),
   ("content", .obj d.content)]

def toJson (d : Draft) : Json := .obj d.fields

def text (d : Draft) : String := d.toJson.text

def slots : List (Slot Draft) :=
  [.required "feature_id" Json.i32 fun x d => { d with feature := x },
   .required "tag_ids" (Json.sequence Json.i32) fun x d => { d with tags := x },
   .defaulted "is_active" Json.boolean fun x d => { d with active := x },
   .defaulted "content" Json.object fun x d => { d with content := x }]

def reader : Reader Draft := Json.record "NewBanner" slots ⟨0, [], true, []⟩

end Draft

def encode (b : Banner) : ByteArray := b.text.toUTF8

def decode? (payload : ByteArray) : Option Banner := (Json.decodeBytes reader payload).toOption

def servable? (payload : ByteArray) (feature tag : Int) : Option Banner :=
  (decode? payload).filter fun b => b.active && b.serves feature tag

end Billboard.Banner
