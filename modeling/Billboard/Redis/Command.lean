import Billboard.Text.Numeral
import Billboard.Text.Utf8

namespace Billboard.Redis

open Text

inductive Command where
  | ping
  | setex (key : String) (seconds : Nat) (payload : ByteArray)
  | get (key : String)
  | del (key : String)
  | sadd (key member : String)
  | smembers (key : String)

inductive Request where
  | one (c : Command)
  | atomic (cs : List Command)

inductive Reply where
  | status (text : String)
  | integer (n : Int)
  | bulk (payload : Option ByteArray)
  | array (items : List String)
  | error (reason : String)

namespace Command

def name : Command → String
  | .ping => "PING"
  | .setex .. => "SETEX"
  | .get _ => "GET"
  | .del _ => "DEL"
  | .sadd .. => "SADD"
  | .smembers _ => "SMEMBERS"

def words : Command → List String
  | .ping => ["PING"]
  | .setex key seconds payload =>
    ["SETEX", key, natText seconds, readableText payload.data.toList]
  | .get key => ["GET", key]
  | .del key => ["DEL", key]
  | .sadd key member => ["SADD", key, member]
  | .smembers key => ["SMEMBERS", key]

end Command

def Reply.isError : Reply → Bool
  | .error _ => true
  | _ => false

end Billboard.Redis
