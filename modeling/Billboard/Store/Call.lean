import Billboard.Banner.Filter
import Billboard.Text.Numeral

namespace Billboard

open Banner (Draft Filter)
open Clock (Timestamp)

inductive StoreError where
  | notFound (entity key : String)
  | alreadyExists (entity key : String)
  | invalidBanner (reason : String)
  | transaction (reason : String)
  | connection (reason : String)
  | internal (reason : String)
deriving DecidableEq, Repr

namespace StoreError

def message : StoreError → String
  | .notFound entity key => entity ++ " not found: " ++ key
  | .alreadyExists entity key => entity ++ " already exists: " ++ key
  | .invalidBanner reason => "Invalid banner: " ++ reason
  | .transaction reason => "Transaction error: " ++ reason
  | .connection reason => "Connection error: " ++ reason
  | .internal reason => "Internal error: " ++ reason

def category : StoreError → String
  | .notFound .. => "not_found"
  | .alreadyExists .. => "conflict"
  | .invalidBanner _ => "validation"
  | .transaction _ => "transaction"
  | .connection _ => "infrastructure"
  | .internal _ => "internal"

def isNotFound : StoreError → Bool
  | .notFound .. => true
  | _ => false

def ofFlaw (f : Banner.Flaw) : StoreError := .invalidBanner f.message

def noBanner (id : Int) : StoreError := .notFound "banner" (Text.intText id)

end StoreError

inductive StoreCall where
  | create (d : Draft) (createdAt updatedAt : Timestamp)
  | update (id : Int) (d : Draft) (updatedAt : Timestamp)
  | delete (id : Int)
  | get (id : Int)
  | query (f : Filter)
  | ping
  | close
deriving DecidableEq, Repr

abbrev StoreCall.Value : StoreCall → Type
  | .create .. => Int
  | .update .. => Unit
  | .delete _ => Unit
  | .get _ => Option Banner
  | .query _ => List Banner
  | .ping => Unit
  | .close => Unit

abbrev StoreCall.Answer (c : StoreCall) : Type := Except StoreError c.Value

end Billboard
