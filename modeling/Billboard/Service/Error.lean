import Billboard.Cache.Call
import Billboard.Store.Call
import Billboard.Text.Numeral

namespace Billboard

inductive ServiceError where
  | notFound
  | invalidInput (reason : String)
  | persistence (cause : StoreError)
deriving DecidableEq, Repr

namespace ServiceError

def message : ServiceError → String
  | .notFound => "banner not found"
  | .invalidInput reason => "invalid input: " ++ reason
  | .persistence cause => "persistence error: " ++ cause.message

def ofStore : StoreError → ServiceError
  | .notFound .. => .notFound
  | .invalidBanner reason => .invalidInput reason
  | e => .persistence e

def ofFlaw (f : Banner.Flaw) : ServiceError := .ofStore (.ofFlaw f)

end ServiceError

inductive RefreshError where
  | store (cause : StoreError)
  | cache (id : Int) (cause : CacheError)
deriving DecidableEq, Repr

def RefreshError.message : RefreshError → String
  | .store cause => "loading banners failed: " ++ cause.message
  | .cache id cause => "caching banner " ++ Text.intText id ++ " failed: " ++ cause.message

end Billboard
