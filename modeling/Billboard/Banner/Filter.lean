import Billboard.Banner

namespace Billboard.Banner

inductive FeatureFilter where
  | all
  | only (feature : Int)
deriving DecidableEq, Repr

namespace FeatureFilter

def accepts (f : FeatureFilter) (feature : Int) : Bool :=
  match f with
  | .all => true
  | .only x => x == feature

def toOption : FeatureFilter → Option Int
  | .all => none
  | .only x => some x

def ofOption : Option Int → FeatureFilter
  | none => .all
  | some x => .only x

end FeatureFilter

/-- What a listing asks for. No tags mean any tags, and the limit zero means no limit. -/
structure Filter where
  feature : FeatureFilter := .all
  tags : List Int := []
  onlyActive : Bool := false
  offset : Nat := 0
  limit : Nat := 0
deriving DecidableEq, Repr

namespace Filter

def admits (f : Filter) (b : Banner) : Bool :=
  f.feature.accepts b.feature
    && (f.tags.isEmpty || f.tags.any b.tags.contains)
    && (!f.onlyActive || b.active)

def limit? (f : Filter) : Option Nat := if f.limit = 0 then none else some f.limit

def page (f : Filter) (rows : List α) : List α :=
  match f.limit? with
  | none => rows.drop f.offset
  | some n => (rows.drop f.offset).take n

end Filter

end Billboard.Banner
