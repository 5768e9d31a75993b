import Billboard.Postgres.Migration
import Billboard.Text.Split

/-! A server that answers from a script and keeps what was sent to it. -/

namespace Billboard.Postgres

structure Refusal where
  mark : String
  code : String := "XX000"
  message : String
deriving DecidableEq, Repr

structure Script where
  ids : List Int := []
  banners : List Banner := []
  accounts : List AccountRow := []
  affected : Nat := 0
  applied : List (Int × List UInt8) := []
  unfinished : Option Int := none
  refusals : List Refusal := []
  closed : Bool := false

namespace Script

def occurs (mark : List Char) : List Char → Bool
  | [] => mark.isEmpty
  | c :: cs => (Text.dropFront? mark (c :: cs)).isSome || occurs mark cs

def notYet : List String := ["53300", "57P03"]

def refuse? (s : Script) (r : Request) : Option ClientError :=
  match r with
  | .connect =>
    (s.refusals.find? (·.mark == r.sql)).map fun f =>
      if f.code ∈ notYet then .poolTimedOut else .database f.code f.message
  | _ =>
    (s.refusals.find? fun f => occurs f.mark.toList r.sql.toList).map fun f =>
      .database f.code f.message

def result (s : Script) : (st : Statement) → st.Result
  | .insertBanner .. => s.ids.head?
  | .updateBanner .. => s.affected
  | .deleteBanner _ => s.affected
  | .findBanner _ => s.banners.head?
  | .selectBanners _ => s.banners
  | .insertAccount _ => s.ids.head?
  | .findAccount _ => s.accounts.head?
  | .unfinishedMigration => s.unfinished
  | .appliedMigrations => s.applied
  | .test => ()
  | .databaseName => ()
  | .lockMigrations => ()
  | .unlockMigrations => ()
  | .createLedger => ()
  | .runMigration _ => ()
  | .recordMigration _ => ()
  | .timeMigration _ => ()

def refused (e : ClientError) : (r : Request) → r.Answer
  | .connect => .error e
  | .start => .error e
  | .commit => .error e
  | .rollback => .error e
  | .run _ => .error e

def accepted (s : Script) : (r : Request) → r.Answer
  | .connect => .ok ()
  | .start => .ok ()
  | .commit => .ok ()
  | .rollback => .ok ()
  | .run st => .ok (s.result st)

def answer (s : Script) (r : Request) (sent : List Request) : r.Answer × List Request :=
  if s.closed then (refused .poolClosed r, sent)
  else
    let sent := if r = .connect then sent else r :: sent
    match s.refuse? r with
    | some e => (refused e r, sent)
    | none => (s.accepted r, sent)

def run (s : Script) (session : Session α) : α × List Request :=
  let (a, sent) := Dialogue.run s.answer session []
  (a, sent.reverse)

end Script

end Billboard.Postgres
