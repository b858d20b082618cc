import PxManager.Core.Lockout
import PxManager.Bans.Store

/-!
# PxManager.Bans.Calls

Runs of `BanStore`: the calls its clients make, the store after a run, and the same run as the
lockout policy sees it.

A call has one clock reading. `history` reads the failures and successes of one IP off a run;
`bansStarted` lists the bans that the policy lets a run start. Both take the run with its
**newest call first**, as `PxManager.Core.Lockout` does.
-/

namespace PxManager.Bans

open PxManager.Core

/-- A call of a `BanStore` method. `recordFailure .login` is `record_login_failure` and
`recordFailure .auth` is `record_auth_failure`. -/
inductive Op
  | recordFailure (type : FailureType) (ip : String) (client : Option AccessLogClient)
  | recordSuccess (ip : String)
  | isBanned (ip : String)
  | activeBans
  | cleanupExpired
  deriving DecidableEq

/-- A call and the clock reading it works with. -/
structure Call where
  time : ℚ
  op : Op
  deriving DecidableEq

/-- What a call returns. -/
inductive Answer
  | none
  | banned (b : Bool)
  | bans (l : List Ban)
  deriving DecidableEq

namespace BanStore

/-- Perform a call on the store. -/
def perform (cfg : BanConfig) (self : BanStore) (c : Call) : Answer × BanStore :=
  match c.op with
  | .recordFailure type ip client =>
      (.none, recordFailure cfg type ip type.limit client c.time c.time self)
  | .recordSuccess ip => (.none, self.recordSuccess ip)
  | .isBanned ip =>
      let (banned, self) := isBanned ip c.time self
      (.banned banned, self)
  | .activeBans =>
      let (bans, self) := activeBans cfg c.time self
      (.bans bans, self)
  | .cleanupExpired => (.none, cleanupExpired cfg c.time self)

/-- The store after a run, oldest call first. -/
def run (cfg : BanConfig) (calls : List Call) : BanStore :=
  calls.foldl (fun self c => (self.perform cfg c).2) init

/-- What a call returns after a run. -/
def answer (cfg : BanConfig) (calls : List Call) (c : Call) : Answer :=
  ((run cfg calls).perform cfg c).1

end BanStore

/-- The policy that `BanStore` is for. With `countsLocked`, failures that fall into a ban would
be counted again after it. -/
def banPolicy (cfg : BanConfig) (countsLocked : Bool) : Lockout.Policy ℚ FailureType where
  ttl := cfg.banTtlSeconds
  window := cfg.failureWindowSeconds
  limit := FailureType.limit
  clearedBySuccess := (· = .login)
  countsLocked := countsLocked

/-- The entry that a call adds to the history of an IP. -/
def Call.entry? (ip : String) (c : Call) : Option (Lockout.Entry ℚ FailureType) :=
  match c.op with
  | .recordFailure type ip' _ => if ip' = ip then some ⟨c.time, .failure type⟩ else none
  | .recordSuccess ip' => if ip' = ip then some ⟨c.time, .success⟩ else none
  | _ => none

/-- The history of an IP in a run, newest call first. -/
def history (ip : String) (past : List Call) : List (Lockout.Entry ℚ FailureType) :=
  past.filterMap (Call.entry? ip)

/-- The judged history of an IP under the policy. -/
def verdicts (cfg : BanConfig) (countsLocked : Bool) (ip : String) (past : List Call) :
    List (Lockout.Judged ℚ FailureType) :=
  (banPolicy cfg countsLocked).judged (history ip past)

/-- Is the IP banned at `t` according to the policy? -/
def policyBanned (cfg : BanConfig) (countsLocked : Bool) (past : List Call) (ip : String)
    (t : ℚ) : Bool :=
  (banPolicy cfg countsLocked).lockedAt (verdicts cfg countsLocked ip past) t

/-- The ban that the policy lets a call start after a run, if any. -/
def Call.ban? (cfg : BanConfig) (past : List Call) (c : Call) : Option Ban :=
  match c.op with
  | .recordFailure type ip client =>
      if ((banPolicy cfg false).judge (verdicts cfg false ip past) ⟨c.time, .failure type⟩).starts
      then some (BanStore.newBan cfg ip client c.time)
      else none
  | _ => none

/-- The bans that the policy lets a run start, oldest first. -/
def bansStarted (cfg : BanConfig) : List Call → List Ban
  | [] => []
  | c :: past => bansStarted cfg past ++ (c.ban? cfg past).toList

end PxManager.Bans
