import StunServer.Core.RateLimiter

/-! The rate limiter without its table: one record for each address, or none. -/

namespace StunServer

open RateLimiter

namespace RateTracker

/-- The record with one more packet. -/
def counted (rt : RateTracker) (now : ℤ) : RateTracker :=
  { rt with count := rt.count + 1, lastEntryTime := now }

def penalised (rt : RateTracker) (now : ℤ) : RateTracker :=
  { rt with penaltyTime := now + PENALTY_TIME_SECONDS }

def paroled (rt : RateTracker) : RateTracker := { rt with penaltyTime := 0 }

/-- A call at which a penalty is entered. -/
def Floods (rt : RateTracker) (now : ℤ) : Prop :=
  (rt.penaltyTime ≠ 0 → rt.penaltyTime < now) ∧ MAX_RATE ≤ getRate (rt.counted now)

/-- The record of an address seen for the first time. -/
def first (now : ℤ) : RateTracker := ⟨1, now, now, 0⟩

end RateTracker

/-- What a call does to the record of its own address. -/
def checkRecord : Option RateTracker → ℤ → Bool × Option RateTracker
  | none, now => (true, some (RateTracker.first now))
  | some rt, now =>
    let rt := rt.counted now
    if rt.penaltyTime ≠ 0 ∧ now ≤ rt.penaltyTime then (false, some rt)
    else if MAX_RATE ≤ getRate rt then (false, some (rt.penalised now))
    else if rt.penaltyTime ≠ 0 then (true, some rt.paroled)
    else if RESET_INTERVAL_SECONDS < rt.lastEntryTime - rt.firstEntryTime then (true, none)
    else (true, some rt)

/-- The key of a call and its time. -/
def RateCall.keyed (call : RateCall) : RateTrackerAddress × ℤ :=
  (rateTrackerAddress call.addr, call.currentTime)

/-- The times of the calls that a key gets. -/
def timesOf (k : RateTrackerAddress) (calls : List RateCall) : List ℤ :=
  Machine.own k (calls.map RateCall.keyed)

/-- The calls of a key, with what they return. -/
def tracesOf (k : RateTrackerAddress) (limiter : RateLimiter) (calls : List RateCall) :
    List (ℤ × Bool) :=
  ((Machine.trace RateLimiter.rateCheck limiter calls).filter fun e => rateTrackerAddress e.1.addr = k).map
    fun e => (e.1.currentTime, e.2)

/-- An address without a record finds room for one. -/
def RateLimiter.HasRoom (limiter : RateLimiter) (call : RateCall) : Prop :=
  limiter.table.lookup (rateTrackerAddress call.addr) = none →
    limiter.table.size < limiter.table.fsize

/-- No call of the run meets a full table. -/
def RateLimiter.NeverFull (limiter : RateLimiter) (calls : List RateCall) : Prop :=
  ∀ before call later, calls = before ++ call :: later →
    (Machine.after rateCheck limiter before).HasRoom call

end StunServer
