import StunServer.Common.FastHash
import StunServer.Core.SocketAddress
import StunServer.Lib.Machine

/-! `RateLimiter` of `networkutils/ratelimiter.cpp`. Times are integers, the clock is read
once by each call. A call is one step: between threads the mutex of the limiter makes it so. -/

namespace StunServer

open Bytes

structure RateTracker where
  /-- Packets since `firstEntryTime`. -/
  count : UInt64
  firstEntryTime : ℤ
  lastEntryTime : ℤ
  /-- The time he is allowed out of penalty, 0 if no penalty. -/
  penaltyTime : ℤ
deriving DecidableEq

structure RateTrackerAddress where
  addrbytes0 : UInt64
  addrbytes1 : UInt64
deriving DecidableEq

instance : FastHashKey RateTrackerAddress :=
  ⟨fun addr => (addr.addrbytes0 ^^^ addr.addrbytes1).toNat⟩

/-- The address bytes in a zeroed array of two 64-bit words. -/
def rateTrackerAddress (addr : CSocketAddress) : RateTrackerAddress :=
  let addrbytes := overwrite (List.replicate 16 0) 0 (addr.getIP 16)
  ⟨load64 (slice addrbytes 0 8), load64 (slice addrbytes 8 8)⟩

structure RateLimiter where
  table : FastHash RateTrackerAddress RateTracker

namespace RateLimiter

def MAX_RATE : ℕ := 3600
def MIN_COUNT_FOR_CONSIDERATION : UInt64 := 60
def RESET_INTERVAL_SECONDS : ℤ := 120
def PENALTY_TIME_SECONDS : ℤ := 3600

def create (tablesize : ℕ) : RateLimiter := ⟨FastHash.initTable tablesize (tablesize / 2)⟩

/-- The product is the 64-bit one. -/
def getRate (rt : RateTracker) : ℕ :=
  if rt.count < MIN_COUNT_FOR_CONSIDERATION then 0
  else
    let seconds :=
      if rt.lastEntryTime > rt.firstEntryTime then rt.lastEntryTime - rt.firstEntryTime else 1
    (rt.count * 3600).toNat / seconds.toNat

def rateCheckImpl (limiter : RateLimiter) (addr : CSocketAddress) (currentTime : ℤ) :
    Bool × RateLimiter :=
  let rtaddr := rateTrackerAddress addr
  match limiter.table.lookup rtaddr with
  | none =>
    let rt : RateTracker := ⟨1, currentTime, currentTime, 0⟩
    let (result, table) := limiter.table.insert rtaddr rt
    if result = -1 then
      -- the table is full: it is dumped
      (true, ⟨(table.reset.insert rtaddr rt).2⟩)
    else (true, ⟨table⟩)
  | some rt =>
    let rt := { rt with count := rt.count + 1, lastEntryTime := currentTime }
    let rate := getRate rt
    if rt.penaltyTime ≠ 0 then
      if rt.penaltyTime ≥ currentTime then (false, ⟨limiter.table.store rtaddr rt⟩)
      else if rate < MAX_RATE then
        (true, ⟨limiter.table.store rtaddr { rt with penaltyTime := 0 }⟩)
      else
        (false, ⟨limiter.table.store rtaddr
          { rt with penaltyTime := currentTime + PENALTY_TIME_SECONDS }⟩)
    else if rate ≥ MAX_RATE then
      (false, ⟨limiter.table.store rtaddr
        { rt with penaltyTime := currentTime + PENALTY_TIME_SECONDS }⟩)
    else
      let table := limiter.table.store rtaddr rt
      if rt.lastEntryTime - rt.firstEntryTime > RESET_INTERVAL_SECONDS then
        (true, ⟨(table.remove rtaddr).2⟩)
      else (true, ⟨table⟩)

end RateLimiter

/-- A call of `RateCheck` with what the clock says then. -/
structure RateCall where
  addr : CSocketAddress
  currentTime : ℤ
deriving DecidableEq

namespace RateLimiter

def rateCheck (limiter : RateLimiter) (call : RateCall) : Bool × RateLimiter :=
  limiter.rateCheckImpl call.addr call.currentTime

end RateLimiter
end StunServer
