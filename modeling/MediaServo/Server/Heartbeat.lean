import MediaServo.Foundations.Runs

/-! The heartbeat of a session: beside the relay loop a task sends pings and watches for signs of
life. -/

namespace MediaServo.Server.Heartbeat

structure Config where
  interval : ℕ
  miss : ℕ
  interval_lt : interval < 2 ^ 64
  miss_lt : miss < 2 ^ 32

/-- The silence that is put up with, in seconds. `miss + 1` is a `u32`, and wraps where overflow is not
checked; a product that fits no duration panics, as an overflow does where it is checked. -/
def pongBudget (checks : Bool) (interval miss : ℕ) : Option ℕ :=
  if checks ∧ 2 ^ 32 ≤ miss + 1 then none
  else
    let budget := interval * ((miss + 1) % 2 ^ 32)
    if budget < 2 ^ 64 then some budget else none

def seconds (n : ℕ) : ℕ := n * 10 ^ 9

def pongBudgetExceeded (checks : Bool) (silent interval miss : ℕ) : Option Bool :=
  (pongBudget checks interval miss).map fun budget => seconds budget < silent

/-- What happens to a session: a ping or a pong of its peer, any other frame, and a tick of the
task beside the loop, with whether its ping gets out. -/
inductive Event
  | sign
  | frame
  | tick (sent : Bool)
  deriving DecidableEq

/-- `lastAlive` is the stamp that the loop and the task share, `beating` whether the task runs, and
`dead` whether it has told the loop to end. -/
structure Watch where
  lastAlive : ℕ
  beating : Bool
  dead : Bool
  deriving DecidableEq

def start (cfg : Config) : Watch := ⟨0, 0 < cfg.interval, false⟩

def step (checks : Bool) (cfg : Config) (w : Watch) (e : ℕ × Event) : Watch :=
  match e.2 with
  | .sign => { w with lastAlive := e.1 }
  | .frame => w
  | .tick sent =>
      if w.beating then
        match pongBudgetExceeded checks (e.1 - w.lastAlive) cfg.interval (max cfg.miss 1) with
        | none => { w with beating := false }
        | some true => { w with beating := false, dead := true }
        | some false => { w with beating := sent }
      else w

end MediaServo.Server.Heartbeat
