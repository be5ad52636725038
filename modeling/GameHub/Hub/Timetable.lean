import GameHub.Hub.Tick

/-!
# The timetable of a hub

When the periodic work of a running hub is due. All of it is due at the start. Work that has been
done is due again at the first of its times that is still ahead, so turns that were missed are not
made up for: `Duty.isDue_done` says that nothing is due twice at one moment.
-/

namespace GameHub.Hub

/-- Work that is due again and again. -/
structure Duty where
  events : List Event
  period : Duration
  /-- When it is due next. -/
  due : Instant
  deriving DecidableEq, Repr

namespace Duty

/-- The duty is due. -/
def isDue (d : Duty) (now : Instant) : Bool := d.due.nanoseconds ≤ now.nanoseconds

/-- The duty after it has been done. -/
def done (d : Duty) (now : Instant) : Duty :=
  let missed := (now.nanoseconds - d.due.nanoseconds) / d.period.nanoseconds
  { d with due := ⟨d.due.nanoseconds + (missed + 1) * d.period.nanoseconds⟩ }

theorem isDue_done (d : Duty) (now : Instant) (h : 0 < d.period.nanoseconds) :
    (d.done now).isDue now = false := by
  have : now.nanoseconds - d.due.nanoseconds < _ := Nat.lt_div_mul_add h
  simp only [isDue, done, decide_eq_false_iff_not, Nat.add_mul]
  omega

end Duty

/-- The duties of a hub. -/
abbrev Timetable := List Duty

namespace Timetable

/-- The timetable of a hub that starts now. -/
def start (config : Config) (options : Options) (now : Instant) : Timetable := [
  ⟨[.reconcile, .expireTransfers], options.tick, now⟩,
  ⟨[.checkHealth], config.health.checkEvery, now⟩,
  ⟨[.sweepRestarts], config.restart.sweepEvery, now⟩,
  ⟨[.checkClients], .ofSeconds 1, now⟩]

/-- What has to be done now. -/
def events (t : Timetable) (now : Instant) : List Event :=
  (t.filter (·.isDue now)).flatMap (·.events)

/-- The timetable after that has been done. -/
def done (t : Timetable) (now : Instant) : Timetable :=
  t.map fun d => if d.isDue now then d.done now else d

/-- Nanoseconds until something is due, at most a second. -/
def pause (t : Timetable) (now : Instant) : Nat :=
  t.foldl (fun least d => min least (d.due.nanoseconds - now.nanoseconds)) 1_000_000_000

end Timetable

end GameHub.Hub
