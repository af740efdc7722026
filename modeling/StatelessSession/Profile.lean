import StatelessSession.Text.Quoted
import StatelessSession.Version
import StatelessSession.Zone.Basic

/-!
# Session profiles

What a session learns once, when it opens.
-/

namespace StatelessSession

/-- The facts about a session that do not change. -/
structure Profile where
  serverTimeZone : Zone
  /-- The zone in which the client reads dates and times. -/
  effectiveTimeZone : Zone
  serverVersion : Version
  /-- The database at the time the session opened. -/
  database : String
  user : String
  compliant : Bool
deriving DecidableEq

/-- A profile in a message. -/
def Profile.shown (p : Profile) : String :=
  Text.record "SessionProfile"
    [("server_time_zone", p.serverTimeZone.name),
      ("effective_time_zone", p.effectiveTimeZone.name),
      ("server_version", p.serverVersion.shown), ("database", Text.quoted p.database),
      ("user", Text.quoted p.user), ("compliant", Text.shownBool p.compliant)]

end StatelessSession
