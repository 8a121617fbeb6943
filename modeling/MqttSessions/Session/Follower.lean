import MqttSessions.Session.Basic

/-! # Followers

Whoever shows a session somewhere else follows it: the follower reads the session's announcements
whenever it gets the chance, and asks for a fresh look at the session after each change of state. A
follower that has missed announcements asks for one fresh look, since a change of state may have
been among them.

Main definition: **`Session.follow`**, the follower's move. -/

namespace MqttSessions

/-- Whether what a follower reads makes it ask for a fresh look. -/
def Follower.isRefresh : Feed.Reading SessionEvent → Bool
  | .item (.stateChanged _) => true
  | .item _ => false
  | .missed _ => true

namespace Session

variable {τ : Type}

/-- The follower reads all that has been announced since its last move. -/
def follow (s : Session τ) : Session τ :=
  if s.follower.isActive then
    { s with follower :=
      { s.follower with
        position := s.feed.position
        refreshes :=
          s.follower.refreshes + (s.feed.read s.follower.position).countP Follower.isRefresh } }
  else s

/-- A follower sets to work, from the next announcement on. -/
def startFollower (s : Session τ) : Session τ :=
  { s with follower := ⟨true, s.feed.position, 0⟩ }

/-- The follower stops where it stands. -/
def stopFollower (s : Session τ) : Session τ :=
  { s with follower := { s.follower with isActive := false } }

/-- The fresh looks that the follower has asked for are taken. -/
def takeRefreshes (s : Session τ) : Nat × Session τ :=
  (s.follower.refreshes, { s with follower := { s.follower with refreshes := 0 } })

end Session

end MqttSessions
