import Tunnix.Protocol

namespace Tunnix

/-- `send_to_client` spends this many attempts before it declares the client unreachable. -/
def sendAttempts : Nat := 50

/-- A delivery has some attempts left, and its current attempt holds the sender of a stream. -/
structure Delivery where
  attempts : Nat
  sender : Option Nat
deriving DecidableEq, Repr

/-- The relay's events carry its output in order, and a `Close` comes after all of it. -/
structure Orderly (events : List TunnelEvent) (produced : List Bytes) : Prop where
  part : datas events <+: produced
  closed : .close ∈ events → datas (beforeClose events) = produced

/-- Nothing is in order at the start. -/
theorem Orderly.nil : Orderly [] [] := ⟨List.prefix_refl _, nofun⟩

/-- The next chunk is carried before any `Close`. -/
theorem Orderly.data {events : List TunnelEvent} {chunk : Bytes} {produced : List Bytes}
    (unclosed : .close ∉ events) (whole : datas events ++ [chunk] = produced) :
    Orderly (events ++ [.data chunk]) produced where
  part := by
    have same : datas (events ++ [.data chunk]) = produced := by
      rw [datas_append, datas_data, whole]
    exact same ▸ List.prefix_refl _
  closed close := absurd close (unclosed_append unclosed nofun)

/-- An event that is neither a chunk nor a `Close` may come at any time. -/
theorem Orderly.silent {events : List TunnelEvent} {event : TunnelEvent} {produced : List Bytes}
    (orderly : Orderly events produced) (silent : event.data? = none) (open_ : event ≠ .close) :
    Orderly (events ++ [event]) produced where
  part := by
    rw [datas_append, datas_silent silent, List.append_nil]
    exact orderly.part
  closed close := by
    rcases List.mem_append.mp close with earlier | last
    · rw [beforeClose_append earlier]
      exact orderly.closed earlier
    · exact absurd (List.mem_singleton.mp last).symm open_

/-- A `Close` comes once everything is carried. -/
theorem Orderly.close {events : List TunnelEvent} {produced : List Bytes}
    (unclosed : .close ∉ events) (whole : datas events = produced) :
    Orderly (events ++ [.close]) produced where
  part := by
    have same : datas (events ++ [.close]) = produced := by
      rw [datas_append, datas_silent rfl, List.append_nil, whole]
    exact same ▸ List.prefix_refl _
  closed _ := by
    rw [beforeClose_append_close unclosed, whole]

/-- A report comes at any time, unless it is a `Close`, which comes once everything is carried. -/
theorem Orderly.report {events : List TunnelEvent} {event : TunnelEvent} {produced : List Bytes}
    (orderly : Orderly events produced) (silent : event.data? = none) (unclosed : .close ∉ events)
    (whole : event = .close → datas events = produced) : Orderly (events ++ [event]) produced := by
  by_cases last : event = .close
  · subst last
    exact Orderly.close unclosed (whole rfl)
  · exact orderly.silent silent last

/-- A later event that is no chunk does not change what a `Close` came after. -/
theorem Orderly.late {events : List TunnelEvent} {event : TunnelEvent} {produced : List Bytes}
    (orderly : Orderly events produced) (closed : .close ∈ events) (silent : event.data? = none) :
    Orderly (events ++ [event]) produced where
  part := by
    rw [datas_append, datas_silent silent, List.append_nil]
    exact orderly.part
  closed _ := by
    rw [beforeClose_append closed]
    exact orderly.closed closed

/-- More output may be produced as long as no `Close` was sent. -/
theorem Orderly.produce {events : List TunnelEvent} {produced : List Bytes} (chunk : Bytes)
    (orderly : Orderly events produced) (unclosed : .close ∉ events) :
    Orderly events (produced ++ [chunk]) where
  part := orderly.part.trans (List.prefix_append _ _)
  closed close := absurd close unclosed

/-- What was taken precedes what is queued. -/
theorem Orderly.received {received queued : List TunnelEvent} {produced : List Bytes}
    (orderly : Orderly (received ++ queued) produced) : Orderly received produced where
  part := by
    have part := orderly.part
    rw [datas_append] at part
    exact (List.prefix_append _ _).trans part
  closed closed := by
    have whole := orderly.closed (List.mem_append_left _ closed)
    rw [beforeClose_append closed] at whole
    exact whole

end Tunnix
