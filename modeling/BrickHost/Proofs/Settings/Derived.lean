import BrickHost.Proofs.Wire.Frame
import BrickHost.Proofs.Wire.Packet
import BrickHost.Settings

/-! What schedulers and the health poller get from settings, whatever the settings hold: a frame
limit that packets and frames agree on, spans of at least ten milliseconds, and a time between
reconnects that can be counted. -/

namespace BrickHost

/-- A packet that keeps to a limit which two length bytes can say goes onto the stream. -/
theorem Packet.framed_of_toBytes {p : Packet} {max : Nat} {body : List UInt8}
    (hmax : Frame.limit max = max) (h : p.toBytes max = .ok body) :
    Frame.encode? max body = .ok (Frame.encode body) := by
  obtain ⟨hfits, rfl⟩ := toBytes_eq_ok_iff.mp h
  have hl : ¬ Frame.limit max < p.body.length := by
    rw [hmax, length_body]
    omega
  rw [Frame.encode?, if_neg hl]

namespace Settings

theorem limit_schedulerConfig (s : Settings) (label : String) :
    Frame.limit (s.schedulerConfig label).maxFrame = (s.schedulerConfig label).maxFrame :=
  Nat.min_eq_left (Nat.min_le_right _ _)

theorem le_atLeast (ms : UInt64) : 10 * 1000000 ≤ (atLeast ms).nanos :=
  Nat.mul_le_mul_right 1000000 (Nat.le_max_right ms.toNat leastMillis)

/-- The longest of all spans leaves room for far more than any number of milliseconds. -/
theorem double?_atLeast (ms : UInt64) : (atLeast ms).double? = some ⟨2 * (atLeast ms).nanos⟩ := by
  have hms : Nat.max ms.toNat leastMillis < 18446744073709551616 :=
    Nat.max_lt.mpr ⟨ms.toNat_lt, by decide⟩
  have hlongest : Duration.longest.nanos = 18446744073709551615999999999 := rfl
  have hnanos : (atLeast ms).nanos = Nat.max ms.toNat leastMillis * 1000000 := rfl
  exact if_pos (by omega)

theorem double?_active (s : Settings) :
    s.pollerOptions.active.double? = some ⟨2 * s.pollerOptions.active.nanos⟩ :=
  double?_atLeast s.health.activeInterval

theorem reconnect_pollerOptions (s : Settings) :
    s.pollerOptions.reconnect = s.health.reconnectInterval.map atLeast := rfl

theorem reconnectInterval?_pollerOptions (s : Settings) :
    s.pollerOptions.reconnectInterval? =
      some ((s.health.reconnectInterval.map atLeast).getD
        ((Duration.ofMillis 1000).max ⟨2 * s.pollerOptions.active.nanos⟩)) := by
  unfold PollerOptions.reconnectInterval?
  rw [reconnect_pollerOptions, double?_active]
  cases s.health.reconnectInterval <;> rfl

/-- All timeouts and intervals that come of settings. -/
def timings (s : Settings) (label : String) : List Duration :=
  let config := s.schedulerConfig label
  let options := s.pollerOptions
  [s.connectTimeout, config.defaultTimeout, config.recoveryTimeout, options.active, options.idle,
    options.probeTimeout] ++ options.reconnect.toList ++ options.reconnectInterval?.toList

theorem active_le_idle (s : Settings) : s.pollerOptions.active.nanos ≤ s.pollerOptions.idle.nanos :=
  Nat.le_max_right _ _

theorem le_of_mem_timings {s : Settings} {label : String} {d : Duration}
    (h : d ∈ s.timings label) : 10 * 1000000 ≤ d.nanos := by
  simp only [timings, List.mem_append, Option.mem_toList, reconnect_pollerOptions,
    reconnectInterval?_pollerOptions] at h
  rcases h with (h | h) | h
  · simp only [List.mem_cons, List.not_mem_nil, or_false] at h
    rcases h with rfl | rfl | rfl | rfl | rfl | rfl
    · exact le_atLeast _
    · exact le_atLeast _
    · exact le_atLeast _
    · exact le_atLeast _
    · exact Nat.le_trans (le_atLeast _) s.active_le_idle
    · exact le_atLeast _
  · obtain ⟨ms, -, rfl⟩ := Option.map_eq_some_iff.mp h
    exact le_atLeast ms
  · cases hr : s.health.reconnectInterval with
    | some ms =>
      rw [hr] at h
      exact Option.some.inj h ▸ le_atLeast ms
    | none =>
      rw [hr] at h
      have hsecond : 10 * 1000000 ≤ (Duration.ofMillis 1000).nanos := by decide
      exact Option.some.inj h ▸ Nat.le_trans hsecond (Nat.le_max_left _ _)

/-- Whatever settings hold, what comes of them can be worked with. Packets and frames have the same
limit, so that no packet is refused behind its encoder; no timeout and no interval is shorter than
ten milliseconds, nor the idle interval shorter than the active one; and twice the active interval
can be counted, which is the time between reconnects if none is given and this is not less than a
second. -/
theorem derived_settings_usable (s : Settings) (label : String) :
    (Frame.limit (s.schedulerConfig label).maxFrame = (s.schedulerConfig label).maxFrame ∧
      ∀ p body, Packet.toBytes p (s.schedulerConfig label).maxFrame = .ok body →
        Frame.encode? (s.schedulerConfig label).maxFrame body = .ok (Frame.encode body)) ∧
    (∀ d ∈ s.timings label, 10 * 1000000 ≤ d.nanos) ∧
    s.pollerOptions.active.nanos ≤ s.pollerOptions.idle.nanos ∧
    ∃ twice, s.pollerOptions.active.double? = some twice ∧
      twice.nanos = 2 * s.pollerOptions.active.nanos ∧
      s.pollerOptions.reconnectInterval? = some
        ((s.health.reconnectInterval.map atLeast).getD ((Duration.ofMillis 1000).max twice)) := by
  have hlimit := s.limit_schedulerConfig label
  exact ⟨⟨hlimit, fun _ _ => Packet.framed_of_toBytes hlimit⟩, fun _ => le_of_mem_timings,
    s.active_le_idle, _, s.double?_active, rfl, s.reconnectInterval?_pollerOptions⟩

/-- No time to connect, a frame limit that no length prefix can say, and the longest active
interval. -/
theorem extreme_settings_raised :
    ∃ (s : Settings) (p : Packet), s.scheduler.connectTimeout = 0 ∧
      s.scheduler.maxFrame = 18446744073709551615 ∧
      s.health.activeInterval = 18446744073709551615 ∧
      p.toBytes (s.schedulerConfig "arm").maxFrame = .ok p.body ∧
      Frame.encode? (s.schedulerConfig "arm").maxFrame p.body = .ok (Frame.encode p.body) ∧
      s.connectTimeout ∈ s.timings "arm" ∧ 10 * 1000000 ≤ s.connectTimeout.nanos ∧
      s.pollerOptions.reconnectInterval? = some (.ofMillis (2 * 18446744073709551615)) := by
  let s : Settings :=
    { scheduler := { connectTimeout := 0, maxFrame := 18446744073709551615 }
      health := { activeInterval := 18446744073709551615 } }
  let p : Packet := .command 1 .direct [0]
  have hp : p.toBytes (s.schedulerConfig "arm").maxFrame = .ok p.body :=
    Packet.toBytes_eq_ok_iff.mpr ⟨by decide, rfl⟩
  have hconnect : s.connectTimeout ∈ s.timings "arm" := List.mem_cons_self
  obtain ⟨⟨-, hframed⟩, htimings, -, twice, htwice, -, hreconnect⟩ :=
    derived_settings_usable s "arm"
  have hdouble : s.pollerOptions.active.double? = some (.ofMillis (2 * 18446744073709551615)) := by
    decide +kernel
  obtain rfl := Option.some.inj (hdouble.symm.trans htwice)
  exact ⟨s, p, rfl, rfl, rfl, hp, hframed p _ hp, hconnect, htimings _ hconnect,
    hreconnect.trans (by decide +kernel)⟩

end Settings
end BrickHost
