import HealthWatch.Manifest
import HealthWatch.Proofs.Amounts
import HealthWatch.Proofs.Readings
import HealthWatch.Settings
import Mathlib.Data.List.Forall2
/-!
# What an accepted configuration promises

`Settings.read_ok` and `Manifest.registry_ok` take accepted settings and an accepted manifest apart
into the values that were read. The timeouts among them are positive and of whole milliseconds.
-/

namespace HealthWatch

/-! ## Settings -/

namespace Settings

variable {env : Environment} {st : Settings}

/-- The values that were read from an accepted environment. -/
theorem read_ok (h : read env = .ok st) :
    readPort env = .ok st.port ∧
      readDuration env .defaultTimeout (.ofSecs 30) = .ok st.defaultTimeout ∧
      readEvaluationTimeout env st.defaultTimeout = .ok st.evaluationTimeout ∧
      readDuration env .publishDelay (.ofSecs 5) = .ok st.publishDelay ∧
      readDuration env .publishPeriod (.ofSecs 30) = .ok st.publishPeriod ∧
      readDuration env .minNotificationInterval (.ofSecs 600) =
        .ok st.minNotificationInterval := by
  simp only [read, bind_eq_ok_iff] at h
  obtain ⟨port, hport, timeout, htimeout, deadline, hdeadline, delay, hdelay, period, hperiod,
    interval, hinterval, h⟩ := h
  cases h
  exact ⟨hport, htimeout, hdeadline, hdelay, hperiod, hinterval⟩

theorem wholeMillis_readDuration {v : Variable} {default d : Duration}
    (hdefault : default.WholeMillis) (h : readDuration env v default = .ok d) : d.WholeMillis := by
  unfold readDuration at h
  cases hv : value? env v.key with
  | none =>
    rw [hv] at h
    cases h
    exact hdefault
  | some value =>
    rw [hv] at h
    cases hd : Duration.read? value.toList with
    | none =>
      simp only [hd] at h
      cases h
    | some d' =>
      simp only [hd] at h
      cases h
      exact (Duration.read?_eq_some hd).2

theorem wholeMillis_defaultTimeout (h : read env = .ok st) : st.defaultTimeout.WholeMillis :=
  wholeMillis_readDuration (by decide) (read_ok h).2.1

/-- A check without a timeout of its own is over before the deadline. -/
theorem defaultTimeout_lt (h : read env = .ok st) : st.defaultTimeout < st.evaluationTimeout := by
  obtain ⟨-, -, h, -⟩ := read_ok h
  simp only [readEvaluationTimeout, bind_eq_ok_iff] at h
  obtain ⟨d, -, h⟩ := h
  split at h
  · next hlt =>
    cases h
    exact hlt
  · cases h

end Settings

/-! ## The manifest -/

namespace CheckItem

variable {item : CheckItem} {net : Network} {r : Registration}

/-- The values that were read for an accepted check. -/
theorem registration_ok (h : item.registration net = .ok r) : ∃ probe,
    item.readProbe net = .ok probe ∧ r.source = .shared probe ∧ item.readTimeout = .ok r.timeout ∧
      item.readFailureStatus = .ok r.failureStatus ∧ r.name = item.name ∧
      r.tags = .ofList item.tags := by
  simp only [registration, bind_eq_ok_iff] at h
  obtain ⟨probe, hprobe, timeout, htimeout, status, hstatus, h⟩ := h
  cases h
  exact ⟨probe, hprobe, rfl, htimeout, hstatus, rfl, rfl⟩

theorem wholeMillis_timeout (h : item.registration net = .ok r) :
    ∀ t ∈ r.timeout, t.WholeMillis := by
  obtain ⟨-, -, -, ht, -⟩ := registration_ok h
  intro t hr
  rw [Option.mem_def.1 hr] at ht
  unfold readTimeout at ht
  split at ht
  · cases ht
  · split at ht
    · next hd =>
      cases ht
      exact (Duration.read?_eq_some hd).2
    · cases ht

end CheckItem

theorem Registry.addItem_ok {net : Network} {g g' : Registry} {item : CheckItem}
    (h : g.addItem net item = .ok g') : ∃ r, item.registration net = .ok r ∧
      g'.registrations = g.registrations ++ [r] := by
  simp only [addItem, bind_eq_ok_iff] at h
  obtain ⟨r, hr, h⟩ := h
  refine ⟨r, hr, ?_⟩
  rcases g.register_cases r with ⟨-, hg⟩ | ⟨-, -, hg⟩ | ⟨-, -, g'', hg, hregs⟩
  · rw [hg] at h
    cases h
  · rw [hg] at h
    cases h
  · rw [hg] at h
    cases h
    exact hregs

/-- The registry of an accepted manifest holds the registrations of its checks, in order. -/
theorem Manifest.registry_ok {m : Manifest} {net : Network} {g : Registry}
    (h : m.registry net = .ok g) :
    List.Forall₂ (fun item r => item.registration net = .ok r) m.checks g.registrations := by
  have hall : ∀ (items : List CheckItem) (start : Registry),
      items.foldlM (Registry.addItem net) start = .ok g →
      ∃ rs, g.registrations = start.registrations ++ rs ∧
        List.Forall₂ (fun item r => item.registration net = .ok r) items rs := by
    intro items
    -- By induction on the items, whatever has been registered before them.
    induction items with
    | nil =>
      intro start h
      cases h
      exact ⟨[], (List.append_nil _).symm, .nil⟩
    | cons item items ih =>
      intro start h
      rw [List.foldlM_cons, bind_eq_ok_iff] at h
      obtain ⟨next, hnext, h⟩ := h
      obtain ⟨r, hr, hregs⟩ := Registry.addItem_ok hnext
      obtain ⟨rs, hrs, hitems⟩ := ih next h
      refine ⟨r :: rs, ?_, .cons hr hitems⟩
      rw [hrs, hregs, List.append_assoc, List.singleton_append]
  obtain ⟨rs, hrs, hitems⟩ := hall m.checks .empty h
  rw [hrs]
  exact hitems

theorem Manifest.registration_of_mem {m : Manifest} {net : Network} {g : Registry}
    (h : m.registry net = .ok g) {r : Registration} (hr : r ∈ g.registrations) :
    ∃ item ∈ m.checks, item.registration net = .ok r := by
  obtain ⟨i, hi, rfl⟩ := List.getElem_of_mem hr
  have hi' : i < m.checks.length := (registry_ok h).length_eq ▸ hi
  exact ⟨m.checks[i], List.getElem_mem hi', (registry_ok h).get hi' hi⟩

end HealthWatch
