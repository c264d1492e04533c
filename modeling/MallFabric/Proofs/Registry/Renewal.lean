import MallFabric.Registry.Registrar

/-!
# Renewals that run

A registrar looks at the renewal of a lease through `running?`.  This module
says what each operation of a registrar makes of it, and what happens when a
renewal goes on.
-/

namespace MallFabric
namespace Registry

/-- A renewal that comes no later than its timer is followed by the next one a period
after it was planned. -/
theorem Renewal.again_next
    {renewal : Renewal}
    {now : Instant}
    (due : now ≤ renewal.next.timer) :
    (renewal.again now).next = renewal.next + renewal.period := by
  have fires := renewal.next.timer_lt
  have onTime : ¬ Renewal.lateness < now - renewal.next := by
    unfold Renewal.lateness Duration.ofMillis
    lia
  simp [Renewal.again, onTime]

namespace Registrar

/-- With two milliseconds and more there is room between two renewals: the period is at most
half the span. -/
theorem renewalPeriod_le
    {span : Duration}
    (long : Duration.ofMillis 2 ≤ span) :
    renewalPeriod span + Duration.ofMillis 1 ≤ span := by
  unfold renewalPeriod
  unfold Duration.ofMillis at long ⊢
  lia

/-- With less the next renewal comes a millisecond after the last one. -/
theorem renewalPeriod_of_lt
    {span : Duration}
    (short : span < Duration.ofMillis 2) :
    renewalPeriod span = Duration.ofMillis 1 := by
  unfold renewalPeriod
  unfold Duration.ofMillis at short ⊢
  lia

variable {registrar : Registrar} {now : Instant} {lease other : LeaseId} {renewal : Renewal}

theorem mem_of_running?
    (running : registrar.running? lease = some renewal) :
    renewal ∈ registrar.renewals ∧ renewal.lease = lease ∧ renewal.running = true := by
  unfold running? at running
  have found := List.find?_some running
  rw [Bool.and_eq_true, decide_eq_true_eq] at found
  exact ⟨List.mem_of_find?_eq_some running, found.1, found.2⟩

/-- The renewal of a lease goes on if one is running. -/
theorem isRenewing_eq (registrar : Registrar) (lease : LeaseId) :
    registrar.isRenewing lease = (registrar.running? lease).isSome :=
  List.isSome_find?.symm

theorem isRenewing_of_running?
    (running : registrar.running? lease = some renewal) :
    registrar.isRenewing lease = true := by
  rw [isRenewing_eq, running]
  rfl

/-- No renewal of a lease runs if none was begun for it. -/
theorem running?_eq_none
    (others : ∀ renewal ∈ registrar.renewals, renewal.lease ≠ lease) :
    registrar.running? lease = none := by
  rw [running?, List.find?_eq_none]
  intro renewal present
  simp [others renewal present]

/-- A renewal that begins leaves those of other leases. -/
theorem running?_append
    (registrar : Registrar)
    (link : Link)
    (different : renewal.lease ≠ lease) :
    running? ⟨link, registrar.renewals ++ [renewal]⟩ lease = registrar.running? lease := by
  simp [running?, List.find?_append, different]

/-- The renewal that begins is the one that runs, if there was none. -/
theorem running?_append_self
    (link : Link)
    (others : ∀ before ∈ registrar.renewals, before.lease ≠ renewal.lease)
    (running : renewal.running = true) :
    running? ⟨link, registrar.renewals ++ [renewal]⟩ renewal.lease = some renewal := by
  have none := running?_eq_none others
  unfold running? at none ⊢
  rw [List.find?_append, none]
  simp [running]

section Update

variable {change : Renewal -> Renewal} (keeps : ∀ renewal, (change renewal).lease = renewal.lease)

include keeps

/-- The leases that renewals are for stay the same. -/
theorem mem_update
    (present : renewal ∈ (registrar.update lease change).renewals) :
    ∃ before ∈ registrar.renewals, before.lease = renewal.lease := by
  obtain ⟨before, presentBefore, rfl⟩ := List.mem_map.mp present
  refine ⟨before, presentBefore, ?_⟩
  split
  · exact (keeps before).symm
  · rfl

theorem running?_update_of_ne
    (registrar : Registrar)
    (different : other ≠ lease) :
    (registrar.update lease change).running? other = registrar.running? other := by
  rw [running?, running?, update]
  induction registrar.renewals with
  | nil => rfl
  | cons first rest inductionHypothesis =>
      rw [List.map_cons, List.find?_cons, List.find?_cons, inductionHypothesis]
      by_cases same : first.lease = lease
      · simp [same, keeps, different.symm]
      · simp [same]

theorem running?_update_self
    (goesOn : ∀ renewal, (change renewal).running = renewal.running)
    (registrar : Registrar)
    (lease : LeaseId) :
    (registrar.update lease change).running? lease = (registrar.running? lease).map change := by
  rw [running?, running?, update]
  induction registrar.renewals with
  | nil => rfl
  | cons first rest inductionHypothesis =>
      rw [List.map_cons, List.find?_cons, List.find?_cons, inductionHypothesis]
      by_cases same : first.lease = lease
      · cases running : first.running with
        | true => simp [same, keeps, goesOn, running]
        | false => simp [same, keeps, goesOn, running]
      · simp [same]

end Update

theorem running?_stop_of_ne
    (registrar : Registrar)
    (different : other ≠ lease) :
    (registrar.stop lease).running? other = registrar.running? other := by
  apply running?_update_of_ne
  · intro renewal
    rfl
  · exact different

@[simp] theorem running?_stop_self
    (registrar : Registrar)
    (lease : LeaseId) :
    (registrar.stop lease).running? lease = none := by
  rw [running?, List.find?_eq_none]
  intro renewal present
  obtain ⟨before, -, rfl⟩ := List.mem_map.mp present
  by_cases same : before.lease = lease
  · simp [same]
  · simp [same]

theorem mem_stop
    (present : renewal ∈ (registrar.stop lease).renewals) :
    ∃ before ∈ registrar.renewals, before.lease = renewal.lease := by
  refine mem_update ?_ present
  intro before
  rfl

/-! ## Going on -/

/-- Whether a renewal that goes on renews its lease, if it tries. -/
def tries (registrar : Registrar) (now : Instant) (lease : LeaseId) : Option Bool :=
  match registrar.running? lease with
  | none => none
  | some renewal =>
      if now < renewal.next then none else some (registrar.link.keepAlive now lease).1.isOk

/-- What comes of the renewal of a lease when it goes on, and whether its lease was
renewed if it tried. -/
inductive Wakes (registrar : Registrar) (now : Instant) (lease : LeaseId) :
    Registrar -> Option Bool -> Prop where
  /-- It does not run, or is not due. -/
  | idle : Wakes registrar now lease registrar none
  | renewed {renewal span link}
      (running : registrar.running? lease = some renewal)
      (due : renewal.next ≤ now)
      (answer : registrar.link.keepAlive now lease = (.ok span, link)) :
      Wakes registrar now lease
        ({ registrar with link }.update lease fun renewal => renewal.again now) (some true)
  | refused {renewal fault link}
      (running : registrar.running? lease = some renewal)
      (due : renewal.next ≤ now)
      (answer : registrar.link.keepAlive now lease = (.error fault, link)) :
      Wakes registrar now lease ({ registrar with link }.stop lease) (some false)

/-- A renewal goes on in one of these ways. -/
theorem wakes_wake
    (registrar : Registrar)
    (now : Instant)
    (lease : LeaseId) :
    Wakes registrar now lease (registrar.wake now lease).1 (registrar.tries now lease) := by
  unfold wake tries
  cases running : registrar.running? lease with
  | none => exact .idle
  | some renewal =>
      by_cases early : now < renewal.next
      · simp only [early, if_true]
        exact .idle
      · have due : renewal.next ≤ now := Nat.le_of_not_lt early
        simp only [early, if_false, renew]
        obtain ⟨⟨result, link⟩, answer⟩ :
            ∃ answer, registrar.link.keepAlive now lease = answer := ⟨_, rfl⟩
        rw [answer]
        cases result with
        | ok span => exact .renewed running due answer
        | error fault => exact .refused running due answer

namespace Wakes

variable {after : Registrar} {tried : Option Bool}

/-- The renewal of a lease leaves those of other leases. -/
theorem running?_of_ne
    (wakes : Wakes registrar now lease after tried)
    (different : other ≠ lease) :
    after.running? other = registrar.running? other := by
  cases wakes with
  | idle => rfl
  | renewed running due answer =>
      exact running?_update_of_ne (fun renewal => renewal.again_lease now) _ different
  | refused running due answer => exact running?_stop_of_ne _ different

/-- It begins no renewal. -/
theorem mem_renewals
    (wakes : Wakes registrar now lease after tried)
    (present : renewal ∈ after.renewals) :
    ∃ before ∈ registrar.renewals, before.lease = renewal.lease := by
  cases wakes with
  | idle => exact ⟨renewal, present, rfl⟩
  | @renewed current span link running due answer =>
      have renews : renewal ∈ (Registrar.update { registrar with link } lease _).renewals := present
      exact mem_update (fun before => before.again_lease now) renews
  | refused running due answer => exact mem_stop present

/-- A renewal that was refused runs no longer. -/
theorem running?_of_refused
    (wakes : Wakes registrar now lease after (some false)) :
    after.running? lease = none := by
  cases wakes with
  | refused running due answer => exact running?_stop_self _ lease

/-- Where the store keeps the lease alive, a renewal waits or plans the next one. -/
theorem eq_of_answer
    {span : Duration}
    {link : Link}
    (wakes : Wakes registrar now lease after tried)
    (answer : registrar.link.keepAlive now lease = (.ok span, link)) :
    after = registrar ∨
      ∃ renewal, registrar.running? lease = some renewal ∧ renewal.next ≤ now ∧
        after = { registrar with link }.update lease fun renewal => renewal.again now := by
  cases wakes with
  | idle => exact Or.inl rfl
  | renewed running due renewed =>
      cases answer.symm.trans renewed
      exact Or.inr ⟨_, running, due, rfl⟩
  | refused running due refused => cases answer.symm.trans refused

/-- A renewal that does not run does not try. -/
theorem eq_of_running?_eq_none
    (wakes : Wakes registrar now lease after tried)
    (stopped : registrar.running? lease = none) :
    after = registrar ∧ tried = none := by
  cases wakes with
  | idle => exact ⟨rfl, rfl⟩
  | renewed running due answer => cases stopped.symm.trans running
  | refused running due answer => cases stopped.symm.trans running

end Wakes
end Registrar
end Registry
end MallFabric
