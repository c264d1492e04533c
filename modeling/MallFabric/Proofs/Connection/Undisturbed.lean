import MallFabric.Connection.Dialler
import MallFabric.Proofs.Connection.Apart

/-!
# Names do not disturb each other

Callers come for the connections of many names, go on, are given up and wait for
their dials, while time passes.  How the dials of a name go is laid down for that name
alone.  Then a run, as the callers of one name see it, is the run in which only they
came: they get the same results at the same instants, after as many dials.
-/

namespace MallFabric

variable {Conn : Type}

/-- How the dials of each name go, the first, the second and so on: the address that
is discovered, if any discovery is done, and when and how connecting ends. -/
structure DialScript (Conn : Type) where
  discover : Option (Instant -> String -> Nat -> Except Fault String)
  connect : Instant -> Endpoint -> Nat -> Timed (Except Fault Conn)

/-- Dialling by a script, for which the dials of each name are counted. -/
def DialScript.dialler (script : DialScript Conn) : Dialler Conn (String -> Nat) where
  discover := script.discover.map fun discover now name made =>
    (discover now name (made name), made)
  connect := fun now endpoint made => (script.connect now endpoint (made endpoint.name), made)

/-- What may happen next around a pool. -/
inductive TimedPoolEvent where
  /-- A caller comes for the connection that it wants. -/
  | come (id : CallerId)
  /-- A caller takes its next step, or finds its dial ended. -/
  | goOn (id : CallerId)
  /-- A caller is given up. -/
  | abort (id : CallerId)
  /-- Time passes. -/
  | pass (span : Duration)
deriving DecidableEq, Repr

/-- Whether an event concerns a name.  Time passes for all of them. -/
def TimedPoolEvent.concerns (wants : CallerId -> String) (name : String) : TimedPoolEvent -> Bool
  | come id => wants id = name
  | goOn id => wants id = name
  | abort id => wants id = name
  | pass _ => true

/-- What a caller was told, and when. -/
structure Receipt (Conn : Type) where
  caller : CallerId
  instant : Instant
  result : Except Fault Conn

/-- A pool with the dials that are under way and what its callers were told. -/
structure TimedPool (Conn : Type) where
  clock : Instant
  pool : Pool Conn
  /-- When and how each dial ends. -/
  dials : Assoc CallerId (Timed (Except Fault Conn))
  /-- How many dials were begun for each name. -/
  attempts : String -> Nat
  /-- What callers were told, in order. -/
  receipts : List (Receipt Conn)

namespace TimedPool

/-- A pool that nobody has used. -/
def start (endpoints : List Endpoint) (script : DialScript Conn) : TimedPool Conn where
  clock := 0
  pool := Pool.new endpoints script.discover.isSome
  dials := []
  attempts := fun _ => 0
  receipts := []

/-- A caller begins to dial. -/
def dial (run : TimedPool Conn) (script : DialScript Conn) (id : CallerId) (name : String) :
    TimedPool Conn :=
  { run with
    dials := run.dials.insert id (script.dialler.dial run.pool run.clock name run.attempts).1
    attempts := fun other => if other = name then run.attempts other + 1 else run.attempts other }

/-- Let a caller take a step.  One that dials goes on when its dial has ended. -/
def move (run : TimedPool Conn) (script : DialScript Conn) (id : CallerId) : TimedPool Conn :=
  match run.dials.find? id with
  | some ⟨due, result⟩ =>
      if due ≤ run.clock then
        { run with pool := (run.pool.finishDial id result).1, dials := run.dials.erase id }
      else run
  | none =>
      match run.pool.step id with
      | (next, .dial name) => { run with pool := next }.dial script id name
      | (next, _) => { run with pool := next }

/-- What a caller is told by a change of the pool. -/
def told (before after : Pool Conn) (now : Instant) (id : CallerId) : List (Receipt Conn) :=
  match before.result? id, after.result? id with
  | none, some result => [⟨id, now, result⟩]
  | _, _ => []

/-- Let a caller take a step, and note what it is told. -/
def goOn (run : TimedPool Conn) (script : DialScript Conn) (id : CallerId) : TimedPool Conn :=
  let moved := run.move script id
  { moved with receipts := run.receipts ++ told run.pool moved.pool run.clock id }

/-- Let a caller come for the connection that it wants, once. -/
def come (run : TimedPool Conn) (wants : CallerId -> String) (id : CallerId) : TimedPool Conn :=
  if run.pool.callers.contains id then run
  else { run with pool := run.pool.arrive id (wants id) }

/-- Carry out an event. -/
def step (script : DialScript Conn) (wants : CallerId -> String) (run : TimedPool Conn) :
    TimedPoolEvent -> TimedPool Conn
  | .come id => run.come wants id
  | .goOn id => run.goOn script id
  | .abort id =>
      { run with pool := (run.pool.abort id).1, dials := run.dials.erase id }
  | .pass span => { run with clock := run.clock + span }

/-- A run goes on. -/
def resume (script : DialScript Conn) (wants : CallerId -> String) (run : TimedPool Conn)
    (events : List TimedPoolEvent) : TimedPool Conn :=
  events.foldl (step script wants) run

/-- Nobody can do anything before a span has passed: no caller has a step to take,
and no dial ends earlier. -/
structure Rests (script : DialScript Conn) (run : TimedPool Conn) (span : Duration) : Prop where
  idle : ∀ id, run.goOn script id = run
  undue : ∀ id dial, run.dials.find? id = some dial -> run.clock + span ≤ dial.due

/-- In a prompt run time passes only while nobody can do anything. -/
def Prompt (script : DialScript Conn) (wants : CallerId -> String) (run : TimedPool Conn) :
    List TimedPoolEvent -> Prop
  | [] => True
  | event :: rest =>
      (∀ span, event = .pass span -> run.Rests script span) ∧
        (run.step script wants event).Prompt script wants rest

/-! ## A run as one name sees it -/

/-- What the callers of one name see. -/
def only (run : TimedPool Conn) (wants : CallerId -> String) (name : String) :
    TimedPool Conn where
  clock := run.clock
  pool := run.pool.only wants name
  dials := run.dials.restrict (Pool.isFor wants name)
  attempts := fun other => if other = name then run.attempts name else 0
  receipts := run.receipts.filter fun receipt => Pool.isFor wants name receipt.caller

variable {script : DialScript Conn} {wants : CallerId -> String} {name : String}
variable {run : TimedPool Conn} {id : CallerId}

theorem only_start
    (endpoints : List Endpoint)
    (script : DialScript Conn)
    (wants : CallerId -> String)
    (name : String) :
    (start endpoints script).only wants name = start endpoints script := by
  simp only [only, start, ite_self]
  rfl

/-- How a dial goes depends on the dials for the same name before it, and on no
other ones. -/
theorem dial_congr
    {left right : Pool Conn}
    (endpoints : left.endpoints = right.endpoints)
    {first second : String -> Nat}
    (made : first name = second name)
    (now : Instant) :
    (script.dialler.dial left now name first).1 =
      (script.dialler.dial right now name second).1 := by
  unfold Dialler.dial Pool.endpoint? DialScript.dialler
  rw [endpoints]
  cases right.endpoints.find? name with
  | some address => simp only [Option.map_some, made]
  | none =>
      cases script.discover with
      | none => rfl
      | some discover =>
          simp only [Option.map_none, Option.map_some, made]
          cases discover now name (second name) with
          | ok address => simp only [made]
          | error fault => rfl

theorem only_dial
    (own : wants id = name) :
    (run.dial script id name).only wants name = (run.only wants name).dial script id name := by
  have ends : (script.dialler.dial run.pool run.clock name run.attempts).1 =
      (script.dialler.dial (run.only wants name).pool run.clock name
        (run.only wants name).attempts).1 :=
    dial_congr rfl (by simp [only]) run.clock
  have attempts : (fun other => if other = name then
        (run.dial script id name).attempts name else 0) =
      fun other => if other = name then
        (run.only wants name).attempts other + 1 else (run.only wants name).attempts other := by
    funext other
    by_cases same : other = name
    · simp [same, dial, only]
    · simp [same, only]
  have dials : (run.dial script id name).dials.restrict (Pool.isFor wants name) =
      (run.only wants name).dials.insert id
        (script.dialler.dial run.pool run.clock name run.attempts).1 :=
    Assoc.restrict_insert _ (Pool.isFor_of_eq own) _
  rw [only, attempts, dials, ends]
  rfl

theorem only_dial_of_ne
    (foreign : wants id ≠ name)
    {other : String}
    (different : other ≠ name) :
    (run.dial script id other).only wants name = run.only wants name := by
  have dials : (run.dial script id other).dials.restrict (Pool.isFor wants name) =
      run.dials.restrict (Pool.isFor wants name) :=
    Assoc.restrict_insert_of_not _ (Pool.isFor_of_ne foreign) _
  have attempts : (run.dial script id other).attempts name = run.attempts name := by
    simp [dial, different.symm]
  rw [only, attempts, dials]
  rfl

/-- A caller dials for the name that it wants. -/
theorem eq_of_dial
    (parted : run.pool.Parted wants)
    {next : Pool Conn}
    {called : String}
    (stepped : run.pool.step id = (next, .dial called)) :
    called = wants id := by
  have moved := run.pool.move_step id
  rw [stepped] at moved
  obtain ⟨caller, found, rfl⟩ := moved.dials
  exact parted.names id caller found

/-- A caller of the name takes the same step where only its name is asked for. -/
theorem only_move
    (parted : run.pool.Parted wants)
    (script : DialScript Conn)
    (own : wants id = name) :
    (run.move script id).only wants name = (run.only wants name).move script id := by
  have dials : (run.only wants name).dials.find? id = run.dials.find? id :=
    Assoc.find?_restrict _ (Pool.isFor_of_eq own)
  have clock : (run.only wants name).clock = run.clock := rfl
  unfold move
  rw [dials, clock]
  cases run.dials.find? id with
  | some dial =>
      obtain ⟨due, result⟩ := dial
      by_cases ended : due ≤ run.clock
      · have finished := parted.finishDial_only own result
        have erased := Assoc.restrict_erase run.dials (Pool.isFor wants name) id
        simp only [ended, if_true, only, ← finished, erased]
      · simp only [ended, if_false]
  | none =>
      have stepped : (run.only wants name).pool.step id =
          ((run.pool.step id).1.only wants name, (run.pool.step id).2) := parted.step_only own
      rw [stepped]
      obtain ⟨⟨next, progress⟩, step⟩ : ∃ stepped, run.pool.step id = stepped := ⟨_, rfl⟩
      rw [step]
      cases progress with
      | moved => rfl
      | blocked => rfl
      | dial called =>
          rw [eq_of_dial parted step, own]
          exact only_dial own

/-- The step of a caller of another name is not seen. -/
theorem only_move_of_ne
    (parted : run.pool.Parted wants)
    (script : DialScript Conn)
    (foreign : wants id ≠ name) :
    (run.move script id).only wants name = run.only wants name := by
  unfold move
  cases run.dials.find? id with
  | some dial =>
      obtain ⟨due, result⟩ := dial
      by_cases ended : due ≤ run.clock
      · have finished := parted.finishDial_only_of_ne foreign result
        have erased := Assoc.restrict_erase_of_not run.dials (Pool.isFor_of_ne foreign)
        simp only [ended, if_true, only, finished, erased]
      · simp only [ended, if_false]
  | none =>
      have stepped := parted.step_only_of_ne foreign
      obtain ⟨⟨next, progress⟩, step⟩ : ∃ stepped, run.pool.step id = stepped := ⟨_, rfl⟩
      rw [step] at stepped ⊢
      have unseen : ({ run with pool := next } : TimedPool Conn).only wants name =
          run.only wants name := by
        simp only [only, stepped]
      cases progress with
      | moved => exact unseen
      | blocked => exact unseen
      | dial called =>
          have different : called ≠ name := by
            rw [eq_of_dial parted step]
            exact foreign
          exact (only_dial_of_ne foreign different).trans unseen

theorem told_only
    (own : wants id = name)
    (before after : Pool Conn)
    (now : Instant) :
    told (before.only wants name) (after.only wants name) now id = told before after now id := by
  unfold told
  rw [Pool.result?_only own, Pool.result?_only own]

/-- Whoever is told something by a step took it. -/
theorem caller_of_mem_told
    {before after : Pool Conn}
    {now : Instant}
    {receipt : Receipt Conn}
    (present : receipt ∈ told before after now id) :
    receipt.caller = id := by
  unfold told at present
  split at present
  · rw [List.mem_singleton.mp present]
  · cases present

theorem only_goOn
    (parted : run.pool.Parted wants)
    (own : wants id = name) :
    (run.goOn script id).only wants name = (run.only wants name).goOn script id := by
  have moved := only_move parted script own
  have alike := told_only own run.pool (run.move script id).pool run.clock
  have kept : (told run.pool (run.move script id).pool run.clock id).filter
      (fun receipt => Pool.isFor wants name receipt.caller) =
        TimedPool.told run.pool (run.move script id).pool run.clock id := by
    refine List.filter_eq_self.mpr fun receipt present => ?_
    rw [caller_of_mem_told present]
    exact Pool.isFor_of_eq own
  have receipts : ((run.goOn script id).receipts.filter fun receipt =>
      Pool.isFor wants name receipt.caller) =
        (run.only wants name).receipts ++
          told (run.only wants name).pool ((run.only wants name).move script id).pool
            (run.only wants name).clock id := by
    rw [← moved]
    exact (List.filter_append ..).trans (congrArg _ (kept.trans alike.symm))
  calc (run.goOn script id).only wants name
      = { (run.move script id).only wants name with
            receipts := (run.goOn script id).receipts.filter fun receipt =>
              Pool.isFor wants name receipt.caller } := rfl
    _ = (run.only wants name).goOn script id := by
      rw [receipts, moved]
      rfl

theorem only_goOn_of_ne
    (parted : run.pool.Parted wants)
    (foreign : wants id ≠ name) :
    (run.goOn script id).only wants name = run.only wants name := by
  have moved := only_move_of_ne parted script foreign
  have receipts : ((run.goOn script id).receipts.filter fun receipt =>
      Pool.isFor wants name receipt.caller) = (run.only wants name).receipts := by
    have unheard : (told run.pool (run.move script id).pool run.clock id).filter
        (fun receipt => Pool.isFor wants name receipt.caller) = [] := by
      refine List.filter_eq_nil_iff.mpr fun receipt present => ?_
      rw [caller_of_mem_told present, Pool.isFor_of_ne foreign]
      exact Bool.false_ne_true
    exact (List.filter_append ..).trans ((congrArg _ unheard).trans (List.append_nil _))
  calc (run.goOn script id).only wants name
      = { (run.move script id).only wants name with
            receipts := (run.goOn script id).receipts.filter fun receipt =>
              Pool.isFor wants name receipt.caller } := rfl
    _ = run.only wants name := by rw [receipts, moved]

theorem only_come
    (own : wants id = name) :
    (run.come wants id).only wants name = (run.only wants name).come wants id := by
  have known : (run.only wants name).pool.callers.contains id =
      run.pool.callers.contains id := by
    rw [Assoc.contains, Assoc.contains, only, Pool.find?_callers_only _ own, Option.isSome_map]
  have arrived : (run.pool.setPhase id (wants id) .arriving).only wants name =
      (run.pool.only wants name).setPhase id (wants id) .arriving :=
    Pool.only_setPhase own (wants id) .arriving
  unfold come Pool.arrive
  rw [known]
  split
  · rfl
  · simp only [only, arrived]

theorem only_come_of_ne
    (foreign : wants id ≠ name) :
    (run.come wants id).only wants name = run.only wants name := by
  have arrived : (run.pool.setPhase id (wants id) .arriving).only wants name =
      run.pool.only wants name :=
    Pool.only_setPhase_of_ne foreign (wants id) .arriving
  unfold come Pool.arrive
  split
  · rfl
  · simp only [only, arrived]

/-! ## Runs -/

/-- An event that concerns the name does the same where nothing else happens. -/
theorem only_step
    (parted : run.pool.Parted wants)
    {event : TimedPoolEvent}
    (concerned : event.concerns wants name = true) :
    (run.step script wants event).only wants name =
      (run.only wants name).step script wants event := by
  cases event with
  | pass span => rfl
  | goOn id => exact only_goOn parted (of_decide_eq_true concerned)
  | come id => exact only_come (of_decide_eq_true concerned)
  | abort id =>
      have own : wants id = name := of_decide_eq_true concerned
      have left := parted.abort_only own
      have erased := Assoc.restrict_erase run.dials (Pool.isFor wants name) id
      simp only [step, only, ← left, erased]

/-- Any other event is not seen. -/
theorem only_step_of_not
    (parted : run.pool.Parted wants)
    {event : TimedPoolEvent}
    (unconcerned : event.concerns wants name = false) :
    (run.step script wants event).only wants name = run.only wants name := by
  cases event with
  | pass span => cases unconcerned
  | goOn id => exact only_goOn_of_ne parted (of_decide_eq_false unconcerned)
  | come id => exact only_come_of_ne (of_decide_eq_false unconcerned)
  | abort id =>
      have foreign : wants id ≠ name := of_decide_eq_false unconcerned
      have left := parted.abort_only_of_ne foreign
      have erased := Assoc.restrict_erase_of_not run.dials (Pool.isFor_of_ne foreign)
      simp only [step, only, left, erased]

theorem pool_move_parted
    (parted : run.pool.Parted wants)
    (script : DialScript Conn)
    (id : CallerId) :
    (run.move script id).pool.Parted wants := by
  unfold move
  cases run.dials.find? id with
  | some dial =>
      obtain ⟨due, result⟩ := dial
      by_cases ended : due ≤ run.clock
      · simp only [ended, if_true]
        exact parted.finishDial id result
      · simp only [ended, if_false]
        exact parted
  | none =>
      have stepped := parted.step id
      obtain ⟨⟨next, progress⟩, step⟩ : ∃ stepped, run.pool.step id = stepped := ⟨_, rfl⟩
      rw [step] at stepped ⊢
      cases progress with
      | _ => exact stepped

/-- Every event keeps the names apart. -/
theorem parted_step
    (parted : run.pool.Parted wants)
    (script : DialScript Conn)
    (event : TimedPoolEvent) :
    (run.step script wants event).pool.Parted wants := by
  cases event with
  | pass span => exact parted
  | goOn id => exact pool_move_parted parted script id
  | abort id => exact parted.abort id
  | come id =>
      unfold step come
      cases known : run.pool.callers.find? id with
      | some caller => simpa [Assoc.contains, known] using parted
      | none => simpa [Assoc.contains, known] using parted.arrive known

/-- What one name sees of a run is the run in which nothing else happens. -/
theorem only_resume
    (parted : run.pool.Parted wants)
    (events : List TimedPoolEvent) :
    (run.resume script wants events).only wants name =
      (run.only wants name).resume script wants (events.filter (·.concerns wants name)) := by
  induction events generalizing run with
  | nil => rfl
  | cons event rest inductionHypothesis =>
      have later := inductionHypothesis (parted_step parted script event)
      cases concerned : event.concerns wants name with
      | true =>
          rw [only_step parted concerned] at later
          rw [List.filter_cons_of_pos concerned]
          exact later
      | false =>
          have skipped : ¬ event.concerns wants name = true := by simp [concerned]
          rw [only_step_of_not parted concerned] at later
          rw [List.filter_cons_of_neg skipped]
          exact later

/-! ## Promptness -/

/-- A caller that is not there can do nothing. -/
theorem goOn_of_absent
    (script : DialScript Conn)
    (absent : run.pool.callers.find? id = none)
    (dialless : run.dials.find? id = none) :
    run.goOn script id = run := by
  have stays : run.move script id = run := by
    simp only [move, dialless, Pool.step, absent]
  have silent : run.pool.result? id = none := by
    simp only [Pool.result?, absent]
  simp only [goOn, stays, told, silent, List.append_nil]

/-- Where nobody can do anything, the callers of one name cannot either. -/
theorem Rests.only
    {span : Duration}
    (rests : run.Rests script span)
    (parted : run.pool.Parted wants)
    (name : String) :
    (run.only wants name).Rests script span where
  idle := by
    intro id
    by_cases own : wants id = name
    · rw [← only_goOn parted own, rests.idle id]
    · refine goOn_of_absent script (Pool.find?_callers_only_of_ne own) ?_
      exact Assoc.find?_restrict_of_not _ (Pool.isFor_of_ne own)
  undue := by
    intro id dial found
    by_cases own : wants id = name
    · exact rests.undue id dial ((Assoc.find?_restrict _ (Pool.isFor_of_eq own)).symm.trans found)
    · have missing := Assoc.find?_restrict_of_not run.dials (Pool.isFor_of_ne own)
      cases missing.symm.trans found

theorem Prompt.only
    (parted : run.pool.Parted wants)
    {events : List TimedPoolEvent}
    (prompt : run.Prompt script wants events)
    (name : String) :
    (run.only wants name).Prompt script wants (events.filter (·.concerns wants name)) := by
  induction events generalizing run with
  | nil => trivial
  | cons event rest inductionHypothesis =>
      obtain ⟨now, next⟩ := prompt
      have later := inductionHypothesis (parted_step parted script event) next
      cases concerned : event.concerns wants name with
      | true =>
          rw [List.filter_cons_of_pos concerned]
          refine ⟨fun span passes => (now span passes).only parted name, ?_⟩
          rw [← only_step parted concerned]
          exact later
      | false =>
          have skipped : ¬ event.concerns wants name = true := by simp [concerned]
          rw [List.filter_cons_of_neg skipped, ← only_step_of_not parted concerned]
          exact later

/-- Services do not disturb each other.  If everything that concerns other names is
taken out of a run, the callers of a name get the same results in the same order and at
the same instants, and as many dials are made for it.  What is left is as prompt as
the run was: nobody had to wait for what was taken out. -/
theorem undisturbed_by_other_names
    (endpoints : List Endpoint)
    (script : DialScript Conn)
    (wants : CallerId -> String)
    (name : String)
    (events : List TimedPoolEvent) :
    let own := events.filter (·.concerns wants name)
    let whole := (start endpoints script).resume script wants events
    let alone := (start endpoints script).resume script wants own
    (alone.receipts = whole.receipts.filter fun receipt => wants receipt.caller = name) ∧
      alone.attempts name = whole.attempts name ∧
      ((start endpoints script).Prompt script wants events ->
        (start endpoints script).Prompt script wants own) := by
  intro own whole alone
  have parted : (start endpoints script).pool.Parted wants := Pool.parted_new _ _ wants
  have seen : whole.only wants name = alone :=
    (only_resume parted events).trans (by rw [only_start])
  refine ⟨?_, ?_, fun prompt => ?_⟩
  · rw [← seen]
    rfl
  · rw [← seen]
    exact if_pos rfl
  · have kept := Prompt.only parted prompt name
    rw [only_start] at kept
    exact kept

/-- While one service is still being dialled, another one is reached at the second
attempt. -/
example :
    let script : DialScript Nat :=
      ⟨none, fun now endpoint made =>
        if endpoint.name = "cart" then ⟨now + 1000, .ok 1⟩
        else if made = 0 then ⟨now + 2, .error .cancelled⟩ else ⟨now + 3, .ok 2⟩⟩
    let wants : CallerId -> String := fun id => if id = 0 then "cart" else "orders"
    let run := (start [⟨"cart", "a:1"⟩, ⟨"orders", "b:1"⟩] script).resume script wants
      ((List.range 3).map .come ++ (List.replicate 4 [.goOn 0, .goOn 1, .goOn 2]).flatten ++
        [.pass 2, .goOn 1, .goOn 2, .pass 3, .goOn 2])
    run.receipts.map (fun receipt => (receipt.caller, receipt.instant, receipt.result.toOption)) =
      [(1, 2, none), (2, 5, some 2)] ∧ run.attempts "orders" = 2 := by
  decide

end TimedPool
end MallFabric
