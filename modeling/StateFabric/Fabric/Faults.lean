import StateFabric.Fabric.Run

/-!
# Runs whose writes may fail

`StateFabric.Fabric.Run` executes every request with writes that succeed.  Here a request comes
with what goes wrong with its writes.  A failed append leaves the directory as it was; what the
bytes of an interrupted append do to the files is the subject of `StateFabric.Persistence.Server`.

Unless commits must be durable, a mutation whose append failed is applied and acknowledged all the
same, and the next re-open does not know of it.  When they must be durable, a mutation whose
automatic checkpoint failed is answered with an error although it was applied.  A run is `Lasting`
when neither happens, so that the answers say what became of the requests.
-/

namespace StateFabric

open Transition

/-- What happens to a coordinator, with what goes wrong with its writes. -/
inductive ServerEvent
  | mutation (m : Mutation) (faults : Faults)
  | persist (fault : Option CheckpointFault)
  | shutdown (fault : Option CheckpointFault)
  | reopen (config : FabricConfig)

namespace ServerEvent

/-- Nothing goes wrong with the writes of an event. -/
def faultless : ServerEvent → Bool
  | .mutation _ faults => faults = {}
  | .persist fault | .shutdown fault => fault.isNone
  | .reopen _ => true

/-- What is asked for, whatever goes wrong with the writes. -/
def request : ServerEvent → Event
  | .mutation m _ => .mutation m
  | .persist _ => .persist
  | .shutdown _ => .shutdown
  | .reopen config => .reopen config

end ServerEvent

/-- An event whose writes succeed. -/
def Event.clean : Event → ServerEvent
  | .mutation m => .mutation m {}
  | .persist => .persist none
  | .shutdown => .shutdown none
  | .reopen config => .reopen config

namespace Runtime

/-- The runtime after a mutation some of whose writes fail. -/
def afterFaults (r : Runtime) (m : Mutation) (faults : Faults) : Runtime :=
  (r.mutate (mutationBody m) faults).1

/-- What a mutation answers when some of its writes fail. -/
def answerFaults (r : Runtime) (m : Mutation) (faults : Faults) : Result Response :=
  (r.mutate (mutationBody m) faults).2

/-- The mutation has an effect, and appending it to the directory fails. -/
def appendFails (r : Runtime) (m : Mutation) (faults : Faults) : Bool :=
  r.store.isSome && faults.append.isSome && !(r.effects m).isEmpty

end Runtime

/-- One step of a fabric whose writes may fail. -/
inductive FaultyStep : Runtime → ServerEvent → Runtime → Prop
  | mutation (r : Runtime) (m : Mutation) (faults : Faults) :
      FaultyStep r (.mutation m faults) (r.afterFaults m faults)
  | persist (r : Runtime) (fault : Option CheckpointFault) :
      FaultyStep r (.persist fault) (r.persist fault).1
  | shutdown (r : Runtime) (fault : Option CheckpointFault) :
      FaultyStep r (.shutdown fault) (r.shutdown fault).1
  | reopen {r r' : Runtime} {disk : Directory} {config : FabricConfig}
      (kept : r.store = some disk) (persistent : config.persistenceDirectory ≠ [])
      (opened : openFabric config disk = .ok r') : FaultyStep r (.reopen config) r'

/-- A mutation whose append fails is refused, and one that is applied is not reported to have
failed; whatever is not refused for its append meets a condition. -/
def Lasting (ok : Runtime → Event → Prop) (r : Runtime) : ServerEvent → Prop
  | .mutation m faults =>
    if r.appendFails m faults = true then r.config.requireDurableCommits = true
    else (r.config.requireDurableCommits = true → faults.checkpoint = none) ∧ ok r (.mutation m)
  | .persist _ => ok r .persist
  | .shutdown _ => ok r .shutdown
  | .reopen config => ok r (.reopen config)

instance Lasting.decidable {ok : Runtime → Event → Prop} [∀ r e, Decidable (ok r e)] (r : Runtime)
    (e : ServerEvent) : Decidable (Lasting ok r e) :=
  match e with
  | .mutation m faults => inferInstanceAs (Decidable (if r.appendFails m faults = true
      then r.config.requireDurableCommits = true
      else (r.config.requireDurableCommits = true → faults.checkpoint = none)
        ∧ ok r (.mutation m)))
  | .persist _ => inferInstanceAs (Decidable (ok r .persist))
  | .shutdown _ => inferInstanceAs (Decidable (ok r .shutdown))
  | .reopen config => inferInstanceAs (Decidable (ok r (.reopen config)))

/-- The steps of a run that lasts and whose requests meet a condition. -/
def LastingStep (ok : Runtime → Event → Prop) : Runtime → ServerEvent → Runtime → Prop :=
  Restrict FaultyStep (Lasting ok)

/-- The runtimes that some run that lasts reaches. -/
def LastingRuntime (r : Runtime) : Prop := Reachable Opened (LastingStep fun _ _ => True) r

/-! ## Writes that succeed -/

/-- A step whose writes succeed is a step whose writes may fail. -/
theorem Step.faulty {r r' : Runtime} {e : Event} (h : Step r e r') :
    FaultyStep r e.clean r' := by
  cases h with
  | mutation m => exact .mutation r m {}
  | persist => exact .persist r none
  | shutdown => exact .shutdown r none
  | reopen kept persistent opened => exact .reopen kept persistent opened

/-- A step whose writes succeed lasts. -/
theorem Step.lasting {ok : Runtime → Event → Prop} {r r' : Runtime} {e : Event}
    (h : Restrict Step ok r e r') : LastingStep ok r e.clean r' := by
  refine ⟨h.1.faulty, ?_⟩
  cases e with
  | mutation m =>
    have hsucceeds : r.appendFails m {} = false := by simp [Runtime.appendFails]
    rw [Event.clean, Lasting, hsucceeds, if_neg Bool.false_ne_true]
    exact ⟨fun _ => rfl, h.2⟩
  | persist | shutdown | reopen => exact h.2

/-- A run whose writes succeed is a run that lasts. -/
theorem runs_lasting {ok : Runtime → Event → Prop} {r r' : Runtime}
    (h : Runs (Restrict Step ok) r r') : Runs (LastingStep ok) r r' := by
  refine Relation.ReflTransGen.mono ?_ r r' h
  rintro a b ⟨e, hstep⟩
  exact ⟨e.clean, Step.lasting hstep⟩

/-- What a run whose writes succeed reaches, a run that lasts reaches. -/
theorem reachable_lasting {ok : Runtime → Event → Prop} {r : Runtime}
    (h : Reachable Opened (Restrict Step ok) r) : Reachable Opened (LastingStep ok) r := by
  obtain ⟨r₀, hopened, hrun⟩ := h
  exact ⟨r₀, hopened, runs_lasting hrun⟩

theorem ReachableRuntime.lasting {r : Runtime} (h : ReachableRuntime r) : LastingRuntime r :=
  reachable_lasting (h.restrict fun _ _ => trivial)

/-- A condition on the requests of a run that lasts may be weakened. -/
theorem LastingStep.weaken {ok ok' : Runtime → Event → Prop} (weaker : ∀ r e, ok r e → ok' r e)
    {r r' : Runtime} {e : ServerEvent} (h : LastingStep ok r e r') : LastingStep ok' r e r' := by
  refine ⟨h.1, ?_⟩
  have hlasts := h.2
  cases e with
  | mutation m faults =>
    simp only [Lasting] at hlasts ⊢
    split at hlasts
    · rename_i hfails
      rwa [if_pos hfails]
    · rename_i hsucceeds
      rw [if_neg hsucceeds]
      exact ⟨hlasts.1, weaker _ _ hlasts.2⟩
  | persist | shutdown | reopen => exact weaker _ _ hlasts

end StateFabric
