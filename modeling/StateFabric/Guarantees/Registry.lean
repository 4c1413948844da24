import StateFabric.Coordinator.Registry
import StateFabric.Guarantees.Sessions

/-!
# Whom the registry names

The registry of sessions names the newest open session of a cluster in every run in which a session
ends only when it is not the newest of its cluster or is its only one, and the registry is cleared
only when no session of the cluster is open.  The coordinator does not see to either: a thread that
ends erases its cluster, although another session of the cluster may stand there by then.
-/

namespace StateFabric

open Transition OrderedMap Scenario

variable {s : Nat} {old connection new : Connection} {phase : Phase}

/-- The session is one of the cluster, open and entered into the registry. -/
def Connection.holds (connection : Connection) (c : ClusterId) : Bool :=
  connection.session.isAgent && connection.session.clusterId == c && connection.phase.isEnrolled

namespace Coordinator

variable {co co' : Coordinator} {e : SessionEvent}

/-- The open sessions of a cluster that were entered into the registry, the newest first. -/
def enrolled (co : Coordinator) (c : ClusterId) : List Nat :=
  co.history.filter fun s => co.connections[s]?.any (·.holds c)

/-- While a cluster has open sessions, the registry names the newest. -/
def Current (co : Coordinator) : Prop :=
  ∀ c : ClusterId, co.enrolled c ≠ [] → co.agents[c]? = (co.enrolled c).head?

/-! ## Well-formed coordinators -/

/-- What holds of a connection, given whether it was entered into the registry. -/
structure Consistent (entered : Prop) (connection : Connection) : Prop where
  named : connection.session.isAgent = true → connection.session.clusterId.valid = true
  unnamed : connection.session.isAgent = false → connection.session.clusterId = {}
  silent : connection.phase = .accepted → connection.session.isAgent = false
  accepted : connection.phase = .registered → connection.session.isAgent = true
  past : entered → connection.phase ≠ .accepted ∧ connection.phase ≠ .registered
  enrolled : connection.session.isAgent = true → connection.phase.isEnrolled = true → entered

/-- Every connection is consistent, and only connections were entered into the registry. -/
structure WellFormed (co : Coordinator) : Prop where
  consistent : ∀ {s : Nat} {connection : Connection}, co.connections[s]? = some connection →
    Consistent (s ∈ co.history) connection
  known : ∀ s ∈ co.history, s < co.connections.length

theorem onPhase_eq_some {step : Connection → Coordinator} :
    co.onPhase s phase step = some co' ↔ ∃ connection, co.connections[s]? = some connection
      ∧ connection.phase = phase ∧ step connection = co' := by
  unfold onPhase
  cases co.connections[s]? with
  | none => simp
  | some =>
    simp only [Option.bind_some, Option.ite_none_right_eq_some, Option.some.injEq,
      exists_eq_left']

theorem getElem?_set_of_some {connections : List Connection} (h : connections[s]? = some old)
    (new : Connection) (x : Nat) :
    (connections.set s new)[x]? = if s = x then some new else connections[x]? := by
  obtain ⟨hlt, -⟩ := List.getElem?_eq_some_iff.mp h
  rw [List.getElem?_set]
  simp [hlt]

theorem WellFormed.set (wf : co.WellFormed) (h : co.connections[s]? = some old)
    (consistent : Consistent (s ∈ co.history) new) :
    ({ co with connections := co.connections.set s new } : Coordinator).WellFormed where
  consistent {x connection} hx := by
    rw [getElem?_set_of_some h] at hx
    split at hx
    · rename_i heq
      subst heq
      obtain rfl := Option.some.inj hx
      exact consistent
    · exact wf.consistent hx
  known x hx := by
    rw [List.length_set]
    exact wf.known x hx

theorem WellFormed.of_eq (wf : co.WellFormed) (connections : co'.connections = co.connections)
    (history : co'.history = co.history) : co'.WellFormed where
  consistent {s connection} hs := by
    rw [history]
    rw [connections] at hs
    exact wf.consistent hs
  known := by
    rw [history, connections]
    exact wf.known

/-- A connection that goes on to a phase beyond its registration stays consistent, if it was
entered into the registry when the phase says so. -/
theorem Consistent.move {before entered : Prop} (h : Consistent before connection)
    (past : phase ≠ .accepted ∧ phase ≠ .registered)
    (enrolled : connection.session.isAgent = true → phase.isEnrolled = true → entered) :
    Consistent entered { connection with phase := phase } where
  named := h.named
  unnamed := h.unnamed
  silent hphase := absurd hphase past.1
  accepted hphase := absurd hphase past.2
  past _ := past
  enrolled := enrolled

theorem WellFormed.move (wf : co.WellFormed) (h : co.connections[s]? = some connection)
    (past : phase ≠ .accepted ∧ phase ≠ .registered)
    (enrolled : phase.isEnrolled = true → connection.phase.isEnrolled = true) :
    (co.move s connection phase).WellFormed :=
  wf.set h ((wf.consistent h).move past fun hagent hphase =>
    (wf.consistent h).enrolled hagent (enrolled hphase))

/-- The session after a HELLO is as before, or that of an agent of a valid cluster. -/
theorem session_of_hello {r : Runtime} {session session' : Session} {peer : Text} {frame : Frame}
    {reply : Frame}
    (h : (handleAgentHello r session peer frame).2 = .ok (session', reply)) :
    session' = session ∨ session'.isAgent = true ∧ session'.clusterId.valid = true := by
  unfold handleAgentHello at h
  split at h
  · cases h
  · rename_i hello hread
    simp only at h
    split at h
    · obtain ⟨rfl, -⟩ := Prod.mk.inj (Except.ok.inj h)
      exact .inl rfl
    · rename_i record hregistered
      obtain ⟨rfl, -⟩ := Prod.mk.inj (Except.ok.inj h)
      refine .inr ⟨rfl, ?_⟩
      unfold Runtime.mutate at hregistered
      split at hregistered
      · cases hregistered
      · split at hregistered
        · cases hregistered
        · rename_i outcome hbody
          rw [registerCluster, rejectIf_bind_eq_ok] at hbody
          simpa [HelloPayload.registration] using hbody.1

/-- A receive that fails moves its connection to a phase in which it is not enrolled. -/
theorem hangUp_moves (h : co.Step (.hangUp s) co') :
    ∃ connection phase, co.connections[s]? = some connection ∧ phase.isEnrolled = false
      ∧ (phase = .released ∨ phase = .leaving) ∧ co' = co.move s connection phase := by
  obtain ⟨connection, hs, hnext⟩ := Option.bind_eq_some_iff.mp h
  split at hnext
  · exact ⟨connection, _, hs, rfl, .inl rfl, (Option.some.inj hnext).symm⟩
  · exact ⟨connection, _, hs, rfl, .inl rfl, (Option.some.inj hnext).symm⟩
  · exact ⟨connection, _, hs, rfl, .inr rfl, (Option.some.inj hnext).symm⟩
  · cases hnext

/-- Every step keeps the coordinator well formed. -/
theorem WellFormed.step (wf : co.WellFormed) (h : co.Step e co') : co'.WellFormed := by
  cases e with
  | accept peer =>
    obtain rfl := Option.some.inj h
    refine ⟨fun {s connection} hs => ?_, fun s hs => ?_⟩
    · rcases Nat.lt_or_ge s co.connections.length with hlt | hge
      · rw [List.getElem?_append_left hlt] at hs
        exact wf.consistent hs
      · rw [List.getElem?_append_right hge] at hs
        obtain rfl : connection = { peer := peer } := by
          have hmem := List.mem_of_getElem? hs
          simpa using hmem
        have hnot : s ∉ co.history := fun hmem => absurd (wf.known s hmem) (by omega)
        exact ⟨by simp, fun _ => rfl, fun _ => rfl, by simp, fun hmem => absurd hmem hnot, by simp⟩
    · rw [List.length_append]
      have hlt := wf.known s hs
      omega
  | first s frame =>
    obtain ⟨connection, hs, hphase, rfl⟩ := onPhase_eq_some.mp h
    have hconsistent := wf.consistent hs
    have hanonymous := hconsistent.silent hphase
    have hnot : s ∉ co.history := fun hmem => (hconsistent.past hmem).1 hphase
    unfold begin
    split
    · simp only
      split
      · exact (wf.move hs (by simp) (by simp [Phase.isEnrolled])).of_eq rfl rfl
      · rename_i session reply hresult
        refine (wf.set hs ?_).of_eq rfl rfl
        rcases session_of_hello hresult with rfl | ⟨hagent, hvalid⟩
        · simp only [hanonymous, Bool.false_eq_true, if_false]
          exact ⟨fun hagent => by simp [hanonymous] at hagent, hconsistent.unnamed, by simp,
            by simp, fun hmem => absurd hmem hnot, fun hagent => by simp [hanonymous] at hagent⟩
        · simp only [hagent, if_true]
          exact ⟨fun _ => hvalid, fun hno => by simp [hagent] at hno, by simp, fun _ => hagent,
            fun hmem => absurd hmem hnot, by simp [Phase.isEnrolled]⟩
    · exact wf.move hs (by simp) (by simp [Phase.isEnrolled])
    · exact wf.move hs (by simp) (by simp [Phase.isEnrolled])
  | enrol s =>
    obtain ⟨connection, hs, hphase, rfl⟩ := onPhase_eq_some.mp h
    refine ⟨fun {x other} hx => ?_, fun x hx => ?_⟩
    · have hx' : (co.connections.set s { connection with phase := .greeting })[x]? = some other := hx
      rw [getElem?_set_of_some hs] at hx'
      split at hx'
      · rename_i heq
        subst heq
        obtain rfl := Option.some.inj hx'
        exact (wf.consistent hs).move (by simp) fun _ _ => List.mem_cons_self
      · rename_i hne
        have hentered : x ∈ s :: co.history ↔ x ∈ co.history := by
          rw [List.mem_cons, or_iff_right (Ne.symm hne)]
        have hother := wf.consistent hx'
        rwa [← hentered] at hother
    · have hlength : (co.enrol s connection).connections.length = co.connections.length :=
        List.length_set
      rw [hlength]
      rcases List.mem_cons.mp hx with rfl | hmem
      · exact (List.getElem?_eq_some_iff.mp hs).1
      · exact wf.known x hmem
  | greet s sent =>
    obtain ⟨connection, hs, hphase, rfl⟩ := onPhase_eq_some.mp h
    exact wf.move hs (by cases sent <;> simp) fun _ => by rw [hphase]; rfl
  | frame =>
    obtain ⟨connection, hs, hphase, rfl⟩ := onPhase_eq_some.mp h
    have hpast : ∀ b : Bool, (if b then Phase.serving else .leaving) ≠ .accepted
        ∧ (if b then Phase.serving else .leaving) ≠ .registered := by decide
    exact (wf.move hs (hpast _) fun _ => by rw [hphase]; rfl).of_eq rfl rfl
  | hangUp =>
    obtain ⟨connection, phase, hs, hphase, hcases, rfl⟩ := hangUp_moves h
    exact wf.move hs (by rcases hcases with rfl | rfl <;> simp) (by simp [hphase])
  | release =>
    obtain ⟨connection, hs, hphase, rfl⟩ := onPhase_eq_some.mp h
    exact (wf.move hs (by simp) (by simp [Phase.isEnrolled])).of_eq rfl rfl
  | control =>
    obtain ⟨connection, hs, hphase, rfl⟩ := onPhase_eq_some.mp h
    exact wf.of_eq rfl rfl

/-! ## What a step does to the registry -/

/-- The session an event ends. -/
def ending (co : Coordinator) : SessionEvent → Option Nat
  | .greet s sent => if sent then none else some s
  | .frame s frame sent =>
    co.connections[s]?.bind fun connection =>
      if goesOn (handleAgentFrame co.fabric connection.session frame).2 sent then none else some s
  | .hangUp s => some s
  | _ => none

theorem holds_of_not_enrolled (h : connection.phase.isEnrolled = false) (c : ClusterId) :
    connection.holds c = false := by
  simp [Connection.holds, h]

theorem enrolled_congr (history : co'.history = co.history)
    (same : ∀ s ∈ co.history, ∀ c,
      co'.connections[s]?.any (·.holds c) = co.connections[s]?.any (·.holds c)) (c : ClusterId) :
    co'.enrolled c = co.enrolled c := by
  rw [enrolled, enrolled, history]
  exact List.filter_congr fun s hs => same s hs c

/-- A connection that is replaced by one that holds the same leaves the enrolled sessions alone. -/
theorem enrolled_set_of_holds (h : co.connections[s]? = some old)
    (connections : co'.connections = co.connections.set s new) (history : co'.history = co.history)
    (same : ∀ c, new.holds c = old.holds c) (c : ClusterId) : co'.enrolled c = co.enrolled c := by
  refine enrolled_congr history (fun x _ c => ?_) c
  rw [connections, getElem?_set_of_some h]
  split
  · rename_i heq
    subst heq
    rw [h]
    exact same c
  · rfl

/-- A connection that is replaced by one that holds nothing is no longer enrolled. -/
theorem enrolled_set_of_ended (h : co.connections[s]? = some old)
    (connections : co'.connections = co.connections.set s new) (history : co'.history = co.history)
    (ended : ∀ c, new.holds c = false) (c : ClusterId) :
    co'.enrolled c = (co.enrolled c).filter (· != s) := by
  rw [enrolled, enrolled, history, List.filter_filter]
  refine List.filter_congr fun x _ => ?_
  rw [connections, getElem?_set_of_some h]
  split
  · rename_i heq
    subst heq
    simp [ended]
  · rename_i hne
    simp [Ne.symm hne]

/-- What a step does to the registry and to the enrolled sessions. -/
inductive RegistryMove (co : Coordinator) (e : SessionEvent) (co' : Coordinator) : Prop
  | keeps (agents : co'.agents = co.agents) (enrolled : ∀ c, co'.enrolled c = co.enrolled c)
      (ending : co.ending e = none) (held : ∀ s, e ≠ .release s)
  | enters (s : Nat) (connection : Connection) (event : e = .enrol s)
      (at_s : co.connections[s]? = some connection)
      (agents : co'.agents = co.agents.insert connection.session.clusterId s)
      (newest : co'.enrolled connection.session.clusterId
        = s :: co.enrolled connection.session.clusterId)
      (others : ∀ c, c ≠ connection.session.clusterId → co'.enrolled c = co.enrolled c)
  | ends (s : Nat) (connection : Connection) (ending : co.ending e = some s)
      (at_s : co.connections[s]? = some connection) (held : ∀ s, e ≠ .release s)
      (agents : co'.agents = co.agents)
      (enrolled : ∀ c, co'.enrolled c = (co.enrolled c).filter (· != s))
  | clears (s : Nat) (connection : Connection) (event : e = .release s)
      (at_s : co.connections[s]? = some connection)
      (agents : co'.agents = if connection.session.clusterId.valid then
        co.agents.erase connection.session.clusterId else co.agents)
      (enrolled : ∀ c, co'.enrolled c = co.enrolled c)

/-- A first frame replaces its connection. -/
theorem begin_replaces (co : Coordinator) (s : Nat) (frame : Frame) (connection : Connection) :
    ∃ new, (co.begin s frame connection).connections = co.connections.set s new
      ∧ (co.begin s frame connection).agents = co.agents
      ∧ (co.begin s frame connection).history = co.history := by
  unfold begin
  split
  · simp only
    split <;> exact ⟨_, rfl, rfl, rfl⟩
  · exact ⟨_, rfl, rfl, rfl⟩
  · exact ⟨_, rfl, rfl, rfl⟩

theorem registryMove_first {frame : Frame} (wf : co.WellFormed)
    (hs : co.connections[s]? = some connection) (hphase : connection.phase = .accepted) :
    co.RegistryMove (.first s frame) (co.begin s frame connection) := by
  have hnot : ∀ x ∈ co.history, s ≠ x := by
    rintro x hx rfl
    exact ((wf.consistent hs).past hx).1 hphase
  obtain ⟨new, hnew, hagents, hhistory⟩ := co.begin_replaces s frame connection
  refine .keeps hagents (enrolled_congr hhistory fun x hx c => ?_) rfl (by simp)
  rw [hnew, getElem?_set_of_some hs, if_neg (hnot x hx)]

theorem registryMove_enrol (wf : co.WellFormed) (hs : co.connections[s]? = some connection)
    (hphase : connection.phase = .registered) :
    co.RegistryMove (.enrol s) (co.enrol s connection) := by
  have hagent := (wf.consistent hs).accepted hphase
  have hnot : ∀ x ∈ co.history, s ≠ x := by
    rintro x hx rfl
    exact ((wf.consistent hs).past hx).2 hphase
  have hset := getElem?_set_of_some hs { connection with phase := .greeting }
  have hrest : ∀ c, co.history.filter (fun x =>
      (co.enrol s connection).connections[x]?.any (·.holds c)) = co.enrolled c := by
    refine fun c => List.filter_congr fun x hx => congrArg _ ?_
    exact (hset x).trans (if_neg (hnot x hx))
  have hself : ∀ c, (co.enrol s connection).connections[s]?.any (·.holds c)
      = (connection.session.clusterId == c) := by
    refine fun c => (congrArg _ ((hset s).trans (if_pos rfl))).trans ?_
    simp [Connection.holds, hagent, Phase.isEnrolled]
  refine .enters s connection rfl hs rfl ?_ fun c hc => ?_
  · refine (List.filter_cons_of_pos ?_).trans (congrArg _ (hrest _))
    simp [hself]
  · refine (List.filter_cons_of_neg ?_).trans (hrest _)
    simp [hself, Ne.symm hc]

/-- A session that goes on, or ends, when a frame of it was handled. -/
theorem registryMove_frame {frame : Frame} {sent : Bool}
    (hs : co.connections[s]? = some connection) (hphase : connection.phase = .serving)
    (h : co.Step (.frame s frame sent) co') : co.RegistryMove (.frame s frame sent) co' := by
  obtain ⟨connection', hs', -, hnext⟩ := onPhase_eq_some.mp h
  obtain rfl := some_unique hs hs'
  have hconnections : co'.connections = co.connections.set s { connection with
      phase := if goesOn (handleAgentFrame co.fabric connection.session frame).2 sent then
        .serving else .leaving } := hnext ▸ rfl
  have hagents : co'.agents = co.agents := hnext ▸ rfl
  have hhistory : co'.history = co.history := hnext ▸ rfl
  cases hgoes : goesOn (handleAgentFrame co.fabric connection.session frame).2 sent with
  | true =>
    rw [hgoes, if_pos rfl] at hconnections
    refine .keeps hagents (enrolled_set_of_holds hs hconnections hhistory fun c => ?_) ?_ (by simp)
    · simp [Connection.holds, hphase]
    · simp [ending, hs, hgoes]
  | false =>
    rw [hgoes, if_neg Bool.false_ne_true] at hconnections
    exact .ends s connection (by simp [ending, hs, hgoes]) hs (by simp) hagents
      (enrolled_set_of_ended hs hconnections hhistory (holds_of_not_enrolled rfl))

theorem Step.registryMove (wf : co.WellFormed) (h : co.Step e co') : co.RegistryMove e co' := by
  cases e with
  | accept =>
    obtain rfl := Option.some.inj h
    refine .keeps rfl (enrolled_congr rfl fun s hs c => ?_) rfl (by simp)
    rw [List.getElem?_append_left (wf.known s hs)]
  | first s frame =>
    obtain ⟨connection, hs, hphase, rfl⟩ := onPhase_eq_some.mp h
    exact registryMove_first wf hs hphase
  | enrol s =>
    obtain ⟨connection, hs, hphase, rfl⟩ := onPhase_eq_some.mp h
    exact registryMove_enrol wf hs hphase
  | greet s sent =>
    obtain ⟨connection, hs, hphase, rfl⟩ := onPhase_eq_some.mp h
    cases sent with
    | true =>
      refine .keeps rfl (enrolled_set_of_holds hs rfl rfl fun c => ?_) rfl (by simp)
      simp [Connection.holds, hphase, Phase.isEnrolled]
    | false =>
      exact .ends s connection rfl hs (by simp) rfl
        (enrolled_set_of_ended hs rfl rfl (holds_of_not_enrolled rfl))
  | frame s frame sent =>
    obtain ⟨connection, hs, hphase, -⟩ := onPhase_eq_some.mp h
    exact registryMove_frame hs hphase h
  | hangUp s =>
    obtain ⟨connection, phase, hs, hphase, -, rfl⟩ := hangUp_moves h
    exact .ends s connection rfl hs (by simp) rfl
      (enrolled_set_of_ended hs rfl rfl (holds_of_not_enrolled hphase))
  | release s =>
    obtain ⟨connection, hs, hphase, rfl⟩ := onPhase_eq_some.mp h
    refine .clears s connection rfl hs rfl (enrolled_set_of_holds hs rfl rfl fun c => ?_)
    simp [Connection.holds, hphase, Phase.isEnrolled]
  | control =>
    obtain ⟨connection, -, -, rfl⟩ := onPhase_eq_some.mp h
    exact .keeps rfl (fun c => rfl) rfl (by simp)

/-! ## The registry along a run -/

/-- An event ends a session only when it is not the newest of its cluster or is its only one, and
clears the registry only when no session of the cluster is open. -/
def orderly (co : Coordinator) (e : SessionEvent) : Bool :=
  match e with
  | .release s =>
    co.connections[s]?.all fun connection =>
      !connection.session.clusterId.valid || (co.enrolled connection.session.clusterId).isEmpty
  | _ =>
    (co.ending e).all fun s =>
      co.connections[s]?.all fun connection =>
        (co.enrolled connection.session.clusterId).head? != some s
          || (co.enrolled connection.session.clusterId).all (· == s)

theorem orderly_of_not_release (h : ∀ s, e ≠ .release s) :
    co.orderly e = (co.ending e).all fun s =>
      co.connections[s]?.all fun connection =>
        (co.enrolled connection.session.clusterId).head? != some s
          || (co.enrolled connection.session.clusterId).all (· == s) := by
  cases e with
  | release s => exact absurd rfl (h s)
  | _ => rfl

theorem not_mem_enrolled {c : ClusterId} (h : co.connections[s]? = some connection)
    (hc : connection.session.clusterId ≠ c) : s ∉ co.enrolled c := by
  intro hmem
  have hholds := (List.mem_filter.mp hmem).2
  rw [h] at hholds
  simp [Connection.holds, hc] at hholds

/-- When an element is filtered out of a list, what named the head still does exactly when the
element was not the head, or was all there is. -/
theorem head?_filter_ne_iff {l : List Nat} {current : Option Nat} (h : l ≠ [] → current = l.head?) :
    (l.filter (· != s) ≠ [] → current = (l.filter (· != s)).head?)
      ↔ (l.head? != some s || l.all (· == s)) = true := by
  cases l with
  | nil => simp
  | cons x rest =>
    have hcurrent : current = some x := h (List.cons_ne_nil x rest)
    by_cases hx : x = s
    · subst hx
      rw [List.filter_cons_of_neg (by simp), hcurrent]
      simp only [List.head?_cons, bne_self_eq_false, Bool.false_or, List.all_cons, beq_self_eq_true,
        Bool.true_and, List.all_eq_true, beq_iff_eq]
      constructor
      · intro hkeep y hy
        by_contra hne
        have hmem : y ∈ rest.filter (· != x) := List.mem_filter.mpr ⟨hy, by simpa using hne⟩
        have hhead := hkeep (List.ne_nil_of_mem hmem)
        have hfirst := List.mem_of_head? hhead.symm
        simp at hfirst
      · intro hall hne
        obtain ⟨y, hy⟩ := List.exists_mem_of_ne_nil _ hne
        obtain ⟨hmem, hdiffers⟩ := List.mem_filter.mp hy
        simp [hall y hmem] at hdiffers
    · rw [List.filter_cons_of_pos (by simpa using hx), hcurrent]
      simp [hx]

/-- A step keeps the registry current exactly when it is orderly. -/
theorem Step.current_iff (wf : co.WellFormed) (current : co.Current) (h : co.Step e co') :
    co'.Current ↔ co.orderly e = true := by
  rcases h.registryMove wf with ⟨hagents, henrolled, hending, hrelease⟩
    | ⟨s, connection, rfl, hs, hagents, hnew, hothers⟩
    | ⟨s, connection, hending, hs, hrelease, hagents, henrolled⟩
    | ⟨s, connection, rfl, hs, hagents, henrolled⟩
  · refine iff_of_true (fun c hc => ?_) ?_
    · rw [hagents, henrolled c]
      exact current c (henrolled c ▸ hc)
    · rw [orderly_of_not_release hrelease, hending]
      rfl
  · refine iff_of_true (fun c hc => ?_) rfl
    by_cases hcluster : c = connection.session.clusterId
    · rw [hcluster, hagents, hnew, getElem?_insert_eq, if_pos rfl]
      rfl
    · rw [hothers c hcluster] at hc ⊢
      rw [hagents, getElem?_insert_eq, if_neg (Ne.symm hcluster)]
      exact current c hc
  · rw [orderly_of_not_release hrelease, hending, Option.all_some, hs, Option.all_some,
      ← head?_filter_ne_iff (current connection.session.clusterId)]
    constructor
    · intro hcurrent
      have hcluster := hcurrent connection.session.clusterId
      rwa [hagents, henrolled] at hcluster
    · intro hcluster c hc
      rw [hagents, henrolled] at *
      by_cases hown : c = connection.session.clusterId
      · subst hown
        exact hcluster hc
      · have hsame : (co.enrolled c).filter (· != s) = co.enrolled c := by
          refine List.filter_eq_self.mpr fun x hx => ?_
          have hne : x ≠ s := by
            rintro rfl
            exact not_mem_enrolled hs (Ne.symm hown) hx
          simpa using hne
        rw [hsame] at hc ⊢
        exact current c hc
  · have horderly : co.orderly (.release s) = (!connection.session.clusterId.valid
        || (co.enrolled connection.session.clusterId).isEmpty) := by
      rw [orderly, hs, Option.all_some]
    rw [horderly]
    cases hvalid : connection.session.clusterId.valid with
    | false =>
      rw [hvalid, if_neg Bool.false_ne_true] at hagents
      refine iff_of_true (fun c hc => ?_) rfl
      rw [henrolled] at hc ⊢
      rw [hagents]
      exact current c hc
    | true =>
      rw [hvalid, if_pos rfl] at hagents
      have herased : ∀ c, co'.agents[c]? = if connection.session.clusterId = c then none
          else co.agents[c]? := by
        intro c
        rw [hagents, Std.ExtTreeMap.getElem?_erase]
        simp
      simp only [Bool.not_true, Bool.false_or, List.isEmpty_iff]
      constructor
      · intro hcurrent
        by_contra hne
        have hcluster := hcurrent connection.session.clusterId (henrolled _ ▸ hne)
        rw [herased, if_pos rfl, henrolled] at hcluster
        exact hne (List.head?_eq_none_iff.mp hcluster.symm)
      · intro hempty c hc
        rw [henrolled] at hc ⊢
        have hne : connection.session.clusterId ≠ c := by
          rintro rfl
          exact hc hempty
        rw [herased, if_neg hne]
        exact current c hc

theorem Started.wellFormed (h : co.Started) : co.WellFormed := by
  obtain ⟨-, hconnections, -, hhistory⟩ := h
  exact ⟨fun {s connection} hs => by simp [hconnections] at hs, fun s hs => by simp [hhistory] at hs⟩

theorem Started.current (h : co.Started) : co.Current := by
  obtain ⟨-, -, -, hhistory⟩ := h
  intro c hc
  simp [enrolled, hhistory] at hc

/-! ## The fabric behind the sessions -/

/-- The request the fabric executes at an event, if any: the registration of a HELLO, the request of
an agent's frame, or that of a controller. -/
def request (co : Coordinator) : SessionEvent → Option Mutation
  | .first _ frame => if frame.header.messageType = .hello then helloRequest frame else none
  | .frame s frame _ =>
    co.connections[s]?.bind fun connection =>
      connection.session.request co.fabric.plane.coordinatorEpoch frame
  | .control _ m => some m
  | _ => none

/-- A step of a thread does to the fabric what its request does. -/
theorem Step.fabric_eq (h : co.Step e co') :
    co'.fabric = (co.request e).elim co.fabric co.fabric.after := by
  cases e with
  | accept =>
    obtain rfl := Option.some.inj h
    rfl
  | first s frame =>
    obtain ⟨connection, -, -, rfl⟩ := onPhase_eq_some.mp h
    have hhello := handleAgentHello_runtime co.fabric connection.session connection.peer frame
    rw [request]
    unfold begin
    split
    · rename_i htype
      rw [if_pos htype, ← hhello]
      simp only
      split <;> rfl
    · rename_i htype
      rw [if_neg (by simp [htype])]
      rfl
    · rename_i htype _
      rw [if_neg htype]
      rfl
  | frame s frame =>
    obtain ⟨connection, hs, -, rfl⟩ := onPhase_eq_some.mp h
    rw [request, hs, Option.bind_some, ← handleAgentFrame_runtime]
    rfl
  | hangUp =>
    obtain ⟨connection, phase, -, -, -, rfl⟩ := hangUp_moves h
    rfl
  | control | enrol | greet | release =>
    obtain ⟨connection, -, -, rfl⟩ := onPhase_eq_some.mp h
    rfl

/-- The fabric of a coordinator is one that a run of requests reaches. -/
theorem fabric_reachable (h : Reachable Started Step co) : ReachableRuntime co.fabric := by
  refine h.invariant (I := fun co => ReachableRuntime co.fabric) (fun co hco => hco.1) ?_
  intro co e co' hstep hreachable
  rw [hstep.fabric_eq]
  cases co.request e with
  | none => exact hreachable
  | some m => exact hreachable.tail (.mutation co.fabric m)

theorem executable : Executable Step exec := by
  intro co e
  cases hnext : co.next e with
  | none => exact .inr (by rw [exec, hnext]; rfl)
  | some => exact .inl (by rw [Step, exec, hnext]; rfl)

end Coordinator

namespace Scenario

/-- A coordinator over an empty directory. -/
def coordinator : Coordinator := { fabric := .start config }

theorem coordinator_started : coordinator.Started := ⟨reachable [], rfl, rfl, rfl⟩

/-- An agent of a cluster connects and completes its HELLO. -/
def connects (s : Nat) (c : UInt64) : List SessionEvent :=
  [.accept (text "10.0.0.1:5000"), .first s (frame .hello {} (HelloPayload.codec.encode (hello c))), .enrol s,
   .greet s true]

/-- A session ends. -/
def leaves (s : Nat) : List SessionEvent := [.hangUp s, .release s]

/-- The agent of a cluster connects twice; then its first session ends. -/
def reconnected : Coordinator :=
  (connects 0 1 ++ connects 1 1 ++ leaves 0).foldl Coordinator.exec coordinator

/-- The agents of two clusters connect; then the session of the first ends. -/
def departed : Coordinator :=
  (connects 0 1 ++ connects 1 2 ++ leaves 0).foldl Coordinator.exec coordinator

end Scenario

theorem session_registry {co : Coordinator}
    (reachable : Reachable Coordinator.Started
      (Restrict Coordinator.Step fun co e => co.orderly e = true) co) :
    (∀ (c : ClusterId) (s : Nat) (connection : Connection),
        co.connections[s]? = some connection → connection.session.isAgent = true →
        connection.session.clusterId = c → connection.phase = .serving →
        ∃ newest, (co.enrolled c).head? = some newest ∧ co.agents[c]? = some newest)
      ∧ ∀ (e : SessionEvent) (co' : Coordinator), co.Step e co' →
        (co'.Current ↔ co.orderly e = true) := by
  obtain ⟨hwf, hcurrent⟩ : co.WellFormed ∧ co.Current := by
    refine Reachable.invariant (I := fun co => co.WellFormed ∧ co.Current)
      (fun co hco => ⟨hco.wellFormed, hco.current⟩) ?_ reachable
    rintro co e co' ⟨hstep, horderly⟩ ⟨hwf, hcurrent⟩
    exact ⟨hwf.step hstep, (Coordinator.Step.current_iff hwf hcurrent hstep).mpr horderly⟩
  refine ⟨fun c s connection hs hagent hcluster hserving => ?_, fun e co' hstep =>
    Coordinator.Step.current_iff hwf hcurrent hstep⟩
  have hholds : connection.holds c = true := by
    simp [Connection.holds, hagent, hcluster, hserving, Phase.isEnrolled]
  have hentered : s ∈ co.history :=
    (hwf.consistent hs).enrolled hagent (by rw [hserving]; rfl)
  have hmem : s ∈ co.enrolled c := List.mem_filter.mpr ⟨hentered, by rw [hs]; exact hholds⟩
  have hnamed := hcurrent c (List.ne_nil_of_mem hmem)
  cases hhead : (co.enrolled c).head? with
  | none => simp [List.head?_eq_none_iff.mp hhead] at hmem
  | some newest => exact ⟨newest, rfl, hnamed.trans hhead⟩

/-- The sessions refine the protocol: whatever connections, greetings, frames and hang-ups the
threads interleave, the protocol reaches the plane, and the next event leaves the fabric alone if it
makes no request, and else executes its request, as the step of the protocol that is read as. -/
theorem sessions_refine_protocol {co : Coordinator}
    (reachable : Reachable Coordinator.Started Coordinator.Step co) :
    Reachable (· = Protocol.Plane.empty) (fun p a p' => Protocol.Step a p p') co.fabric.plane.abs
      ∧ ∀ (e : SessionEvent) (co' : Coordinator), co.Step e co' →
        (co.request e = none → co'.fabric = co.fabric)
          ∧ ∀ m, co.request e = some m → co'.fabric = co.fabric.after m
            ∧ Protocol.Step (Event.action co.fabric (.mutation m)) co.fabric.plane.abs
              co'.fabric.plane.abs := by
  have hfabric := Coordinator.fabric_reachable reachable
  refine ⟨hfabric.lasting.protocol, fun e co' hstep => ⟨fun hnone => ?_, fun m hsome => ?_⟩⟩
  · rw [hstep.fabric_eq, hnone]
    rfl
  · rw [hstep.fabric_eq, hsome]
    exact ⟨rfl, hfabric.wellKept.after_step m⟩

/-- The second session of the agent of cluster 1 reports evidence about it. -/
theorem sessions_refine_protocol_of_reconnection :
    Reachable (· = Protocol.Plane.empty) (fun p a p' => Protocol.Step a p p')
        reconnected.fabric.plane.abs
      ∧ ∃ e co' m, reconnected.Step e co' ∧ reconnected.request e = some m
        ∧ Protocol.Step (Event.action reconnected.fabric (.mutation m)) reconnected.fabric.plane.abs
          co'.fabric.plane.abs := by
  have hreachable : Reachable Coordinator.Started Coordinator.Step reconnected :=
    ⟨_, coordinator_started, Runs.of_foldl Coordinator.executable _ _⟩
  obtain ⟨hreaches, hsteps⟩ := sessions_refine_protocol hreachable
  have hnext : (reconnected.next (.frame 1 (evidenceFrame (evidenceAbout 1)) true)).isSome
      = true := by decide +kernel
  have hrequest : (reconnected.request
      (.frame 1 (evidenceFrame (evidenceAbout 1)) true)).isSome = true := by decide +kernel
  obtain ⟨co', hstep⟩ := Option.isSome_iff_exists.mp hnext
  obtain ⟨m, hm⟩ := Option.isSome_iff_exists.mp hrequest
  exact ⟨hreaches, _, co', m, hstep, hm, ((hsteps _ co' hstep).2 m hm).2⟩

/-- The teardown of an agent's first session takes the entry of its second, which stays open. -/
theorem teardown_forgets_open_session :
    Reachable Coordinator.Started Coordinator.Step reconnected
      ∧ (∃ connection, reconnected.connections[1]? = some connection
          ∧ connection.session.isAgent = true ∧ connection.session.clusterId = ⟨1⟩
          ∧ connection.phase = .serving)
      ∧ reconnected.enrolled ⟨1⟩ = [1]
      ∧ reconnected.agents[(⟨1⟩ : ClusterId)]? = none := by
  refine ⟨⟨_, coordinator_started, Runs.of_foldl Coordinator.executable _ _⟩, ?_,
    by decide +kernel, by decide +kernel⟩
  have hconnection : reconnected.connections[1]?.any (fun connection =>
      connection.session.isAgent && connection.session.clusterId == ⟨1⟩
        && connection.phase == .serving) = true := by decide +kernel
  obtain ⟨connection, hs, hserving⟩ := (Option.any_eq_true _ _).mp hconnection
  simp only [Bool.and_eq_true, beq_iff_eq] at hserving
  exact ⟨connection, hs, hserving.1.1, hserving.1.2, hserving.2⟩

theorem session_registry_of_other_cluster :
    Reachable Coordinator.Started
        (Restrict Coordinator.Step fun co e => co.orderly e = true) departed
      ∧ ∃ newest, (departed.enrolled ⟨2⟩).head? = some newest
        ∧ departed.agents[(⟨2⟩ : ClusterId)]? = some newest := by
  have hreachable : Reachable Coordinator.Started
      (Restrict Coordinator.Step fun co e => co.orderly e = true) departed :=
    ⟨_, coordinator_started,
      Runs.of_script Coordinator.executable (by decide +kernel)⟩
  have hconnection : departed.connections[1]?.any (fun connection =>
      connection.session.isAgent && connection.session.clusterId == ⟨2⟩
        && connection.phase == .serving) = true := by decide +kernel
  obtain ⟨connection, hs, hserving⟩ := (Option.any_eq_true _ _).mp hconnection
  simp only [Bool.and_eq_true, beq_iff_eq] at hserving
  exact ⟨hreachable, (session_registry hreachable).1 ⟨2⟩ 1 connection hs hserving.1.1 hserving.1.2
    hserving.2⟩

end StateFabric
