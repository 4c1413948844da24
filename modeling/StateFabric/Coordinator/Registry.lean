import StateFabric.Coordinator.Agent

/-!
# The registry of agent sessions

`handle_connection` of `src/coordinator.cpp`: every connection is served by a thread of its own.
An agent's thread registers its cluster with the fabric, enters its session into the registry
`agents` under the cluster, acknowledges the HELLO, and then handles one frame after the other
until a receive, a reply or a frame fails; it ends by erasing the cluster from the registry.

The fabric and the registry have locks of their own, so between these steps any other thread may
take one.  A step of any thread is an event, and a run of the coordinator is a sequence of events.
-/

namespace StateFabric

/-- How far the thread of a connection has come. -/
inductive Phase
  /-- Waits for the first frame. -/
  | accepted
  /-- The fabric accepted its HELLO; the session is not in the registry yet. -/
  | registered
  /-- The acknowledgement of its HELLO is to be sent. -/
  | greeting
  /-- HELLO is completed; frames are received and handled. -/
  | serving
  /-- The loop has ended; the registry is still to be cleared. -/
  | leaving
  /-- The connection is closed. -/
  | released
  /-- The thread returned without closing the connection. -/
  | dropped
  /-- Serves a controller. -/
  | controlling
  deriving DecidableEq

/-- The session is in the registry and still open. -/
def Phase.isEnrolled : Phase → Bool
  | .greeting | .serving => true
  | _ => false

/-- A connection and how far its thread has come. -/
structure Connection where
  peer : Text := []
  session : Session := {}
  phase : Phase := .accepted
  deriving DecidableEq

/-- A coordinator process.  A connection is named by its place in the list. -/
structure Coordinator where
  fabric : Runtime
  connections : List Connection := []
  agents : Std.ExtTreeMap ClusterId Nat := ∅
  /-- The sessions that were entered into the registry, the newest first; the source keeps no
  such list. -/
  history : List Nat := []

/-- A step of a thread. -/
inductive SessionEvent
  | accept (peer : Text)
  /-- The first frame of a connection arrives. -/
  | first (s : Nat) (frame : Frame)
  /-- The session is entered into the registry. -/
  | enrol (s : Nat)
  /-- The acknowledgement of the HELLO is sent, or cannot be. -/
  | greet (s : Nat) (sent : Bool)
  /-- A later frame is handled; a reply it needs is sent, or cannot be. -/
  | frame (s : Nat) (frame : Frame) (sent : Bool)
  /-- A receive fails. -/
  | hangUp (s : Nat)
  /-- The registry is cleared and the connection closed. -/
  | release (s : Nat)
  /-- A controller's request to the fabric. -/
  | control (s : Nat) (m : Mutation)

/-- The loop of `handle_connection` goes on after a frame. -/
def goesOn (result : Result (Option Frame)) (sent : Bool) : Bool :=
  match result with
  | .error _ => false
  | .ok none => true
  | .ok (some _) => sent

namespace Coordinator

/-- The coordinator with one connection in another phase. -/
def move (co : Coordinator) (s : Nat) (connection : Connection) (phase : Phase) : Coordinator :=
  { co with connections := co.connections.set s { connection with phase := phase } }

/-- What the thread does with the first frame. -/
def begin (co : Coordinator) (s : Nat) (frame : Frame) (connection : Connection) : Coordinator :=
  match frame.header.messageType with
  | .hello =>
    let (fabric, result) := handleAgentHello co.fabric connection.session connection.peer frame
    let co := { co with fabric := fabric }
    match result with
    | .error _ => co.move s connection .dropped
    | .ok (session, _) =>
      -- A refused HELLO is acknowledged too, and leaves the session as it was.
      co.move s { connection with session := session }
        (if session.isAgent then .registered else .greeting)
  | .controlRequest => co.move s connection .controlling
  | _ => co.move s connection .dropped

/-- `shared_->agents[hello.cluster_id] = session`. -/
def enrol (co : Coordinator) (s : Nat) (connection : Connection) : Coordinator :=
  { co.move s connection .greeting with
    agents := co.agents.insert connection.session.clusterId s
    history := s :: co.history }

/-- The end of `handle_connection`: the registry forgets the cluster, whoever stands there. -/
def release (co : Coordinator) (s : Nat) (connection : Connection) : Coordinator :=
  { co.move s connection .released with
    agents := if connection.session.clusterId.valid then
        co.agents.erase connection.session.clusterId
      else co.agents }

/-- A step of the thread of `s`, when the thread is in a phase. -/
def onPhase (co : Coordinator) (s : Nat) (phase : Phase) (step : Connection → Coordinator) :
    Option Coordinator :=
  co.connections[s]?.bind fun connection =>
    if connection.phase = phase then some (step connection) else none

/-- The coordinator after an event, when the event is possible. -/
def next (co : Coordinator) : SessionEvent → Option Coordinator
  | .accept peer => some { co with connections := co.connections ++ [{ peer := peer }] }
  | .first s frame => co.onPhase s .accepted (co.begin s frame)
  | .enrol s => co.onPhase s .registered (co.enrol s)
  | .greet s sent =>
    co.onPhase s .greeting fun connection =>
      co.move s connection (if sent then .serving else .dropped)
  | .frame s frame sent =>
    co.onPhase s .serving fun connection =>
      let (fabric, result) := handleAgentFrame co.fabric connection.session frame
      { co with fabric := fabric }.move s connection
        (if goesOn result sent then .serving else .leaving)
  | .hangUp s =>
    co.connections[s]?.bind fun connection =>
      match connection.phase with
      | .accepted | .controlling => some (co.move s connection .released)
      | .serving => some (co.move s connection .leaving)
      | _ => none
  | .release s => co.onPhase s .leaving (co.release s)
  | .control s m =>
    co.onPhase s .controlling fun _ => { co with fabric := co.fabric.after m }

/-- One step of a coordinator. -/
def Step (co : Coordinator) (e : SessionEvent) (co' : Coordinator) : Prop := co.next e = some co'

/-- A coordinator that has just started. -/
def Started (co : Coordinator) : Prop :=
  ReachableRuntime co.fabric ∧ co.connections = [] ∧ co.agents = ∅ ∧ co.history = []

/-- Executes an event, if it is possible. -/
def exec (co : Coordinator) (e : SessionEvent) : Coordinator := (co.next e).getD co

end Coordinator

end StateFabric
