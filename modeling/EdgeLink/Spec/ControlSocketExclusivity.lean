import Mathlib.Data.Fintype.Basic
import EdgeLink.Native.ControlSocketPath

/-!
# Control socket exclusivity

Whether the path of a started control server names its own listening socket. `start` looks
at the path, probes it and removes it in three separate calls, and `stop` removes it without
a look, so another process can come in between.

* `started_socket_unlinked`: two processes find the same stale file, and the slower one
  removes the socket that the faster one has bound.
* `PathInv`: what holds while no server removes the path during the time of another
  server's socket, from `bind` to `close`.
* `control_socket_exclusive`: in every such run the path names the listening socket of the
  started server, and a step that breaks the rule removes the other server's socket.
-/

namespace EdgeLink

namespace ControlSocketState

variable {Process : Type} [DecidableEq Process] {σ σ' : ControlSocketState Process}

omit [DecidableEq Process] in
/-- The path of every started server names its own listening socket. -/
def Exclusive (σ : ControlSocketState Process) : Prop :=
  ∀ process, (σ.servers process).started = true →
    ∃ socket, (σ.servers process).listenFd = some socket ∧
      σ.path = some (.socket socket) ∧ σ.status socket = .listening

omit [DecidableEq Process] in
/-- No other server has a socket between its `bind` and its `close`. -/
def Alone (σ : ControlSocketState Process) (process : Process) : Prop :=
  ∀ other, other ≠ process → (σ.servers other).listenFd = none

/-- The path is only removed while no other server has a bound socket. -/
def UnlinksAlone (σ : ControlSocketState Process) : ControlSocketAction Process → Prop
  | .unlink process failed => failed = false → σ.Alone process
  | .unlinkOwn process failed =>
    failed = false → (σ.servers process).ownsSocketPath = true → σ.Alone process
  | _ => True

instance [Fintype Process] (σ : ControlSocketState Process) (process : Process) :
    Decidable (σ.Alone process) :=
  inferInstanceAs (Decidable (∀ _, _ → _))

instance [Fintype Process] (σ : ControlSocketState Process) :
    ∀ action, Decidable (σ.UnlinksAlone action)
  | .unlink _ _ => inferInstanceAs (Decidable (_ → _))
  | .unlinkOwn _ _ => inferInstanceAs (Decidable (_ → _ → _))
  | .start _ | .lstat _ _ | .probe _ _ | .bind _ _ | .listen _ _ | .addChannel _ _ | .stop _
  | .close _ => inferInstanceAs (Decidable True)

end ControlSocketState

/-- The calls of `start` and `stop` in front of which the server has no socket. -/
def StartStopPc.unbound : StartStopPc → Bool
  | .lstat | .probe | .unlink | .bind | .unlinkOwn => true
  | _ => false

/-- What one server is, given what the path names and which sockets listen. -/
structure ServerKept (path : Option PathEntry) (status : SocketId → SocketStatus)
    (server : ControlServer) : Prop where
  held : ∀ socket, server.listenFd = some socket → path = some (.socket socket)
  started : server.started = true → server.pc = .idle ∧ server.listenFd.isSome = true
  listening : server.started = true ∨ server.pc = .addChannel →
    ∀ socket, server.listenFd = some socket → status socket = .listening
  registering : server.pc = .addChannel → server.listenFd.isSome = true
  unbound : server.pc.unbound = true → server.listenFd = none

/-- The invariant of the runs that only remove the path while it is not in use. -/
structure PathInv {Process : Type} (σ : ControlSocketState Process) : Prop where
  servers : ∀ process, ServerKept σ.path σ.status (σ.servers process)
  owner : ∀ process other socket, (σ.servers process).listenFd = some socket →
    (σ.servers other).listenFd = some socket → process = other

namespace ServerKept

variable {path path' : Option PathEntry} {status status' : SocketId → SocketStatus}
  {server : ControlServer}

/-- A server in the middle of `start` or `stop` has not been started. -/
theorem started_eq_false (h : ServerKept path status server) (hpc : server.pc ≠ .idle) :
    server.started = false := by
  by_contra hstarted
  exact hpc (h.started (by simpa using hstarted)).1

/-- A server that is down and has no socket, at a call other than `addChannel`. -/
theorem of_unheld (hnone : server.listenFd = none) (hdown : server.started = false)
    (hregister : server.pc ≠ .addChannel) : ServerKept path status server := by
  constructor
  case held =>
    intro socket hsocket
    rw [hnone] at hsocket
    cases hsocket
  case started =>
    intro hup
    rw [hdown] at hup
    cases hup
  case listening =>
    intro _ socket hsocket
    rw [hnone] at hsocket
    cases hsocket
  case registering => exact fun hpc => absurd hpc hregister
  case unbound => exact fun _ => hnone

/-- A server without socket makes no claim on the path. -/
theorem of_none (h : ServerKept path status server) (hnone : server.listenFd = none) :
    ServerKept path' status' server := by
  constructor
  case held =>
    intro socket hsocket
    rw [hnone] at hsocket
    exact nomatch hsocket
  case started => exact h.started
  case listening =>
    intro _ socket hsocket
    rw [hnone] at hsocket
    exact nomatch hsocket
  case registering => exact h.registering
  case unbound => exact h.unbound

end ServerKept

namespace PathInv

variable {Process : Type} {σ : ControlSocketState Process}

/-- The initial states satisfy the invariant. -/
theorem initial (hinit : σ.Initial) : PathInv σ := by
  constructor
  case servers =>
    intro process
    rw [hinit.servers process]
    exact .of_unheld rfl rfl (by decide)
  case owner =>
    intro process other socket hprocess
    rw [hinit.servers process] at hprocess
    exact nomatch hprocess

/-- While the path names nothing, no server has a socket. -/
theorem listenFd_eq_none (h : PathInv σ) (hpath : σ.path = none) (process : Process) :
    (σ.servers process).listenFd = none := by
  cases hsocket : (σ.servers process).listenFd with
  | none => rfl
  | some socket =>
    rw [(h.servers process).held socket hsocket] at hpath
    exact nomatch hpath

/-- While one server has a socket, no other has one. -/
theorem others_eq_none (h : PathInv σ) {process other : Process} {socket : SocketId}
    (hsocket : (σ.servers process).listenFd = some socket) (hne : other ≠ process) :
    (σ.servers other).listenFd = none := by
  cases hother : (σ.servers other).listenFd with
  | none => rfl
  | some socket' =>
    -- the path names only one of the two
    have hpath := (h.servers process).held socket hsocket
    rw [(h.servers other).held socket' hother] at hpath
    obtain rfl := PathEntry.socket.inj (Option.some.inj hpath)
    exact absurd (h.owner other process socket' hother hsocket) hne

variable [DecidableEq Process]

/-- One server changes, and with it what the path names. -/
theorem setServer (h : PathInv σ) {process : Process} (server : ControlServer)
    {path : Option PathEntry} {status : SocketId → SocketStatus} {nextSocket : SocketId}
    (hserver : ServerKept path status server)
    (hothers : ∀ other, other ≠ process → ServerKept path status (σ.servers other))
    (howner : ∀ other socket, other ≠ process → server.listenFd = some socket →
      (σ.servers other).listenFd ≠ some socket) :
    PathInv { σ.setServer process server with path, status, nextSocket } := by
  have hservers (other : Process) :
      (other = process ∧ (σ.setServer process server).servers other = server) ∨
        (other ≠ process ∧ (σ.setServer process server).servers other = σ.servers other) := by
    by_cases heq : other = process
    · subst heq
      exact .inl ⟨rfl, Function.update_self _ _ _⟩
    · exact .inr ⟨heq, Function.update_of_ne heq _ _⟩
  constructor
  case servers =>
    intro other
    dsimp only
    rcases hservers other with ⟨-, hself⟩ | ⟨hne, hself⟩ <;> rw [hself]
    · exact hserver
    · exact hothers other hne
  case owner =>
    -- a socket is shared by the server that changed and another one, or by two others
    intro first second socket hfirst hsecond
    dsimp only at hfirst hsecond
    rcases hservers first with ⟨rfl, hself⟩ | ⟨hne, hself⟩ <;> rw [hself] at hfirst <;>
      rcases hservers second with ⟨heq, hself'⟩ | ⟨hne', hself'⟩ <;> rw [hself'] at hsecond
    · exact heq.symm
    · exact absurd hsecond (howner second socket hne' hfirst)
    · subst heq
      exact absurd hfirst (howner first socket hne hsecond)
    · exact h.owner first second socket hfirst hsecond

/-- A server goes on to another call; the socket and the path stay. -/
theorem goto (h : PathInv σ) {process : Process} {pc : StartStopPc}
    (hunbound : pc.unbound = true → (σ.servers process).listenFd = none)
    (hregister : pc ≠ .addChannel)
    (hstarted : (σ.servers process).started = true → pc = .idle) : PathInv (σ.goto process pc) := by
  have hold := h.servers process
  apply h.setServer { σ.servers process with pc } _ (fun other _ => h.servers other)
  · intro other socket hne hsocket hother
    exact hne (h.owner other process socket hother hsocket)
  · constructor
    case held => exact hold.held
    case started => exact fun heq => ⟨hstarted heq, (hold.started heq).2⟩
    case listening =>
      intro hup
      exact hold.listening (.inl (hup.resolve_right hregister))
    case registering => exact fun heq => absurd heq hregister
    case unbound => exact hunbound

/-- A server that has no socket goes on to another call. -/
theorem goto_unbound (h : PathInv σ) {process : Process}
    (hunbound : (σ.servers process).pc.unbound = true) {pc : StartStopPc}
    (hregister : pc ≠ .addChannel) : PathInv (σ.goto process pc) := by
  have hdown : (σ.servers process).started = false := by
    apply (h.servers process).started_eq_false
    intro hidle
    rw [hidle] at hunbound
    cases hunbound
  apply h.goto (fun _ => (h.servers process).unbound hunbound) hregister
  intro hup
  rw [hdown] at hup
  cases hup

/-- `start` and `lstat` look at the path only. -/
theorem start (h : PathInv σ) (process : Process) : PathInv (σ.start process) := by
  unfold ControlSocketState.start
  split
  · exact h
  · rename_i hsocket
    have hnone := Option.not_isSome_iff_eq_none.mp hsocket
    refine h.goto (fun _ => hnone) (show StartStopPc.lstat ≠ .addChannel from nofun) ?_
    intro hstarted
    exact absurd ((h.servers process).started hstarted).2 hsocket

theorem lstat (h : PathInv σ) {process : Process} (hpc : (σ.servers process).pc = .lstat)
    (failed : Bool) : PathInv (σ.lstat process failed) := by
  have hunbound : (σ.servers process).pc.unbound = true := by rw [hpc]; rfl
  unfold ControlSocketState.lstat
  split
  · exact h.goto_unbound hunbound (by decide)
  · split
    · exact h.goto_unbound hunbound (by decide)
    · exact h.goto_unbound hunbound (by decide)
    · exact h.goto_unbound hunbound (by decide)

theorem probe (h : PathInv σ) {process : Process} (hpc : (σ.servers process).pc = .probe)
    (failed : Bool) : PathInv (σ.probe process failed) := by
  have hunbound : (σ.servers process).pc.unbound = true := by rw [hpc]; rfl
  unfold ControlSocketState.probe
  split
  · exact h.goto_unbound hunbound (by decide)
  · exact h.goto_unbound hunbound (by decide)

/-- The `unlink` of `start`, while no other server has a socket. -/
theorem unlink (h : PathInv σ) {process : Process} (hpc : (σ.servers process).pc = .unlink)
    {failed : Bool} (halone : failed = false → σ.Alone process) :
    PathInv (σ.unlink process failed) := by
  have hunbound : (σ.servers process).pc.unbound = true := by rw [hpc]; rfl
  have hnone := (h.servers process).unbound hunbound
  have hdown := (h.servers process).started_eq_false (by rw [hpc]; decide)
  unfold ControlSocketState.unlink
  split
  · exact h.goto_unbound hunbound (by decide)
  · rename_i hremoved
    have hsucceeded : failed = false := by
      cases failed with
      | false => rfl
      | true => exact absurd rfl hremoved
    apply h.setServer { σ.servers process with pc := .bind }
    · exact .of_unheld hnone hdown (show StartStopPc.bind ≠ .addChannel by decide)
    · -- the path is gone, and nobody else has a socket that it could have named
      exact fun other hne => (h.servers other).of_none (halone hsucceeded other hne)
    · intro other socket _ hsocket
      rw [hnone] at hsocket
      cases hsocket

/-- `bind` succeeds only where the path names nothing, so no other server has a socket. -/
theorem bind (h : PathInv σ) {process : Process} (hpc : (σ.servers process).pc = .bind)
    (failed : Bool) : PathInv (σ.bind process failed) := by
  have hdown := (h.servers process).started_eq_false (by rw [hpc]; decide)
  unfold ControlSocketState.bind
  split
  · exact h.goto_unbound (by rw [hpc]; rfl) (by decide)
  · rename_i hfree
    -- `bind` fails where the path exists, so nobody holds a socket now
    have hpath : σ.path = none := by
      cases hpath : σ.path with
      | none => rfl
      | some entry => simp [hpath] at hfree
    apply h.setServer
    · constructor
      case held =>
        intro socket heq
        obtain rfl := Option.some.inj heq
        rfl
      case started => exact fun hup => absurd (hdown.symm.trans hup) nofun
      case listening =>
        rintro (hup | hregister)
        · exact absurd (hdown.symm.trans hup) nofun
        · exact nomatch hregister
      case registering => exact nofun
      case unbound => exact nofun
    · exact fun other _ => (h.servers other).of_none (h.listenFd_eq_none hpath other)
    · intro other socket _ _ hother
      rw [h.listenFd_eq_none hpath other] at hother
      exact nomatch hother

/-- `listen` makes the server's own socket a listening one. -/
theorem listen (h : PathInv σ) {process : Process} (hpc : (σ.servers process).pc = .listen)
    (failed : Bool) : PathInv (σ.listen process failed) := by
  have hkept := h.servers process
  have hdown := hkept.started_eq_false (by rw [hpc]; nofun)
  have hgiveUp : PathInv (σ.goto process .close) :=
    h.goto nofun nofun fun hup => absurd (hdown.symm.trans hup) nofun
  unfold ControlSocketState.listen
  split
  · exact hgiveUp
  · rename_i socket hsocket
    split
    · exact hgiveUp
    · apply h.setServer { σ.servers process with pc := .addChannel }
      · constructor
        case held => exact hkept.held
        case started => exact fun hup => absurd (hdown.symm.trans hup) nofun
        case listening =>
          intro _ socket' hsocket'
          obtain rfl := Option.some.inj (hsocket.symm.trans hsocket')
          exact Function.update_self _ _ _
        case registering => exact fun _ => by rw [hsocket]; rfl
        case unbound => exact nofun
      · -- the socket at the path is this one, and no other process has it
        exact fun other hne => (h.servers other).of_none (h.others_eq_none hsocket hne)
      · intro other socket' hne _ hother
        rw [h.others_eq_none hsocket hne] at hother
        exact nomatch hother

/-- The end of `start`. -/
theorem addChannel (h : PathInv σ) {process : Process}
    (hpc : (σ.servers process).pc = .addChannel) (failed : Bool) :
    PathInv (σ.addChannel process failed) := by
  have hkept := h.servers process
  have hdown := hkept.started_eq_false (by rw [hpc]; nofun)
  unfold ControlSocketState.addChannel
  split
  · exact h.goto nofun nofun fun hup => absurd (hdown.symm.trans hup) nofun
  · apply h.setServer { σ.servers process with started := true, pc := .idle }
    · constructor
      case held => exact hkept.held
      case started => exact fun _ => ⟨rfl, hkept.registering hpc⟩
      case listening => exact fun _ => hkept.listening (.inr hpc)
      case registering => exact nofun
      case unbound => exact nofun
    · exact fun other _ => h.servers other
    · intro other socket hne hsocket hother
      exact hne (h.owner other process socket hother hsocket)

/-- `stop` begins: the server counts as stopped from here on. -/
theorem stop (h : PathInv σ) (process : Process) : PathInv (σ.stop process) := by
  apply h.setServer { σ.servers process with started := false, pc := .close }
  · constructor
    case held => exact (h.servers process).held
    case started => exact nofun
    case listening => exact nofun
    case registering => exact nofun
    case unbound => exact nofun
  · exact fun other _ => h.servers other
  · intro other socket hne hsocket hother
    exact hne (h.owner other process socket hother hsocket)

theorem close (h : PathInv σ) {process : Process} (hpc : (σ.servers process).pc = .close) :
    PathInv (σ.close process) := by
  have hkept := h.servers process
  have hdown := hkept.started_eq_false (by rw [hpc]; nofun)
  unfold ControlSocketState.close
  split
  · rename_i hnone
    exact h.goto (fun _ => hnone) nofun fun hup => absurd (hdown.symm.trans hup) nofun
  · rename_i socket hsocket
    apply h.setServer { σ.servers process with listenFd := none, pc := .unlinkOwn }
    · exact .of_unheld rfl hdown (show StartStopPc.unlinkOwn ≠ .addChannel by decide)
    · exact fun other hne => (h.servers other).of_none (h.others_eq_none hsocket hne)
    · exact fun _ _ _ => nofun

/-- The `unlink` of `stop`, while no other server has a socket. -/
theorem unlinkOwn (h : PathInv σ) {process : Process}
    (hpc : (σ.servers process).pc = .unlinkOwn) {failed : Bool}
    (halone : failed = false → (σ.servers process).ownsSocketPath = true → σ.Alone process) :
    PathInv (σ.unlinkOwn process failed) := by
  have hunbound : (σ.servers process).pc.unbound = true := by rw [hpc]; rfl
  have hnone := (h.servers process).unbound hunbound
  have hdown := (h.servers process).started_eq_false (by rw [hpc]; decide)
  unfold ControlSocketState.unlinkOwn
  split
  · rename_i howns
    apply h.setServer { σ.servers process with ownsSocketPath := false, pc := .idle }
    · exact .of_unheld hnone hdown (show StartStopPc.idle ≠ .addChannel by decide)
    · intro other hne
      cases failed with
      | true => exact h.servers other
      | false => exact (h.servers other).of_none (halone rfl howns other hne)
    · intro other socket _ hsocket
      rw [hnone] at hsocket
      cases hsocket
  · exact h.goto_unbound hunbound (by decide)

/-- Every step that keeps to the rule keeps the invariant. -/
theorem step {action : ControlSocketAction Process} (h : PathInv σ)
    (hok : σ.UnlinksAlone action) {σ' : ControlSocketState Process}
    (hstep : σ.step action = some σ') : PathInv σ' := by
  cases action <;> obtain ⟨hpc, heq⟩ := Option.ite_none_right_eq_some.mp hstep <;>
    obtain rfl := Option.some.inj heq
  case start => exact h.start _
  case lstat => exact h.lstat hpc _
  case probe => exact h.probe hpc _
  case unlink => exact h.unlink hpc hok
  case bind => exact h.bind hpc _
  case listen => exact h.listen hpc _
  case addChannel => exact h.addChannel hpc _
  case stop => exact h.stop _
  case close => exact h.close hpc
  case unlinkOwn => exact h.unlinkOwn hpc hok

omit [DecidableEq Process] in
/-- The path of a started server names its listening socket. -/
theorem exclusive (h : PathInv σ) : σ.Exclusive := by
  intro process hstarted
  have hkept := h.servers process
  obtain ⟨socket, hsocket⟩ := Option.isSome_iff_exists.mp (hkept.started hstarted).2
  exact ⟨socket, hsocket, hkept.held socket hsocket, hkept.listening (.inl hstarted) socket hsocket⟩

/-- A step that breaks the rule removes another server's socket. -/
theorem removes (h : PathInv σ) {action : ControlSocketAction Process}
    (hbroken : ¬ σ.UnlinksAlone action) {σ' : ControlSocketState Process}
    (hstep : σ.step action = some σ') :
    ∃ process socket, (σ.servers process).listenFd = some socket ∧
      σ.path = some (.socket socket) ∧ σ'.path = none := by
  -- whoever is in the way holds the socket that the path names
  have hother (process : Process) (hnot : ¬ σ.Alone process) :
      ∃ other socket, (σ.servers other).listenFd = some socket ∧
        σ.path = some (.socket socket) := by
    simp only [ControlSocketState.Alone, not_forall] at hnot
    obtain ⟨other, -, hsome⟩ := hnot
    obtain ⟨socket, hsocket⟩ := Option.ne_none_iff_exists'.mp hsome
    exact ⟨other, socket, hsocket, (h.servers other).held socket hsocket⟩
  cases action with
  | unlink process failed =>
    obtain ⟨-, heq⟩ := Option.ite_none_right_eq_some.mp hstep
    obtain rfl := Option.some.inj heq
    simp only [ControlSocketState.UnlinksAlone, Classical.not_imp] at hbroken
    obtain ⟨rfl, hnot⟩ := hbroken
    obtain ⟨other, socket, hsocket, hpath⟩ := hother process hnot
    refine ⟨other, socket, hsocket, hpath, ?_⟩
    simp [ControlSocketState.unlink, hpath]
  | unlinkOwn process failed =>
    obtain ⟨-, heq⟩ := Option.ite_none_right_eq_some.mp hstep
    obtain rfl := Option.some.inj heq
    simp only [ControlSocketState.UnlinksAlone, Classical.not_imp] at hbroken
    obtain ⟨rfl, howns, hnot⟩ := hbroken
    obtain ⟨other, socket, hsocket, hpath⟩ := hother process hnot
    refine ⟨other, socket, hsocket, hpath, ?_⟩
    simp [ControlSocketState.unlinkOwn, howns]
  | _ => exact absurd trivial hbroken

end PathInv

open ControlSocketState in
/-- In every run that removes the path only while no other server has a bound socket, the
    path of every started server names its own listening socket; and the first step that
    breaks the rule removes the socket that another server has bound. -/
theorem control_socket_exclusive {Process : Type} [DecidableEq Process]
    {σ : ControlSocketState Process}
    (h : (controlSocketSystem Process).Reachable UnlinksAlone σ) :
    σ.Exclusive ∧
      ∀ action σ', (controlSocketSystem Process).step σ action = some σ' →
        ¬ σ.UnlinksAlone action →
        ∃ process socket, (σ.servers process).listenFd = some socket ∧
          σ.path = some (.socket socket) ∧ σ'.path = none := by
  have hinv : PathInv σ := h.invariant PathInv (fun _ hinit => .initial hinit)
    fun _ _ _ _ hinv hok hstep => hinv.step hok hstep
  exact ⟨hinv.exclusive, fun _ _ hstep hbroken => hinv.removes hbroken hstep⟩

/-! ## Two processes -/

/-- The path names the socket of a process that has ended. -/
def staleControlSocket : ControlSocketState Bool where
  path := some (.socket 0)
  status _ := .closed
  nextSocket := 1
  servers _ := { listenFd := none, ownsSocketPath := false, started := false, pc := .idle }

theorem staleControlSocket_init :
    (controlSocketSystem Bool).init staleControlSocket where
  servers _ := rfl
  numbered socket heq := by
    obtain rfl := PathEntry.socket.inj (Option.some.inj heq)
    decide

/-- The second process comes while the first one runs: its probe is accepted. -/
theorem control_socket_exclusive_second_start :
    ∃ σ : ControlSocketState Bool, (σ.servers false).started = true ∧
      (σ.servers true).pc = .idle ∧ σ.Exclusive := by
  obtain ⟨σ, -, hreach, hσ⟩ := TransitionSystem.exists_of_run (controlSocketSystem Bool)
    ControlSocketState.UnlinksAlone
    [.start false, .lstat false false, .probe false false, .unlink false false,
      .bind false false, .listen false false, .addChannel false false,
      .start true, .lstat true false, .probe true false]
    (fun σ => (σ.servers false).started = true ∧ (σ.servers true).pc = .idle)
    staleControlSocket_init (by decide)
  obtain ⟨hstarted, hidle⟩ := of_decide_eq_true hσ
  exact ⟨σ, hstarted, hidle, (control_socket_exclusive hreach).1⟩

/-- Both processes probe the stale file before either removes it. `start` of the first
    process has returned true when the second one removes the path. -/
theorem started_socket_unlinked :
    ¬ ∀ σ : ControlSocketState Bool,
      (controlSocketSystem Bool).Reachable TransitionSystem.anyStep σ → σ.Exclusive := by
  intro h
  obtain ⟨σ, -, hreach, hσ⟩ := TransitionSystem.exists_of_run (controlSocketSystem Bool)
    TransitionSystem.anyStep
    [.start false, .lstat false false, .probe false false,
      .start true, .lstat true false, .probe true false,
      .unlink false false, .bind false false, .listen false false, .addChannel false false,
      .unlink true false]
    (fun σ => (σ.servers false).started = true ∧ σ.path = none)
    staleControlSocket_init (by decide)
  obtain ⟨hstarted, hgone⟩ := of_decide_eq_true hσ
  obtain ⟨socket, -, hpath, -⟩ := h σ hreach false hstarted
  exact nomatch hgone.symm.trans hpath

end EdgeLink
