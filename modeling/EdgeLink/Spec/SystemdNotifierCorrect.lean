import EdgeLink.ForStd.TextInput
import EdgeLink.Native.SystemdNotifier

/-! # What the service manager hears

Over every run of a `SystemdNotifier`, whatever the status texts are and whatever the kernel
answers.

* `lines_notificationText`: the lines of a datagram, which no status can add to.
* `notifyAddress_eq`: the address names the socket of `NOTIFY_SOCKET`, and filling it stays in
  `sun_path`.
* `NotifierInv`: the trace of descriptors and the datagrams after any calls.
* `notifier_protocol`: the result over runs. -/

namespace EdgeLink

open CText UnixAddress DescriptorTrace

namespace SystemdNotifier

/-! ## Texts -/

theorem lineBreak_not_mem_sanitizeStatus (status : Bytes) :
    10 ∉ sanitizeStatus status ∧ 13 ∉ sanitizeStatus status := by
  have hbyte : ∀ c ∈ sanitizeStatus status, c ≠ 10 ∧ c ≠ 13 := by
    intro c hc
    obtain ⟨character, -, rfl⟩ := List.mem_map.mp hc
    split
    · decide
    · rename_i hplain
      exact not_or.mp hplain
  exact ⟨fun hmem => (hbyte _ hmem).1 rfl, fun hmem => (hbyte _ hmem).2 rfl⟩

/-- A status of one line is sent as it is. -/
theorem sanitizeStatus_eq_self {status : Bytes} (hbreak : 10 ∉ status) (hreturn : 13 ∉ status) :
    sanitizeStatus status = status := by
  have hplain : ∀ c ∈ status, (if c = 10 ∨ c = 13 then 32 else c) = c := by
    intro c hc
    rw [if_neg]
    rintro (rfl | rfl)
    · exact hbreak hc
    · exact hreturn hc
  rw [sanitizeStatus, List.map_congr_left hplain, List.map_id'']
  exact fun _ => rfl

/-- The line that a status adds. -/
def statusLines (status : Bytes) : List Bytes :=
  if status.isEmpty then [] else [ascii "STATUS=" ++ sanitizeStatus status]

/-- What the service manager is to hear of a call. -/
def notificationLines : NotifyCall → List Bytes
  | .notifyReady status => ascii "READY=1" :: statusLines status
  | .notifyWatchdog => [ascii "WATCHDOG=1"]
  | .notifyStopping status => ascii "STOPPING=1" :: statusLines status

theorem lines_withStatus {state : Bytes} (hne : state ≠ []) (hbreak : 10 ∉ state)
    (status : Bytes) : lines (withStatus state status) = state :: statusLines status := by
  unfold withStatus statusLines
  split
  · exact lines_eq_singleton hne hbreak
  · have hsplit : state ++ ascii "\nSTATUS=" ++ sanitizeStatus status =
        state ++ 10 :: (ascii "STATUS=" ++ sanitizeStatus status) := by
      rw [List.append_assoc]
      rfl
    have hkey : ascii "STATUS=" ++ sanitizeStatus status ≠ [] := by
      simp [ascii]
    have hone : 10 ∉ ascii "STATUS=" ++ sanitizeStatus status := by
      rw [List.mem_append]
      rintro (hmem | hmem)
      · exact absurd hmem (by decide)
      · exact (lineBreak_not_mem_sanitizeStatus status).1 hmem
    rw [hsplit, lines_append_break hbreak, lines_eq_singleton hkey hone]

/-- The lines of a datagram are those of its call, whatever the status is. -/
theorem lines_notificationText (call : NotifyCall) :
    lines (notificationText call) = notificationLines call := by
  cases call with
  | notifyReady status => exact lines_withStatus (by decide) (by decide) status
  | notifyWatchdog => exact lines_eq_singleton (by decide) (by decide)
  | notifyStopping status => exact lines_withStatus (by decide) (by decide) status

theorem notificationText_ne_nil (call : NotifyCall) : notificationText call ≠ [] := by
  have hstatus : ∀ {state : Bytes}, state ≠ [] → ∀ status, withStatus state status ≠ [] := by
    intro state hne status
    unfold withStatus
    split
    · exact hne
    · simp [hne]
  cases call with
  | notifyReady status => exact hstatus (by decide) status
  | notifyWatchdog => decide
  | notifyStopping status => exact hstatus (by decide) status

/-! ## Watchdog -/

theorem readUnsignedEnvironment_lt {value : Option Bytes} {number : Nat}
    (h : readUnsignedEnvironment value = some number) : number < 2 ^ 64 := by
  unfold readUnsignedEnvironment at h
  split at h
  · cases h
  · split at h
    · cases h
    · split at h
      · cases h
      · rename_i text _ _ n hread
        have hn : number = n := by
          split at h
          · exact (Option.some.inj h).symm
          · cases h
        rw [hn]
        exact stoull_lt hread

/-- The interval is that of `WATCHDOG_USEC` in whole milliseconds: every number that can be
    read fits. -/
theorem watchdogMilliseconds_eq (watchdogUsec : Option Bytes) :
    (watchdogMilliseconds watchdogUsec).toInt =
      ((readUnsignedEnvironment watchdogUsec).getD 0 / 1000 : Nat) := by
  unfold watchdogMilliseconds
  cases hread : readUnsignedEnvironment watchdogUsec with
  | none => rfl
  | some number =>
    have hlt := readUnsignedEnvironment_lt hread
    simp only [Option.getD_some]
    by_cases hzero : number = 0
    · simp [hzero]
    · rw [if_neg hzero]
      by_cases hsmall : number / 1000 = 0
      · simp [hsmall]
      · have hfits : ¬ (number / 1000 = 0 ∨ number / 1000 > 2 ^ 63 - 1) := by omega
        rw [if_neg hfits, Int64.toInt_ofNat_of_lt (by omega)]

/-- A watchdog for another process is none. -/
theorem watchdogInterval_create (environment : NotifyEnvironment) :
    (create environment).watchdogInterval.toInt =
      if ∀ pid, readUnsignedEnvironment environment.watchdogPid = some pid →
          pid = environment.pid then
        ((readUnsignedEnvironment environment.watchdogUsec).getD 0 / 1000 : Nat)
      else 0 := by
  unfold create
  cases hpid : readUnsignedEnvironment environment.watchdogPid with
  | none => simp [watchdogMilliseconds_eq]
  | some pid =>
    by_cases hother : pid = environment.pid
    · simp [hother, watchdogMilliseconds_eq]
    · simp [hother]

/-! ## Addresses -/

/-- The socket that `NOTIFY_SOCKET` names. -/
def notifyTarget (notifySocket : Bytes) : UnixName :=
  if notifySocket.head? = some 64 then .abstract notifySocket.tail else .file notifySocket

/-- An address has room for the name. -/
def hasRoom (notifySocket : Bytes) : Bool :=
  if notifySocket.head? = some 64 then notifySocket.length ≤ pathSize
  else notifySocket.length < pathSize

theorem notifyAddress_eq {notifier : SystemdNotifier} (hne : notifier.notifySocket ≠ [])
    (hzero : 0 ∉ notifier.notifySocket) :
    ∃ address, notifier.notifyAddress = some address ∧
      address.isSome = hasRoom notifier.notifySocket ∧
      ∀ filled, address = some filled →
        filled.denotes = notifyTarget notifier.notifySocket := by
  obtain ⟨notifySocket, interval⟩ := notifier
  simp only at hne hzero
  unfold notifyAddress hasRoom notifyTarget
  by_cases habstract : notifySocket.head? = some 64
  · simp only [habstract, if_true]
    by_cases hlong : notifySocket.length > pathSize
    · rw [if_pos hlong]
      exact ⟨none, rfl, by simp; omega, fun _ h => by cases h⟩
    · obtain ⟨name, rfl⟩ : ∃ name, notifySocket = 64 :: name := by
        cases notifySocket with
        | nil => exact absurd rfl hne
        | cons c name => exact ⟨name, by simpa using habstract⟩
      have hfits : 1 + name.length ≤ pathSize := by
        rw [List.length_cons] at hlong
        omega
      rw [if_neg hlong, List.tail_cons, writeAt_zeroPath hfits]
      refine ⟨_, rfl, by simp at hlong ⊢; omega, fun filled h => ?_⟩
      obtain rfl := Option.some.inj h
      exact denotes_abstract name _
  · simp only [habstract, if_false]
    by_cases hlong : notifySocket.length ≥ pathSize
    · rw [if_pos hlong]
      exact ⟨none, rfl, by simp; omega, fun _ h => by cases h⟩
    · have hfits : 0 + (notifySocket ++ [0]).length ≤ pathSize := by
        rw [List.length_append, List.length_singleton]
        omega
      rw [if_neg hlong, writeAt_zeroPath hfits]
      refine ⟨_, rfl, by simp at hlong ⊢; omega, fun filled h => ?_⟩
      obtain rfl := Option.some.inj h
      have hfile := denotes_file hne hzero
        (List.replicate (pathSize - (0 + (notifySocket ++ [0]).length)) 0)
      simpa [Nat.add_assoc] using hfile

/-! ## One notification -/

variable (kernel : DatagramEnvironment) {notifier : SystemdNotifier}

/-- When a notification is sent in full. -/
def accepts (notifySocket : Bytes) (tick : Nat) (state : Bytes) : Bool :=
  !notifySocket.isEmpty && hasRoom notifySocket && 0 ≤ kernel.socket tick &&
    kernel.sendto (tick + 1) = state.length

/-- A notification that is not sent: no descriptor was opened, or the one that was opened was
    used in vain. -/
inductive Unsent (trace : NotifierTrace) : NotifierTrace → Prop where
  | none : Unsent trace trace
  | failed (fd : Int) : Unsent trace (.closed fd :: .used fd :: .opened fd :: trace)

/-- The result is false and nothing was sent, or a datagram went to the socket of the
    notifier. -/
theorem sendNotification_cases (hzero : 0 ∉ notifier.notifySocket) (trace : NotifierTrace)
    (tick : Nat) {state : Bytes} (hstate : state ≠ []) :
    ∃ trace' tick', notifier.sendNotification kernel trace tick state =
        some (trace', tick', accepts kernel notifier.notifySocket tick state) ∧
      ((Unsent trace trace' ∧ accepts kernel notifier.notifySocket tick state = false) ∨
        ∃ fd address, trace' = .closed fd :: .sent fd (address, state) :: .opened fd :: trace ∧
          address.denotes = notifyTarget notifier.notifySocket ∧
          notifier.isAvailable ∧ hasRoom notifier.notifySocket) := by
  have hfilled : state.isEmpty = false := List.isEmpty_eq_false_iff.mpr hstate
  unfold sendNotification accepts isAvailable
  cases hempty : notifier.notifySocket.isEmpty with
  | true => exact ⟨trace, tick, rfl, .inl ⟨.none, rfl⟩⟩
  | false =>
    obtain ⟨answer, haddress, hroom, hdenotes⟩ :=
      notifyAddress_eq (List.isEmpty_eq_false_iff.mp hempty) hzero
    rw [if_neg (by simp [hfilled]), haddress, ← hroom]
    cases answer with
    | none => exact ⟨trace, tick, rfl, .inl ⟨.none, rfl⟩⟩
    | some address =>
      by_cases hsocket : kernel.socket tick < 0
      · have hclosed : ¬ 0 ≤ kernel.socket tick := by omega
        exact ⟨trace, tick + 1, by simp [hsocket, hclosed], .inl ⟨.none, by simp [hclosed]⟩⟩
      · have hopened : 0 ≤ kernel.socket tick := by omega
        by_cases hsent : kernel.sendto (tick + 1) < 0
        · have hshort : kernel.sendto (tick + 1) ≠ state.length := by omega
          refine ⟨_, tick + 2, ?_, .inl ⟨.failed (kernel.socket tick), ?_⟩⟩
          · simp [hsocket, hsent, hopened]
          · simp [hshort]
        · refine ⟨_, tick + 2, ?_, .inr ⟨kernel.socket tick, address, rfl, hdenotes _ rfl,
            rfl, rfl⟩⟩
          simp [hsocket, hsent, hopened]

end SystemdNotifier

/-! ## Runs -/

open SystemdNotifier

/-- What the notifier sent, newest first. -/
def NotifierState.datagrams (s : NotifierState) : List Bytes :=
  (sentData s.trace).map (·.2)

/-- The texts of the calls that returned true, newest first. -/
def NotifierState.accepted (s : NotifierState) : List Bytes :=
  (s.calls.filter (·.2)).map (notificationText ·.1)

/-- The notifier after any calls. -/
structure NotifierInv (environment : NotifyEnvironment) (s : NotifierState) : Prop where
  notifier_eq : s.notifier = .create environment
  proper : Proper s.trace
  closed : ∀ fd, isOpen fd s.trace = false
  addressed : ∀ datagram ∈ sentData s.trace,
    datagram.1.denotes = notifyTarget s.notifier.notifySocket ∧
      s.notifier.isAvailable ∧ hasRoom s.notifier.notifySocket
  accepted_sent : s.accepted.Sublist s.datagrams
  sent_called : s.datagrams.Sublist (s.calls.map (notificationText ·.1))

variable {environment : NotifyEnvironment} {s : NotifierState}

/-- The environment's texts are C strings. -/
theorem zero_not_mem_notifySocket (environment : NotifyEnvironment) :
    0 ∉ (create environment).notifySocket := by
  unfold create
  cases environment.notifySocket with
  | none => exact List.not_mem_nil
  | some text => exact zero_not_mem_cString text

/-- Opening a descriptor, one call on it and closing it leaves every descriptor closed. -/
theorem closed_of_closed {trace : NotifierTrace} (hclosed : ∀ fd, isOpen fd trace = false)
    (opened fd : Int) : isOpen fd (.closed opened :: .opened opened :: trace) = false := by
  by_cases heq : opened = fd
  · subst heq
    exact isOpen_closed_self
  · rw [isOpen_closed_ne heq, isOpen_opened_ne heq]
    exact hclosed fd

theorem notifierInv_init : NotifierInv environment ⟨.create environment, [], 0, []⟩ where
  notifier_eq := rfl
  proper := trivial
  closed _ := rfl
  addressed _ hmem := absurd hmem List.not_mem_nil
  accepted_sent := List.Sublist.refl _
  sent_called := List.Sublist.refl _

/-- Every call runs to its end, and what holds between two calls holds after it. -/
theorem perform_inv (kernel : DatagramEnvironment) (h : NotifierInv environment s)
    (call : NotifyCall) :
    ∃ s', s.perform kernel call = some s' ∧ NotifierInv environment s' ∧
      s'.calls = (call, accepts kernel s.notifier.notifySocket s.tick
        (notificationText call)) :: s.calls := by
  have hzero : 0 ∉ s.notifier.notifySocket :=
    h.notifier_eq ▸ zero_not_mem_notifySocket environment
  obtain ⟨trace', tick', hsend, hcases⟩ :=
    sendNotification_cases kernel hzero s.trace s.tick (notificationText_ne_nil call)
  refine ⟨_, by rw [NotifierState.perform, hsend, Option.map_some], ?_, rfl⟩
  rcases hcases with ⟨hunsent, hrefused⟩ | ⟨fd, address, rfl, hdenotes, havailable, hroom⟩
  · -- the datagrams are those of before
    have hcall : ∀ {trace}, sentData trace = sentData s.trace →
        (∀ fd, isOpen fd trace = false) → Proper trace →
        NotifierInv environment ⟨s.notifier, trace, tick',
          (call, accepts kernel s.notifier.notifySocket s.tick (notificationText call)) ::
            s.calls⟩ := by
      intro trace hsame hclosed hproper
      refine ⟨h.notifier_eq, hproper, hclosed, fun d hd => h.addressed d (hsame ▸ hd), ?_, ?_⟩
      · simpa [NotifierState.accepted, NotifierState.datagrams, hrefused, hsame]
          using h.accepted_sent
      · rw [NotifierState.datagrams, hsame]
        exact h.sent_called.cons _
    cases hunsent with
    | none => exact hcall rfl h.closed h.proper
    | failed fd =>
      exact hcall rfl (fun fd' => closed_of_closed h.closed fd fd')
        ⟨isOpen_opened_self, isOpen_opened_self, h.closed fd, h.proper⟩
  · constructor
    case notifier_eq => exact h.notifier_eq
    case proper => exact ⟨isOpen_opened_self, isOpen_opened_self, h.closed fd, h.proper⟩
    case closed => exact fun fd' => closed_of_closed h.closed fd fd'
    case addressed =>
      intro datagram hmem
      rcases List.mem_cons.mp hmem with rfl | hmem
      · exact ⟨hdenotes, havailable, hroom⟩
      · exact h.addressed datagram hmem
    case accepted_sent =>
      have hbefore : s.accepted.Sublist s.datagrams := h.accepted_sent
      unfold NotifierState.accepted NotifierState.datagrams
      rw [List.filter_cons]
      split
      · exact hbefore.cons_cons _
      · exact hbefore.cons _
    case sent_called => exact h.sent_called.cons_cons _

/-- The invariant over every run. -/
theorem notifier_invariant {kernel : DatagramEnvironment}
    (h : (systemdSystem kernel environment).Reachable TransitionSystem.anyStep s) :
    NotifierInv environment s := by
  refine h.invariant (NotifierInv environment) ?_ ?_
  · rintro s rfl
    exact notifierInv_init
  · intro s call s' _ hs _ hstep
    obtain ⟨s₁, hperform, hinv, -⟩ := perform_inv kernel hs call
    obtain rfl := Option.some.inj (hperform.symm.trans hstep)
    exact hinv

/-- Over every run of the notifier, whatever the environment says, the status texts are and
    the kernel answers: every call stays inside `sun_path` and returns true exactly when the
    notification was accepted in full; every descriptor is closed again; every datagram goes to
    the socket that `NOTIFY_SOCKET` names, as long as it has room; and the datagrams are, in
    the order of the calls, those of all calls that returned true and of no more than the
    calls made, each with the lines of its call and no others. -/
theorem notifier_protocol (kernel : DatagramEnvironment) (environment : NotifyEnvironment)
    {s : NotifierState}
    (h : (systemdSystem kernel environment).Reachable TransitionSystem.anyStep s) :
    (∀ call, ∃ s', s.perform kernel call = some s' ∧
      s'.calls = (call, accepts kernel (create environment).notifySocket s.tick
        (notificationText call)) :: s.calls) ∧
      Proper s.trace ∧ (∀ fd, s.trace.count (.opened fd) = s.trace.count (.closed fd)) ∧
      (∀ datagram ∈ sentData s.trace,
        datagram.1.denotes = notifyTarget (create environment).notifySocket ∧
          (create environment).isAvailable ∧ hasRoom (create environment).notifySocket) ∧
      ((s.calls.filter (·.2)).map (notificationLines ·.1)).Sublist
        ((sentData s.trace).map (lines ·.2)) ∧
      ((sentData s.trace).map (lines ·.2)).Sublist (s.calls.map (notificationLines ·.1)) := by
  have hinv := notifier_invariant h
  have hlines : ∀ calls : List (NotifyCall × Bool),
      calls.map (notificationLines ·.1) = (calls.map (notificationText ·.1)).map lines := by
    intro calls
    rw [List.map_map]
    exact List.map_congr_left fun call _ => (lines_notificationText call.1).symm
  have hdatagrams : (sentData s.trace).map (lines ·.2) = s.datagrams.map lines := by
    rw [NotifierState.datagrams, List.map_map]
    rfl
  rw [← hinv.notifier_eq, hlines, hlines, hdatagrams]
  refine ⟨fun call => ?_, hinv.proper, fun fd => ?_, hinv.addressed,
    hinv.accepted_sent.map lines, hinv.sent_called.map lines⟩
  · obtain ⟨s', hperform, -, hcalls⟩ := perform_inv kernel hinv call
    exact ⟨s', hperform, hcalls⟩
  · rw [hinv.proper.opened_eq fd, hinv.closed fd]
    rfl

theorem notifier_protocol_sample :
    ∃ s : NotifierState,
      s.calls.map (·.2) = [true, true] ∧
      (sentData s.trace).map (lines ·.2) =
        [[ascii "WATCHDOG=1"], [ascii "READY=1", ascii "STATUS=a STOPPING=1"]] ∧
      ∀ datagram ∈ sentData s.trace, datagram.1.denotes = .abstract (ascii "n") := by
  obtain ⟨s, -, hreach, hsent⟩ := TransitionSystem.exists_of_run
    (systemdSystem ⟨fun _ => 3, fun tick => if tick = 1 then 27 else 10⟩
      ⟨some (ascii "@n"), none, none, 1⟩)
    TransitionSystem.anyStep
    [.notifyReady (ascii "a\nSTOPPING=1"), .notifyWatchdog]
    (fun s => s.calls.map (·.2) = [true, true] ∧
      (sentData s.trace).map (lines ·.2) =
        [[ascii "WATCHDOG=1"], [ascii "READY=1", ascii "STATUS=a STOPPING=1"]])
    rfl (by decide +kernel)
  obtain ⟨hresults, hlines⟩ := of_decide_eq_true hsent
  refine ⟨s, hresults, hlines, fun datagram hmem => ?_⟩
  exact ((notifier_protocol _ _ hreach).2.2.2.1 datagram hmem).1

end EdgeLink
