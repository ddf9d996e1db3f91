import EdgeLink.ForStd.Padding
import EdgeLink.Native.ControlCommandProcessor
import EdgeLink.Spec.UnixDomainServerCorrect

/-!
# The control grammar

Which requests get which of the five responses.

* `trim_of_padded`, `trim_eq_iff`: `trim` cuts out the bare core of its argument.
* `toUpper_trim_eq_iff`: a trimmed request in upper case is a command name exactly when the
  request spells the name in any mix of cases, between white space.
* `control_grammar`: the five responses.
* `every_request_answered`: no response is empty, so the control server of the gateway answers
  every request.
-/

namespace EdgeLink.ControlCommandProcessor

open CText DescriptorTrace Padding

/-! ## Trimming -/

/-- `trim` finds the bare core. -/
theorem trim_of_padded {core text : Bytes} (h : Padded isSpace core text)
    (hbare : Bare isSpace core) : trim text = core := by
  obtain ⟨before, after, rfl, hbefore, hafter⟩ := h
  by_cases hne : core = []
  · -- nothing but white space: both scans pass all of it, and their end points have crossed
    subst hne
    have hall : (before ++ [] ++ after).all isSpace := by simp [hbefore, hafter]
    have hback := findIdx_of_all (List.all_reverse.trans hall)
    rw [List.length_reverse] at hback
    simp only [trim, findIdx_of_all hall, hback, Nat.sub_self, ge_iff_le, Nat.zero_le, if_true]
  · have hfirst := findIdx_of_bare hbefore hbare hne after
    have hlast := findIdx_reverse_of_bare hafter hbare hne before
    have hlength : (before ++ core ++ after).length - after.length = (before ++ core).length := by
      rw [List.length_append, Nat.add_sub_cancel]
    have hlt : ¬ before.length ≥ (before ++ core).length := by
      have hpos := List.length_pos_iff.mpr hne
      rw [List.length_append]
      omega
    simp only [trim, hfirst, hlast, hlength, if_neg hlt]
    rw [List.take_left, List.drop_left]

/-- `trim` returns a bare core exactly where it has this core between white space. -/
theorem trim_eq_iff {core : Bytes} (hbare : Bare isSpace core) (text : Bytes) :
    trim text = core ↔ Padded isSpace core text := by
  refine ⟨fun htrim => ?_, fun hpadded => trim_of_padded hpadded hbare⟩
  obtain ⟨core', hpadded, hbare'⟩ := exists_bare isSpace text
  rwa [← htrim, trim_of_padded hpadded hbare']

/-! ## Commands -/

/-- The request is a command name in any mix of letter cases, between white space. -/
def Spells (name request : Bytes) : Prop :=
  ∃ word, Padded isSpace word request ∧ AnyCase name word

/-- A name that is spelled has no white space at its ends. -/
theorem bare_of_anyCase {name word : Bytes} (hname : name.all isUpper)
    (h : AnyCase name word) : Bare isSpace word :=
  bare_of_forall fun c hc => (not_space_of_isLetter (isLetter_of_anyCase hname h c hc)).1

/-- What `process` compares with a name decides whether the request spells it. -/
theorem toUpper_trim_eq_iff {name : Bytes} (hname : name.all isUpper) (request : Bytes) :
    toUpper (trim request) = name ↔ Spells name request := by
  rw [toUpper, map_toUpper_eq_iff hname]
  constructor
  · intro hspelled
    exact ⟨_, (trim_eq_iff (bare_of_anyCase hname hspelled) request).mp rfl, hspelled⟩
  · rintro ⟨word, hpadded, hspelled⟩
    rwa [trim_of_padded hpadded (bare_of_anyCase hname hspelled)]

/-- Only white space is trimmed to nothing. -/
theorem toUpper_trim_eq_nil_iff (request : Bytes) :
    toUpper (trim request) = [] ↔ ∀ c ∈ request, isSpace c = true := by
  have hbare : Bare isSpace ([] : Bytes) := bare_of_forall fun _ hc => nomatch hc
  rw [toUpper, List.map_eq_nil_iff, trim_eq_iff hbare, padded_nil_iff, List.all_eq_true]

/-- A request with white space or a NUL inside spells no name. -/
theorem not_spells_of_mem {name core request : Bytes} (hname : name.all isUpper)
    (hpadded : Padded isSpace core request) (hbare : Bare isSpace core) {c : UInt8}
    (hc : c ∈ core) (hcase : isSpace c = true ∨ c = 0) : ¬ Spells name request := by
  rintro ⟨word, hword, hspelled⟩
  have heq : core = word := by
    rw [← trim_of_padded hpadded hbare, trim_of_padded hword (bare_of_anyCase hname hspelled)]
  obtain ⟨hspace, hzero⟩ := not_space_of_isLetter (isLetter_of_anyCase hname hspelled c (heq ▸ hc))
  rcases hcase with hcase | hcase
  · rw [hspace] at hcase
    exact nomatch hcase
  · exact hzero hcase

/-- `process`, case by case. -/
theorem process_iff (request : Bytes) :
    let command := toUpper (trim request)
    (process request = ascii "OK PONG" ↔ command = ascii "PING") ∧
    (process request = ascii "OK RUNNING" ↔ command = ascii "STATUS") ∧
    (process request = ascii "OK COMMANDS PING STATUS HELP" ↔ command = ascii "HELP") ∧
    (process request = ascii "ERROR EMPTY_COMMAND" ↔ command = []) ∧
    (process request = ascii "ERROR UNKNOWN_COMMAND" ↔ command ≠ ascii "PING" ∧
      command ≠ ascii "STATUS" ∧ command ≠ ascii "HELP" ∧ command ≠ []) := by
  unfold process
  generalize toUpper (trim request) = command
  dsimp only
  split
  · rename_i hempty
    rw [List.isEmpty_iff.mp hempty]
    decide
  · rename_i hempty
    split
    · rename_i hping
      rw [hping]
      decide
    · rename_i hping
      split
      · rename_i hstatus
        rw [hstatus]
        decide
      · rename_i hstatus
        split
        · rename_i hhelp
          rw [hhelp]
          decide
        · rename_i hhelp
          rw [List.isEmpty_iff] at hempty
          exact ⟨iff_of_false (by decide) hping, iff_of_false (by decide) hstatus,
            iff_of_false (by decide) hhelp, iff_of_false (by decide) hempty,
            iff_of_true rfl ⟨hping, hstatus, hhelp, hempty⟩⟩

/-! ## The grammar -/

/-- A request gets the response of a command exactly when it spells the command's name
    between white space, and the response for an empty command exactly when there is nothing
    but white space. All other requests are unknown commands; so are those with white space or
    a NUL inside. -/
theorem control_grammar (request : Bytes) :
    (process request = ascii "OK PONG" ↔ Spells (ascii "PING") request) ∧
    (process request = ascii "OK RUNNING" ↔ Spells (ascii "STATUS") request) ∧
    (process request = ascii "OK COMMANDS PING STATUS HELP" ↔ Spells (ascii "HELP") request) ∧
    (process request = ascii "ERROR EMPTY_COMMAND" ↔ ∀ c ∈ request, isSpace c = true) ∧
    (process request = ascii "ERROR UNKNOWN_COMMAND" ↔ ¬ Spells (ascii "PING") request ∧
      ¬ Spells (ascii "STATUS") request ∧ ¬ Spells (ascii "HELP") request ∧
      ¬ ∀ c ∈ request, isSpace c = true) ∧
    ∀ core, Padded isSpace core request → Bare isSpace core →
      (∃ c ∈ core, isSpace c = true ∨ c = 0) →
      process request = ascii "ERROR UNKNOWN_COMMAND" := by
  have hping : toUpper (trim request) = ascii "PING" ↔ _ :=
    toUpper_trim_eq_iff (by decide) request
  have hstatus : toUpper (trim request) = ascii "STATUS" ↔ _ :=
    toUpper_trim_eq_iff (by decide) request
  have hhelp : toUpper (trim request) = ascii "HELP" ↔ _ :=
    toUpper_trim_eq_iff (by decide) request
  have hblank := toUpper_trim_eq_nil_iff request
  rw [← hping, ← hstatus, ← hhelp, ← hblank]
  obtain ⟨hpong, hrunning, hcommands, hempty, hunknown⟩ := process_iff request
  refine ⟨hpong, hrunning, hcommands, hempty, hunknown, ?_⟩
  rintro core hpadded hbare ⟨c, hc, hcase⟩
  rw [hunknown, Ne, Ne, Ne, hping, hstatus, hhelp]
  have hnot {name : Bytes} (hname : name.all isUpper) : ¬ Spells name request :=
    not_spells_of_mem hname hpadded hbare hc hcase
  refine ⟨hnot (by decide), hnot (by decide), hnot (by decide), ?_⟩
  rw [toUpper, trim_of_padded hpadded hbare, Ne, List.map_eq_nil_iff]
  exact List.ne_nil_of_mem hc

/-- A blank inside of a command. -/
theorem control_grammar_inner_blank :
    process (ascii " pi ng ") = ascii "ERROR UNKNOWN_COMMAND" := by
  have hbare : Bare isSpace (ascii "pi ng") := by
    constructor <;> intro c hc
    · obtain rfl : 112 = c := Option.some.inj hc
      rfl
    · obtain rfl : 103 = c := Option.some.inj hc
      rfl
  exact (control_grammar _).2.2.2.2.2 (ascii "pi ng") ⟨[32], [32], rfl, rfl, rfl⟩ hbare
    ⟨32, by decide, .inl rfl⟩

/-! ## The control server of the gateway -/

/-- No response is empty. -/
theorem process_ne_nil (request : Bytes) : process request ≠ [] := by
  unfold process
  dsimp only
  split_ifs <;> decide

/-- Nor is the one for a message that is too long. -/
theorem controlResponse_handled_ne_nil (message : Bytes) :
    controlResponse (handled message) ≠ [] := by
  unfold controlResponse
  split
  · decide
  · exact process_ne_nil message

/-- A client of the gateway gets exactly one response for each of its messages, in order:
    those that are not sent yet wait in `outputMessages`. -/
theorem every_request_answered {server : UnixDomainServer}
    (h : unixDomainServerSystem.Reachable TransitionSystem.anyStep server) {fd : Int}
    {client : ClientState (List Bytes)} (hlookup : server.clients.lookup fd = some client)
    {messages : List Bytes}
    (hmessages : inputs fd server.loop.trace = messages.map handled) :
    outputs fd server.loop.trace ++ client.output =
      messages.map fun message => controlResponse (handled message) := by
  have hrelated : outputs fd server.loop.trace ++ client.output =
      nonEmptyResponses (inputs fd server.loop.trace) :=
    ((UnixDomainServer.lawfulHandlers.serverInv h).clients fd client hlookup).related
  rw [hrelated, hmessages, nonEmptyResponses, List.map_map]
  refine List.filter_eq_self.mpr fun response hresponse => ?_
  obtain ⟨message, -, rfl⟩ := List.mem_map.mp hresponse
  simpa using controlResponse_handled_ne_nil message

end EdgeLink.ControlCommandProcessor
