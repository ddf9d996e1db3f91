import Mathlib.Data.List.Count

/-! # Traces of calls on descriptors

What a program did with numbered descriptors, newest call first. Numbers are reused: a
descriptor is open from the call that returns its number to the call that closes it.

* `isOpen`: whether a number names an open descriptor after a trace.
* `inputs`, `outputs`: what was received and sent on it since it was opened.
* `sentData`: what was sent on any number.
* `Proper`: every call of the trace names an open descriptor, and an open number is not
  given out again.
* `Proper.opened_eq`: in a proper trace each opening was closed exactly once, the open
  ones not yet. -/

/-- A call that names a descriptor. `used` is a call that transfers nothing. -/
inductive DescriptorCall (Input Output : Type) where
  | opened (fd : Int)
  | closed (fd : Int)
  | used (fd : Int)
  | received (fd : Int) (input : Input)
  | sent (fd : Int) (output : Output)
deriving DecidableEq

/-- The calls of a program, newest first. -/
abbrev DescriptorTrace (Input Output : Type) := List (DescriptorCall Input Output)

namespace DescriptorTrace

variable {Input Output : Type}

/-- The number names an open descriptor. -/
def isOpen (fd : Int) : DescriptorTrace Input Output → Bool
  | [] => false
  | .opened fd' :: earlier => if fd' = fd then true else isOpen fd earlier
  | .closed fd' :: earlier => if fd' = fd then false else isOpen fd earlier
  | .used _ :: earlier => isOpen fd earlier
  | .received _ _ :: earlier => isOpen fd earlier
  | .sent _ _ :: earlier => isOpen fd earlier

/-- What was received since the descriptor was opened, oldest first. -/
def inputs (fd : Int) : DescriptorTrace Input Output → List Input
  | [] => []
  | .opened fd' :: earlier => if fd' = fd then [] else inputs fd earlier
  | .received fd' input :: earlier =>
    if fd' = fd then inputs fd earlier ++ [input] else inputs fd earlier
  | .closed _ :: earlier => inputs fd earlier
  | .used _ :: earlier => inputs fd earlier
  | .sent _ _ :: earlier => inputs fd earlier

/-- What was sent since the descriptor was opened, oldest first. -/
def outputs (fd : Int) : DescriptorTrace Input Output → List Output
  | [] => []
  | .opened fd' :: earlier => if fd' = fd then [] else outputs fd earlier
  | .sent fd' output :: earlier =>
    if fd' = fd then outputs fd earlier ++ [output] else outputs fd earlier
  | .closed _ :: earlier => outputs fd earlier
  | .used _ :: earlier => outputs fd earlier
  | .received _ _ :: earlier => outputs fd earlier

/-- Everything that was sent on any descriptor, newest first. -/
def sentData : DescriptorTrace Input Output → List Output
  | [] => []
  | .sent _ output :: earlier => output :: sentData earlier
  | .opened _ :: earlier => sentData earlier
  | .closed _ :: earlier => sentData earlier
  | .used _ :: earlier => sentData earlier
  | .received _ _ :: earlier => sentData earlier

/-- The call can be made after `earlier`: a new number is one that is not open, any other
    call names an open descriptor. -/
def Allowed (earlier : DescriptorTrace Input Output) : DescriptorCall Input Output → Prop
  | .opened fd => isOpen fd earlier = false
  | .closed fd => isOpen fd earlier = true
  | .used fd => isOpen fd earlier = true
  | .received fd _ => isOpen fd earlier = true
  | .sent fd _ => isOpen fd earlier = true

/-- Every call of the trace could be made when it was. -/
def Proper : DescriptorTrace Input Output → Prop
  | [] => True
  | call :: earlier => Allowed earlier call ∧ Proper earlier

section

variable {fd fd' : Int} {trace : DescriptorTrace Input Output}

@[simp] theorem isOpen_opened_self : isOpen fd (.opened fd :: trace) = true :=
  if_pos rfl

theorem isOpen_opened_ne (h : fd' ≠ fd) : isOpen fd (.opened fd' :: trace) = isOpen fd trace :=
  if_neg h

@[simp] theorem isOpen_closed_self : isOpen fd (.closed fd :: trace) = false :=
  if_pos rfl

theorem isOpen_closed_ne (h : fd' ≠ fd) : isOpen fd (.closed fd' :: trace) = isOpen fd trace :=
  if_neg h

@[simp] theorem isOpen_used : isOpen fd (.used fd' :: trace) = isOpen fd trace := rfl

@[simp] theorem isOpen_received (input : Input) :
    isOpen fd (.received fd' input :: trace) = isOpen fd trace := rfl

@[simp] theorem isOpen_sent (output : Output) :
    isOpen fd (.sent fd' output :: trace) = isOpen fd trace := rfl

@[simp] theorem inputs_used : inputs fd (.used fd' :: trace) = inputs fd trace := rfl

@[simp] theorem inputs_closed : inputs fd (.closed fd' :: trace) = inputs fd trace := rfl

@[simp] theorem inputs_sent (output : Output) :
    inputs fd (.sent fd' output :: trace) = inputs fd trace := rfl

@[simp] theorem inputs_opened_self : inputs fd (.opened fd :: trace) = [] :=
  if_pos rfl

theorem inputs_opened_ne (h : fd' ≠ fd) : inputs fd (.opened fd' :: trace) = inputs fd trace :=
  if_neg h

@[simp] theorem inputs_received_self (input : Input) :
    inputs fd (.received fd input :: trace) = inputs fd trace ++ [input] :=
  if_pos rfl

theorem inputs_received_ne (h : fd' ≠ fd) (input : Input) :
    inputs fd (.received fd' input :: trace) = inputs fd trace :=
  if_neg h

@[simp] theorem outputs_used : outputs fd (.used fd' :: trace) = outputs fd trace := rfl

@[simp] theorem outputs_closed : outputs fd (.closed fd' :: trace) = outputs fd trace := rfl

@[simp] theorem outputs_received (input : Input) :
    outputs fd (.received fd' input :: trace) = outputs fd trace := rfl

@[simp] theorem outputs_opened_self : outputs fd (.opened fd :: trace) = [] :=
  if_pos rfl

theorem outputs_opened_ne (h : fd' ≠ fd) :
    outputs fd (.opened fd' :: trace) = outputs fd trace :=
  if_neg h

@[simp] theorem outputs_sent_self (output : Output) :
    outputs fd (.sent fd output :: trace) = outputs fd trace ++ [output] :=
  if_pos rfl

theorem outputs_sent_ne (h : fd' ≠ fd) (output : Output) :
    outputs fd (.sent fd' output :: trace) = outputs fd trace :=
  if_neg h

end

variable [DecidableEq Input] [DecidableEq Output]

/-- In a proper trace a number was closed as often as it was opened, except for the
    opening that is still open. -/
theorem Proper.opened_eq {trace : DescriptorTrace Input Output} (h : Proper trace) (fd : Int) :
    trace.count (.opened fd) =
      trace.count (.closed fd) + (isOpen fd trace).toNat := by
  induction trace with
  | nil => simp [isOpen]
  | cons call earlier ih =>
    have hearlier := ih h.2
    have hallowed := h.1
    cases call with
    | opened fd' =>
      by_cases heq : fd' = fd
      · subst heq
        have hnew : isOpen fd' earlier = false := hallowed
        simp [isOpen, hearlier, hnew]
      · simp [isOpen, heq, hearlier]
    | closed fd' =>
      by_cases heq : fd' = fd
      · subst heq
        have hold : isOpen fd' earlier = true := hallowed
        simp [isOpen, hearlier, hold]
      · simp [isOpen, heq, hearlier]
    | used | received | sent => simp [hearlier]

end DescriptorTrace
